import BracketToken.Proofs.DateGrammar

/-!
Why date tokens are refused, said without a reader.

A body that opens with an anchor is refused for the first of its clauses that is none, any other
body for its shape, then its month, then its year. Main statement: `read_eq_error_iff_fault`, the
reader refuses exactly the tokens that have a fault, each with the error of that fault.
-/

namespace BracketToken.DateToken

open Numeral

/-- What is wrong at the front of a text where a clause has to stand. A bad unit hides a number that
is too large. -/
inductive Misfit (token : String) (text : List Char) : Error → Prop
  | shape : text ≠ [] → (∀ minus digits word rest, ¬ Opens text minus digits word rest) →
      Misfit token text (.invalidFormat token)
  | unit {minus digits word rest} : Opens text minus digits word rest →
      (∀ unit : CalendarUnit, word ≠ unit.keyword.toList) →
      Misfit token text (.invalidUnit (.ofList word))
  | amount {minus digits rest} {unit : CalendarUnit} :
      Opens text minus digits unit.keyword.toList rest → 9223372036854775807 < value digits →
      Misfit token text (.outOfRange (.amount digits unit))

/-- The first misfit of a row of clauses decides, whatever follows it. -/
inductive FirstMisfit (token : String) : List Char → Error → Prop
  | here {text e} : Misfit token text e → FirstMisfit token text e
  | later {c : Clause} {rest e} : c.Legal → Stops rest → FirstMisfit token rest e →
      FirstMisfit token (c.chars ++ rest) e

/-- What is wrong with a body that opens with no anchor. -/
inductive BoundaryFault (token : String) (body : List Char) : Error → Prop
  | shape : (∀ edge name year, ¬ Shaped body edge name year) →
      BoundaryFault token body (.invalidFormat token)
  | month {edge name year} : Shaped body edge name year → (∀ month, ¬ Names name month) →
      BoundaryFault token body (.invalidMonth (.ofList name))
  | year {edge name year month} : Shaped body edge name year → Names name month →
      value year = 0 ∨ 9999 < value year → BoundaryFault token body (.invalidYear (.ofList year))

/-- What is wrong with a token. An anchor in front of a body commits it to the relative grammar. -/
inductive Fault (token : String) : Error → Prop
  | brackets : (∀ body, ¬ Bracket.Encloses token.toList body) → Fault token (.invalidFormat token)
  | relative {anchor : Anchor} {text e} :
      Bracket.Encloses token.toList (anchor.keyword.toList ++ text) → FirstMisfit token text e →
      Fault token e
  | boundary {body e} : Bracket.Encloses token.toList body →
      (∀ anchor : Anchor, ¬ anchor.keyword.toList <+: body) → BoundaryFault token body e →
      Fault token e

theorem CalendarUnit.ofKeyword?_eq_none_iff {word : List Char} :
    ofKeyword? word = none ↔ ∀ unit : CalendarUnit, word ≠ unit.keyword.toList :=
  eq_none_iff_of_eq_some_iff fun _ => ofKeyword?_eq_some_iff

theorem monthNamed?_eq_none_iff {name : List Char} :
    monthNamed? name = none ↔ ∀ month, ¬ Names name month :=
  eq_none_iff_of_eq_some_iff fun _ => monthNamed?_eq_some_iff

theorem Anchor.split?_eq_none_iff {body : List Char} :
    split? body = none ↔ ∀ anchor : Anchor, ¬ anchor.keyword.toList <+: body := by
  rw [Option.eq_none_iff_forall_ne_some]
  simp only [Prod.forall, ne_eq, split?_eq_some_iff, List.IsPrefix, not_exists,
    eq_comm (b := body)]

theorem misfit_of_clause {token : String} {text : List Char} {e : Error} (hne : text ≠ [])
    (h : clause token text = .error e) : Misfit token text e := by
  by_cases hopens : ∃ minus digits word rest, Opens text minus digits word rest
  · obtain ⟨minus, digits, word, rest, hopens⟩ := hopens
    rw [hopens.clause_eq] at h
    cases hunit : CalendarUnit.ofKeyword? word with
    | none =>
        rw [hunit] at h
        cases h
        exact .unit hopens (CalendarUnit.ofKeyword?_eq_none_iff.1 hunit)
    | some unit =>
        obtain rfl := CalendarUnit.ofKeyword?_eq_some_iff.1 hunit
        cases hmagnitude : int64? (value digits) with
        | none =>
            simp only [hunit, hmagnitude] at h
            cases h
            exact .amount hopens (int64?_eq_none_iff.1 hmagnitude)
        | some magnitude =>
            simp only [hunit, hmagnitude] at h
            cases h
  · simp only [not_exists] at hopens
    rw [clause_of_not_opens hopens] at h
    cases h
    exact .shape hne hopens

theorem Misfit.clause_eq {token : String} {text : List Char} {e : Error} (h : Misfit token text e) :
    clause token text = .error e := by
  cases h with
  | shape hne hopens => exact clause_of_not_opens hopens token
  | unit hopens hunit =>
      rw [hopens.clause_eq, CalendarUnit.ofKeyword?_eq_none_iff.2 hunit]
  | amount hopens hlarge =>
      simp only [hopens.clause_eq, CalendarUnit.ofKeyword?_keyword,
        int64?_eq_none_iff.2 hlarge]

theorem Misfit.ne_nil {token : String} {text : List Char} {e : Error} (h : Misfit token text e) :
    text ≠ [] := by
  cases h with
  | shape hne hopens => exact hne
  | unit hopens hunit =>
      rw [hopens.text]
      exact List.cons_ne_nil _ _
  | amount hopens hlarge =>
      rw [hopens.text]
      exact List.cons_ne_nil _ _

theorem clauses_eq_error_iff {token : String} {text : List Char} {e : Error} :
    clauses token text = .error e ↔ FirstMisfit token text e := by
  constructor
  · intro h
    fun_induction clauses token text with
    | case1 text hempty => cases h
    | case2 text hne e' he =>
        cases h
        exact .here (misfit_of_clause (by rwa [List.isEmpty_iff] at hne) he)
    | case3 text hne a rest hclause ih =>
        obtain ⟨c, hc, -, htext, hrest⟩ := exists_clause_of_clause hclause
        rw [htext]
        exact .later hc hrest (ih (map_eq_error_iff.1 h))
  · intro h
    induction h with
    | here h =>
        rw [clauses_of_ne_nil token h.ne_nil, h.clause_eq]
        rfl
    | later hc hrest _ ih =>
        obtain ⟨a, ha, -⟩ := hc.clause_eq token hrest
        rw [clauses_of_clause ha, ih]
        rfl

theorem boundary_eq_error_iff {token : String} {body : List Char} {e : Error} :
    boundary token body = .error e ↔ BoundaryFault token body e := by
  constructor
  · intro h
    by_cases hshaped : ∃ edge name year, Shaped body edge name year
    · obtain ⟨edge, name, year, hshaped⟩ := hshaped
      rw [hshaped.boundary_eq] at h
      cases hmonth : monthNamed? name with
      | none =>
          rw [hmonth] at h
          cases h
          exact .month hshaped (monthNamed?_eq_none_iff.1 hmonth)
      | some month =>
          simp only [hmonth] at h
          split at h
          · cases h
          · next hmem =>
              cases h
              rw [isBoundaryYear_eq_true_iff] at hmem
              exact .year hshaped (monthNamed?_eq_some_iff.1 hmonth) (by omega)
    · simp only [not_exists] at hshaped
      rw [boundary_of_not_shaped hshaped] at h
      cases h
      exact .shape hshaped
  · intro h
    cases h with
    | shape hshaped => exact boundary_of_not_shaped hshaped token
    | month hshaped hmonth => rw [hshaped.boundary_eq, monthNamed?_eq_none_iff.2 hmonth]
    | year hshaped hmonth hyear =>
        simp only [hshaped.boundary_eq, monthNamed?_eq_some_iff.2 hmonth]
        refine if_neg fun hmem => ?_
        rw [isBoundaryYear_eq_true_iff] at hmem
        omega

/-- The one error of a refused token, kind and text, from the one fault that counts. -/
theorem read_eq_error_iff_fault (token : String) (e : Error) :
    (read token).outcome = .error e ↔ Fault token e := by
  rw [read_outcome]
  constructor
  · intro h
    split at h
    · next hinner =>
        cases h
        exact .brackets (Bracket.inner?_eq_none_iff.1 hinner)
    · next body hinner =>
        have hbody := Bracket.inner?_eq_some_iff_encloses.1 hinner
        split at h
        · next anchor text hsplit =>
            rw [Anchor.split?_eq_some_iff.1 hsplit] at hbody
            exact .relative hbody (clauses_eq_error_iff.1 (map_eq_error_iff.1 h))
        · next hsplit =>
            exact .boundary hbody (Anchor.split?_eq_none_iff.1 hsplit)
              (boundary_eq_error_iff.1 (map_eq_error_iff.1 h))
  · intro h
    cases h with
    | brackets hbody => rw [Bracket.inner?_eq_none_iff.2 hbody]
    | relative hbody hmisfit =>
        simp only [Bracket.inner?_eq_some_iff_encloses.2 hbody, Anchor.split?_eq_some_iff.2 rfl]
        exact map_eq_error_iff.2 (clauses_eq_error_iff.2 hmisfit)
    | boundary hbody hanchor hfault =>
        simp only [Bracket.inner?_eq_some_iff_encloses.2 hbody, Anchor.split?_eq_none_iff.2 hanchor]
        exact map_eq_error_iff.2 (boundary_eq_error_iff.2 hfault)

/-- The unit is named, neither its number nor the broken clause behind it. -/
example : (read "[TODAY+1DAY-99999999999999999999WEEK+]").outcome = .error (.invalidUnit "WEEK") := by
  decide +kernel

end BracketToken.DateToken
