import BracketToken.Proofs.Casing
import BracketToken.Proofs.Clause
import Mathlib.Data.List.Nodup

/-!
The grammar of date tokens, said without a reader.

A phrase is a token taken apart: an anchor and its clauses, or an edge, a month with its name as
written, and the digits of a year. Main statement: `date_read_iff_phrase`, the reader takes exactly
the texts of legal phrases, and takes each for the one phrase that it is the text of.
-/

namespace BracketToken.DateToken

open Numeral

/-- Equal up to the case of ASCII letters. -/
def SameLetters (text other : List Char) : Prop := text.map Char.toLower = other.map Char.toLower

/-- Whether a text is the English name of the month with that number. -/
def Names (name : List Char) (month : Nat) : Prop :=
  1 ≤ month ∧ ∃ english, englishMonths[month - 1]? = some english ∧ SameLetters name english.toList

inductive Phrase
  | relative (anchor : Anchor) (clauses : List Clause)
  | boundary (edge : MonthEdge) (month : Nat) (name year : List Char)

namespace Phrase

def body : Phrase → List Char
  | .relative anchor clauses => anchor.keyword.toList ++ clauses.flatMap Clause.chars
  | .boundary edge _ name year => edge.keyword.toList ++ '-' :: name ++ '-' :: year

def text (p : Phrase) : List Char := '[' :: p.body ++ [']']

def Legal : Phrase → Prop
  | .relative _ clauses => ∀ c ∈ clauses, c.Legal
  | .boundary _ month name year =>
      Names name month ∧ IsDigits year ∧ 1 ≤ value year ∧ value year ≤ 9999

/-- The tree that a phrase denotes: the signed amounts and units in order, or the numbers of the
month and the year. -/
def Describes : Phrase → DateToken → Prop
  | .relative anchor clauses, .relative anchor' adjustments =>
      anchor' = anchor ∧ adjustments.map Adjustment.parts = clauses.map Clause.parts
  | .boundary edge month _ year, .monthBoundary b => b = ⟨edge, month, value year⟩
  | _, _ => False

end Phrase

theorem englishMonths_nodup : englishMonths.Nodup := by decide

theorem englishMonths_upper :
    ∀ english ∈ englishMonths, english.toList ≠ [] ∧ ∀ x ∈ english.toList, x.isUpper = true := by
  have hall : ∀ english ∈ englishMonths,
      english.toList ≠ [] ∧ english.toList.all Char.isUpper = true := by decide
  intro english henglish
  obtain ⟨hne, hupper⟩ := hall english henglish
  exact ⟨hne, List.all_eq_true.1 hupper⟩

theorem sameLetters_iff {name : List Char} {english : String} (h : english ∈ englishMonths) :
    SameLetters name english.toList ↔ english.toList = name.map Char.toUpper := by
  rw [SameLetters, Text.map_toLower_eq_iff (englishMonths_upper _ h).2, eq_comm]

theorem monthNamed?_eq_some_iff {name : List Char} {month : Nat} :
    monthNamed? name = some month ↔ Names name month := by
  simp only [monthNamed?, Option.map_eq_some_iff, List.findIdx?_eq_some_iff_getElem,
    decide_eq_true_eq]
  constructor
  · rintro ⟨i, ⟨hi, hname, -⟩, rfl⟩
    refine ⟨Nat.le_add_left 1 i, englishMonths[i], List.getElem?_eq_getElem hi, ?_⟩
    exact (sameLetters_iff (List.getElem_mem hi)).2 hname
  · rintro ⟨hmonth, english, henglish, hsame⟩
    obtain ⟨hi, rfl⟩ := List.getElem?_eq_some_iff.1 henglish
    have hname := (sameLetters_iff (List.getElem_mem hi)).1 hsame
    refine ⟨month - 1, ⟨hi, hname, ?_⟩, Nat.sub_add_cancel hmonth⟩
    intro j hj hother
    have heq := String.toList_inj.1 (hother.trans hname.symm)
    have hindex := (List.Nodup.getElem_inj_iff englishMonths_nodup).1 heq
    omega

theorem Names.unique {name : List Char} {month other : Nat} (h : Names name month)
    (h' : Names name other) : month = other := by
  have heq := (monthNamed?_eq_some_iff.2 h).symm.trans (monthNamed?_eq_some_iff.2 h')
  exact Option.some.inj heq

/-- The name of a month is made of letters. -/
theorem Names.letters {name : List Char} {month : Nat} (h : Names name month) :
    name ≠ [] ∧ ∀ x ∈ name, x.isAlpha = true := by
  obtain ⟨-, english, henglish, hsame⟩ := h
  have hmem := List.mem_of_getElem? henglish
  have hupper := (sameLetters_iff hmem).1 hsame
  constructor
  · rintro rfl
    exact (englishMonths_upper english hmem).1 hupper
  · intro x hx
    refine Text.isAlpha_of_toUpper ((englishMonths_upper english hmem).2 _ ?_)
    rw [hupper]
    exact List.mem_map_of_mem hx

theorem MonthEdge.ofKeyword?_keyword (edge : MonthEdge) :
    ofKeyword? edge.keyword.toList = some edge := by
  cases edge <;> decide

theorem MonthEdge.ofKeyword?_eq_some_iff {word : List Char} {edge : MonthEdge} :
    ofKeyword? word = some edge ↔ word = edge.keyword.toList :=
  Text.find?_word_eq_some_iff ofKeyword?_keyword

theorem Anchor.split?_eq_some_iff {body rest : List Char} {anchor : Anchor} :
    split? body = some (anchor, rest) ↔ body = anchor.keyword.toList ++ rest := by
  constructor
  · intro h
    obtain ⟨a, -, ha⟩ := List.exists_of_findSome?_eq_some h
    obtain ⟨r, hr, heq⟩ := Option.map_eq_some_iff.1 ha
    cases heq
    exact Text.after?_eq_some_iff.1 hr
  · rintro rfl
    cases anchor <;> rfl

theorem MonthEdge.keyword_chars (edge : MonthEdge) :
    ∀ x ∈ edge.keyword.toList, x.isAlpha = true := by
  rw [← List.all_eq_true]
  cases edge <;> decide

theorem Anchor.keyword_chars (anchor : Anchor) :
    ∀ x ∈ anchor.keyword.toList, x.isAlpha = true := by
  rw [← List.all_eq_true]
  cases anchor <;> decide

/-- No edge is taken for an anchor. -/
theorem Anchor.split?_edge (edge : MonthEdge) (rest : List Char) :
    split? (edge.keyword.toList ++ rest) = none := by
  cases edge <;> rfl

/-- A word as readers find it in the place of a name, a unit or a year. -/
def IsWord (text : List Char) : Prop := text ≠ [] ∧ ∀ c ∈ text, isWordChar c = true

theorem isWordChar_of_isAlpha {c : Char} (h : c.isAlpha = true) : isWordChar c = true := by
  rw [isWordChar, Char.isAlphanum, h]
  rfl

theorem isWordChar_of_isDigit {c : Char} (h : c.isDigit = true) : isWordChar c = true := by
  rw [isWordChar, Char.isAlphanum, h, Bool.or_true]
  rfl

theorem IsLetters.isWord {text : List Char} (h : IsLetters text) : IsWord text :=
  ⟨h.1, fun c hc => isWordChar_of_isAlpha (h.2 c hc)⟩

theorem isWord_of_isDigits {text : List Char} (h : IsDigits text) : IsWord text :=
  ⟨h.1, fun c hc => isWordChar_of_isDigit (h.2 c hc)⟩

/-- A body with the shape of the boundary grammar, whatever its month and its year mean. -/
structure Shaped (body : List Char) (edge : MonthEdge) (name year : List Char) : Prop where
  body : body = edge.keyword.toList ++ '-' :: name ++ '-' :: year
  name : IsWord name
  year : IsDigits year

theorem intercalate_parts (edge name year : List Char) :
    ['-'].intercalate [edge, name, year] = edge ++ '-' :: name ++ '-' :: year := by
  simp only [List.intercalate_cons_cons, List.intercalate_singleton, List.append_assoc,
    List.cons_append, List.nil_append]

theorem Shaped.splitOn_eq {body name year : List Char} {edge : MonthEdge}
    (h : Shaped body edge name year) : body.splitOn '-' = [edge.keyword.toList, name, year] := by
  rw [h.body, ← intercalate_parts]
  refine List.splitOn_intercalate '-' ?_ (List.cons_ne_nil _ _)
  intro piece hpiece hhyphen
  simp only [List.mem_cons, List.not_mem_nil, or_false] at hpiece
  rcases hpiece with rfl | rfl | rfl
  · exact Text.ne_of_test (edge.keyword_chars _ hhyphen) (by decide) rfl
  · exact Text.ne_of_test (h.name.2 _ hhyphen) (by decide) rfl
  · exact Text.ne_of_test (h.year.2 _ hhyphen) (by decide) rfl

/-- The month is judged before the year. -/
theorem Shaped.boundary_eq {body name year : List Char} {edge : MonthEdge}
    (h : Shaped body edge name year) (token : String) :
    boundary token body = match monthNamed? name with
      | none => .error (.invalidMonth (.ofList name))
      | some month =>
        if isBoundaryYear (value year) then .ok ⟨edge, month, value year⟩
        else .error (.invalidYear (.ofList year)) := by
  have hshape : (name.isEmpty || !name.all isWordChar || !isNumeral year) = false := by
    rw [List.isEmpty_eq_false_iff.2 h.name.1, List.all_eq_true.2 h.name.2,
      isNumeral_eq_true_iff.2 h.year]
    rfl
  rw [boundary, h.splitOn_eq]
  cases hmonth : monthNamed? name <;>
    simp only [edge.ofKeyword?_keyword, hshape, hmonth, Bool.false_eq_true, if_false]

theorem boundary_of_not_shaped {body : List Char} (h : ∀ edge name year, ¬ Shaped body edge name year)
    (token : String) : boundary token body = .error (.invalidFormat token) := by
  have hbody : ['-'].intercalate (body.splitOn '-') = body := List.intercalate_splitOn '-'
  unfold boundary
  split
  · next edge name year hsplit =>
      rw [hsplit, intercalate_parts] at hbody
      cases hedge : MonthEdge.ofKeyword? edge with
      | none => rfl
      | some edge' =>
          refine if_pos (Classical.byContradiction fun hshape => ?_)
          simp only [Bool.or_eq_true, Bool.not_eq_true', not_or, List.isEmpty_iff, Bool.not_eq_false,
            List.all_eq_true, isNumeral_eq_true_iff] at hshape
          rw [MonthEdge.ofKeyword?_eq_some_iff.1 hedge] at hbody
          exact h edge' name year ⟨hbody.symm, hshape.1, hshape.2⟩
  · rfl

theorem isBoundaryYear_eq_true_iff {year : Nat} :
    isBoundaryYear year = true ↔ 1 ≤ year ∧ year ≤ 9999 := by
  rw [isBoundaryYear, Bool.and_eq_true, decide_eq_true_eq, decide_eq_true_eq]

theorem Names.shaped {edge : MonthEdge} {month : Nat} {name year : List Char}
    (hname : Names name month) (hyear : IsDigits year) :
    Shaped (edge.keyword.toList ++ '-' :: name ++ '-' :: year) edge name year :=
  ⟨rfl, IsLetters.isWord hname.letters, hyear⟩

theorem boundary_eq {edge : MonthEdge} {month : Nat} {name year : List Char} (token : String)
    (hname : Names name month) (hyear : IsDigits year) (hmem : 1 ≤ value year ∧ value year ≤ 9999) :
    boundary token (edge.keyword.toList ++ '-' :: name ++ '-' :: year) =
      .ok ⟨edge, month, value year⟩ := by
  simp only [(hname.shaped hyear).boundary_eq, monthNamed?_eq_some_iff.2 hname,
    isBoundaryYear_eq_true_iff.2 hmem, if_true]

theorem exists_shaped_of_boundary {token : String} {body : List Char} {b : MonthBoundary}
    (h : boundary token body = .ok b) : ∃ edge name year, Shaped body edge name year := by
  by_contra hnot
  simp only [not_exists] at hnot
  rw [boundary_of_not_shaped hnot] at h
  cases h

theorem exists_parts_of_boundary {token : String} {body : List Char} {b : MonthBoundary}
    (h : boundary token body = .ok b) :
    ∃ name year, body = b.edge.keyword.toList ++ '-' :: name ++ '-' :: year ∧ Names name b.month ∧
      IsDigits year ∧ (1 ≤ value year ∧ value year ≤ 9999) ∧ b.year = value year := by
  obtain ⟨edge, name, year, hshaped⟩ := exists_shaped_of_boundary h
  rw [hshaped.boundary_eq] at h
  cases hmonth : monthNamed? name with
  | none =>
      rw [hmonth] at h
      cases h
  | some month =>
      simp only [hmonth] at h
      split at h
      · next hmem =>
          cases h
          exact ⟨name, year, hshaped.body, monthNamed?_eq_some_iff.1 hmonth, hshaped.year,
            isBoundaryYear_eq_true_iff.1 hmem, rfl⟩
      · cases h

theorem ofBody_outcome (token : String) (body : List Char) :
    (ofBody token body).outcome = match Anchor.split? body with
      | some (anchor, rest) => (clauses token rest).map (.relative anchor)
      | none => (boundary token body).map .monthBoundary := by
  rw [ofBody]
  cases Anchor.split? body <;> rfl

theorem read_outcome (token : String) :
    (read token).outcome = match Bracket.inner? token.toList with
      | none => .error (.invalidFormat token)
      | some body =>
        match Anchor.split? body with
        | some (anchor, rest) => (clauses token rest).map (.relative anchor)
        | none => (boundary token body).map .monthBoundary := by
  simp only [read, Traced.outcome_bind, Traced.outcome_log, Except.bind]
  cases Bracket.inner? token.toList with
  | none => rfl
  | some body => exact ofBody_outcome token body

theorem read_of_inner? {token : String} {body : List Char}
    (h : Bracket.inner? token.toList = some body) :
    (read token).outcome = (ofBody token body).outcome := by
  simp only [read_outcome, h, ofBody_outcome]

namespace Phrase

/-- A legal phrase has a tree. -/
theorem Legal.exists_tree {p : Phrase} (h : p.Legal) : ∃ tree, p.Describes tree := by
  cases p with
  | relative anchor cs =>
      obtain ⟨as, -, hparts⟩ := clauses_flatMap "" h
      exact ⟨.relative anchor as, rfl, hparts⟩
  | boundary edge month name year => exact ⟨.monthBoundary ⟨edge, month, value year⟩, rfl⟩

/-- Bodies of date tokens are made of letters, digits and the two signs. -/
theorem Legal.forall_body {q : Phrase} (h : q.Legal) {p : Char → Prop}
    (hletter : ∀ x, x.isAlpha = true → p x) (hdigit : ∀ x, x.isDigit = true → p x)
    (hplus : p '+') (hminus : p '-') : ∀ x ∈ q.body, p x := by
  intro x hx
  cases q with
  | relative anchor cs =>
      rw [body, List.mem_append, List.mem_flatMap] at hx
      rcases hx with hx | ⟨c, hc, hx⟩
      · exact hletter x (anchor.keyword_chars x hx)
      · exact (h c hc).forall_chars hletter hdigit hplus hminus x hx
  | boundary edge month name year =>
      obtain ⟨hname, hyear, -⟩ := h
      simp only [body, List.mem_append, List.mem_cons] at hx
      rcases hx with (hx | rfl | hx) | rfl | hx
      · exact hletter x (edge.keyword_chars x hx)
      · exact hminus
      · exact hletter x (hname.letters.2 x hx)
      · exact hminus
      · exact hdigit x (hyear.2 x hx)

theorem Legal.body_chars {p : Phrase} (h : p.Legal) :
    ∀ x ∈ p.body, Bracket.isBracket x = false := by
  refine h.forall_body (p := (Bracket.isBracket · = false)) ?_ ?_ (by decide) (by decide)
  · exact fun x hx => Text.isBracket_of_test hx (by decide) (by decide)
  · exact fun x hx => Text.isBracket_of_test hx (by decide) (by decide)

theorem Legal.inner?_text {p : Phrase} (h : p.Legal) : Bracket.inner? p.text = some p.body :=
  Bracket.inner?_eq_some_iff.2 ⟨rfl, h.body_chars⟩

theorem Legal.ofBody_eq {p : Phrase} {tree : DateToken} (token : String) (h : p.Legal)
    (hd : p.Describes tree) : (ofBody token p.body).outcome = .ok tree := by
  rw [ofBody_outcome]
  cases p with
  | relative anchor cs =>
      cases tree with
      | monthBoundary b => exact hd.elim
      | relative anchor' as =>
          obtain ⟨rfl, hparts⟩ := hd
          obtain ⟨as', has, hparts'⟩ := clauses_flatMap token h
          have hsplit : Anchor.split? (body (.relative anchor' cs)) =
              some (anchor', cs.flatMap Clause.chars) := Anchor.split?_eq_some_iff.2 rfl
          rw [parts_injective (hparts.trans hparts'.symm)]
          simp only [hsplit, has]
          rfl
  | boundary edge month name year =>
      cases tree with
      | relative anchor as => exact hd.elim
      | monthBoundary b =>
          obtain ⟨hname, hyear, hmem⟩ := h
          have hsplit : Anchor.split? (body (.boundary edge month name year)) = none := by
            rw [body, List.append_assoc]
            exact Anchor.split?_edge edge _
          have hread : DateToken.boundary token (body (.boundary edge month name year)) =
              .ok ⟨edge, month, value year⟩ := boundary_eq token hname hyear hmem
          simp only [hsplit, hread]
          rw [show b = _ from hd]
          rfl

theorem Legal.read_eq {p : Phrase} {tree : DateToken} {token : String} (h : p.Legal)
    (ht : token.toList = p.text) (hd : p.Describes tree) : (read token).outcome = .ok tree := by
  have hinner := h.inner?_text
  rw [← ht] at hinner
  rw [read_of_inner? hinner]
  exact h.ofBody_eq token hd

theorem eq_of_body {p q : Phrase} (hp : p.Legal) (hq : q.Legal) (h : p.body = q.body) : p = q := by
  have hsplit := congrArg Anchor.split? h
  cases p with
  | relative anchor cs =>
      rw [body, Anchor.split?_eq_some_iff.2 rfl] at hsplit
      cases q with
      | relative anchor' ds =>
          rw [body, Anchor.split?_eq_some_iff.2 rfl, Option.some.injEq, Prod.mk.injEq] at hsplit
          rw [hsplit.1, flatMap_chars_injective hp hq hsplit.2]
      | boundary edge month name year =>
          rw [body, List.append_assoc, Anchor.split?_edge] at hsplit
          cases hsplit
  | boundary edge month name year =>
      cases q with
      | relative anchor ds =>
          rw [body, body, List.append_assoc, Anchor.split?_edge, Anchor.split?_eq_some_iff.2 rfl]
            at hsplit
          cases hsplit
      | boundary edge' month' name' year' =>
          obtain ⟨hname, hyear, -⟩ := hp
          obtain ⟨hname', hyear', -⟩ := hq
          rw [body, body] at h
          have hpieces := congrArg (List.splitOn '-') h
          rw [(hname.shaped hyear).splitOn_eq, (hname'.shaped hyear').splitOn_eq] at hpieces
          simp only [List.cons.injEq, and_true] at hpieces
          obtain ⟨hedge, rfl, rfl⟩ := hpieces
          rw [Text.word_injective MonthEdge.ofKeyword?_keyword hedge, hname.unique hname']

theorem eq_of_text {p q : Phrase} (hp : p.Legal) (hq : q.Legal) (h : p.text = q.text) : p = q := by
  have hinner := hp.inner?_text
  rw [h, hq.inner?_text, Option.some.injEq] at hinner
  exact eq_of_body hp hq hinner.symm

end Phrase

theorem exists_phrase_of_ofBody {token : String} {body : List Char} {tree : DateToken}
    (h : (ofBody token body).outcome = .ok tree) :
    ∃ p : Phrase, p.Legal ∧ body = p.body ∧ p.Describes tree := by
  rw [ofBody_outcome] at h
  cases hsplit : Anchor.split? body with
  | some start =>
      obtain ⟨anchor, rest⟩ := start
      have hbody := Anchor.split?_eq_some_iff.1 hsplit
      rw [hsplit] at h
      dsimp only at h
      cases has : clauses token rest with
      | error e =>
          rw [has] at h
          cases h
      | ok as =>
          rw [has] at h
          cases h
          obtain ⟨cs, hcs, hrest, hparts⟩ := exists_clauses_of_clauses has
          refine ⟨.relative anchor cs, hcs, ?_, rfl, hparts⟩
          rw [hbody, hrest]
          rfl
  | none =>
      rw [hsplit] at h
      dsimp only at h
      cases hb : boundary token body with
      | error e =>
          rw [hb] at h
          cases h
      | ok b =>
          rw [hb] at h
          cases h
          obtain ⟨name, year, hbody, hname, hyear, hmem, heq⟩ := exists_parts_of_boundary hb
          refine ⟨.boundary b.edge b.month name year, ⟨hname, hyear, hmem⟩, hbody, ?_⟩
          rw [Phrase.Describes, ← heq]

theorem exists_phrase_of_read {token : String} {tree : DateToken}
    (h : (read token).outcome = .ok tree) :
    ∃ p : Phrase, p.Legal ∧ token.toList = p.text ∧ p.Describes tree := by
  cases hinner : Bracket.inner? token.toList with
  | none =>
      rw [read_outcome, hinner] at h
      cases h
  | some body =>
      rw [read_of_inner? hinner] at h
      obtain ⟨p, hp, rfl, hd⟩ := exists_phrase_of_ofBody h
      exact ⟨p, hp, (Bracket.inner?_eq_some_iff.1 hinner).1, hd⟩

/-- The reader takes the texts of legal phrases and no others, each for the tree that the phrase
denotes; and each is the text of one legal phrase only. -/
theorem date_read_iff_phrase (token : String) :
    (∀ tree, (read token).outcome = .ok tree ↔
        ∃ p : Phrase, p.Legal ∧ token.toList = p.text ∧ p.Describes tree) ∧
      ∀ p : Phrase, p.Legal → token.toList = p.text →
        (∃ tree, p.Describes tree) ∧ ∀ q : Phrase, q.Legal → token.toList = q.text → q = p := by
  refine ⟨fun tree => ⟨exists_phrase_of_read, ?_⟩, ?_⟩
  · rintro ⟨p, hp, ht, hd⟩
    exact hp.read_eq ht hd
  · intro p hp ht
    exact ⟨hp.exists_tree, fun q hq hqt => Phrase.eq_of_text hq hp (hqt.symm.trans ht)⟩

/-- Leading zeros, a zero with a minus, and the largest amount. -/
def tallPhrase : Phrase :=
  .relative .yesterday [⟨true, "000".toList, .day⟩, ⟨false, "9223372036854775807".toList, .year⟩]

theorem tallPhrase_legal : tallPhrase.Legal := by
  intro c hc
  simp only [List.mem_cons, List.not_mem_nil, or_false] at hc
  rcases hc with rfl | rfl
  · exact ⟨⟨by decide, List.all_eq_true.1 (by decide)⟩, by decide⟩
  · exact ⟨⟨by decide, List.all_eq_true.1 (by decide)⟩, by decide⟩

theorem read_tallPhrase :
    (tallPhrase.Legal ∧
        "[YESTERDAY-000DAY+9223372036854775807YEAR]".toList = tallPhrase.text) ∧
      (∃ tree, tallPhrase.Describes tree) ∧
      ∀ q : Phrase, q.Legal →
        "[YESTERDAY-000DAY+9223372036854775807YEAR]".toList = q.text → q = tallPhrase := by
  have ht : "[YESTERDAY-000DAY+9223372036854775807YEAR]".toList = tallPhrase.text := by decide
  exact ⟨⟨tallPhrase_legal, ht⟩, (date_read_iff_phrase _).2 tallPhrase tallPhrase_legal ht⟩

end BracketToken.DateToken
