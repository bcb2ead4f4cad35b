import BracketToken.Proofs.StringGrammar
import Mathlib.Data.List.TakeWhile

/-!
Why string tokens are refused, said without a reader.

What is wrong first, from the left, decides: the shape up to the length, the alphabets, the length,
the shape behind it, the line count, and at last the size, for which a line that is too long alone
is to blame before the number of lines is. Main statement: `read_refused_iff_fault`, the reader
refuses exactly the tokens that have a fault, each with the error of that fault, and it never
complains of an empty pool. Sizes are natural numbers here, whatever a machine word holds.
-/

namespace BracketToken.StringToken

open Numeral

/-- Digits that no line count can have. -/
def BadCount (digits : List Char) : Prop :=
  IsDigits digits ∧ (value digits = 0 ∨ 18446744073709551615 < value digits)

/-- Digits that no length can have. -/
def BadLength (digits : List Char) : Prop :=
  IsDigits digits ∧ (digits.head? = some '0' ∨ 18446744073709551615 < value digits)

/-- Segments that make up the phrase, its length and its count being numbers that words hold. -/
structure Phrase.Measures (p : Phrase) (segments : List (List Char)) : Prop where
  cut : Cut segments (p.alphabets.map (·.name.toList)) p.length.chars (countSegments p.count)
  length : p.length.Fits
  count : ∀ digits, p.count = some digits → IsDigits digits ∧ ¬ BadCount digits

/-- What is wrong with the segments of a body. -/
inductive SegmentsFault (token : String) (segments : List (List Char)) : Error → Prop
  | empty : [] ∈ segments → SegmentsFault token segments (.invalidFormat token)
  | noLength : (∀ segment ∈ segments, ¬ LengthLike segment) →
      SegmentsFault token segments (.invalidFormat token)
  | noAlphabet {first} : segments.head? = some first → LengthLike first →
      SegmentsFault token segments (.invalidFormat token)
  | alphabet {known : List Alphabet} {name others length rest} :
      Cut segments (known.map (·.name.toList) ++ name :: others) length rest →
      (∀ c : Alphabet, name ≠ c.name.toList) →
      SegmentsFault token segments (.unknownAlphabet (.ofList name) token)
  | length {alphabets : List Alphabet} {digits rest} :
      Cut segments (alphabets.map (·.name.toList)) digits rest → BadLength digits →
      SegmentsFault token segments (.invalidLength token)
  | tail {alphabets : List Alphabet} {length : LengthWord} {rest} :
      Cut segments (alphabets.map (·.name.toList)) length.chars rest → length.Fits → rest ≠ [] →
      (∀ digits, IsDigits digits → rest ≠ ["LINES".toList, digits]) →
      SegmentsFault token segments (.invalidFormat token)
  | count {alphabets : List Alphabet} {length : LengthWord} {digits} :
      Cut segments (alphabets.map (·.name.toList)) length.chars ["LINES".toList, digits] →
      length.Fits → BadCount digits → SegmentsFault token segments (.invalidLineCount token)
  | line {p : Phrase} : p.Measures segments → 1048576 < p.lineSize →
      SegmentsFault token segments (.invalidLength token)
  | text {p : Phrase} : p.Measures segments → p.lineSize ≤ 1048576 →
      1048576 < p.lineSize * p.lines + 2 * (p.lines - 1) →
      SegmentsFault token segments (.invalidLineCount token)

inductive Fault (token : String) : Error → Prop
  | brackets : (∀ body, ¬ Bracket.Encloses token.toList body) → Fault token (.invalidFormat token)
  | segments {body e} : Bracket.Encloses token.toList body →
      SegmentsFault token (body.splitOn '-') e → Fault token e

theorem Alphabet.ofName?_eq_none_iff {word : List Char} :
    ofName? word = none ↔ ∀ c : Alphabet, word ≠ c.name.toList :=
  eq_none_iff_of_eq_some_iff fun _ => ofName?_eq_some_iff

/-- The first unknown name decides. -/
theorem alphabetsOf_eq_error_iff {token : String} {names : List (List Char)} {e : Error} :
    alphabetsOf token names = .error e ↔
      ∃ (known : List Alphabet) (name : List Char) (others : List (List Char)),
        names = known.map (·.name.toList) ++ name :: others ∧
        (∀ c : Alphabet, name ≠ c.name.toList) ∧ e = .unknownAlphabet (.ofList name) token := by
  induction names with
  | nil =>
      refine iff_of_false (fun h => nomatch h) ?_
      rintro ⟨known, name, others, h, -⟩
      exact absurd h.symm (by simp)
  | cons first names ih =>
      rw [alphabetsOf]
      cases hfirst : Alphabet.ofName? first with
      | none =>
          have hunknown := Alphabet.ofName?_eq_none_iff.1 hfirst
          constructor
          · intro h
            cases h
            exact ⟨[], first, names, rfl, hunknown, rfl⟩
          · rintro ⟨known, name, others, hnames, -, rfl⟩
            cases known with
            | nil =>
                cases hnames
                rfl
            | cons c known => exact absurd (List.cons.inj hnames).1 (hunknown c)
      | some c =>
          have hc := Alphabet.ofName?_eq_some_iff.1 hfirst
          change (alphabetsOf token names).map (c :: ·) = .error e ↔ _
          rw [map_eq_error_iff, ih]
          constructor
          · rintro ⟨known, name, others, rfl, hunknown, he⟩
            exact ⟨c :: known, name, others, by rw [hc]; rfl, hunknown, he⟩
          · rintro ⟨known, name, others, hnames, hunknown, he⟩
            cases known with
            | nil => exact absurd (hc.symm.trans (List.cons.inj hnames).1).symm (hunknown c)
            | cons d known =>
                exact ⟨known, name, others, (List.cons.inj hnames).2, hunknown, he⟩

theorem lengthOf_eq_error_iff {token : String} {segment : List Char} {e : Error}
    (h : LengthLike segment) :
    lengthOf token segment = .error e ↔ BadLength segment ∧ e = .invalidLength token := by
  constructor
  · intro hl
    unfold lengthOf at hl
    split at hl
    · cases hl
    · next hall =>
        have hdigits := h.resolve_left hall
        split at hl
        · next hzero =>
            cases hl
            exact ⟨⟨hdigits, .inl hzero⟩, rfl⟩
        · split at hl
          · next hlarge =>
              cases hl
              exact ⟨⟨hdigits, .inr (word64?_eq_none_iff.1 hlarge)⟩, rfl⟩
          · cases hl
  · rintro ⟨⟨hdigits, hbad⟩, rfl⟩
    have hall : segment ≠ wholePool := by
      rintro rfl
      exact absurd (hdigits.2 'A' (by decide)) (by decide)
    rw [lengthOf, if_neg hall]
    by_cases hzero : segment.head? = some '0'
    · rw [if_pos hzero]
    · rw [if_neg hzero, word64?_eq_none_iff.2 (hbad.resolve_left hzero)]

theorem lineCountOf_eq_error_iff {token : String} {digits : List Char} {e : Error}
    (h : IsDigits digits) :
    lineCountOf token digits = .error e ↔ BadCount digits ∧ e = .invalidLineCount token := by
  unfold lineCountOf
  split
  · next k hk =>
      obtain ⟨hvalue, hle⟩ := word64?_eq_some_iff.1 hk
      refine iff_of_false (fun h => nomatch h) ?_
      rintro ⟨⟨-, hbad⟩, -⟩
      omega
  · next hk =>
      have hbad : BadCount digits := by
        refine ⟨h, ?_⟩
        by_contra hgood
        exact hk (value digits - 1) (word64?_eq_some_iff.2 ⟨by omega, by omega⟩)
      simp only [Except.error.injEq, hbad, true_and, eq_comm]

theorem linesOf_of_no_count {rest : List (List Char)} (hne : rest ≠ [])
    (h : ∀ digits, IsDigits digits → rest ≠ ["LINES".toList, digits]) (token : String) :
    linesOf token rest = .error (.invalidFormat token) := by
  unfold linesOf
  split
  · exact absurd rfl hne
  · next keyword digits =>
      refine if_neg fun hcount => ?_
      rw [Bool.and_eq_true, decide_eq_true_eq, isNumeral_eq_true_iff] at hcount
      obtain ⟨rfl, hdigits⟩ := hcount
      exact h digits hdigits rfl
  · rfl

theorem linesOf_eq_error_iff {token : String} {rest : List (List Char)} {e : Error} :
    linesOf token rest = .error e ↔
      (rest ≠ [] ∧ (∀ digits, IsDigits digits → rest ≠ ["LINES".toList, digits]) ∧
        e = .invalidFormat token) ∨
      ∃ digits, rest = ["LINES".toList, digits] ∧ BadCount digits ∧ e = .invalidLineCount token := by
  constructor
  · intro h
    by_cases hcount : ∃ digits, IsDigits digits ∧ rest = ["LINES".toList, digits]
    · obtain ⟨digits, hdigits, rfl⟩ := hcount
      rw [linesOf_count hdigits, lineCountOf_eq_error_iff hdigits] at h
      exact .inr ⟨digits, rfl, h⟩
    · have hnone : ∀ digits, IsDigits digits → rest ≠ ["LINES".toList, digits] :=
        fun digits hdigits hrest => hcount ⟨digits, hdigits, hrest⟩
      have hne : rest ≠ [] := by
        rintro rfl
        cases h
      rw [linesOf_of_no_count hne hnone, Except.error.injEq] at h
      exact .inl ⟨hne, hnone, h.symm⟩
  · rintro (⟨hne, hnone, rfl⟩ | ⟨digits, rfl, hbad⟩)
    · exact linesOf_of_no_count hne hnone token
    · rw [linesOf_count hbad.1.1, lineCountOf_eq_error_iff hbad.1.1]
      exact hbad

/-- A line that alone is too long is blamed before the number of lines. -/
theorem request_eq_error_iff {token : String} {cs : List Alphabet} {l : LineLength}
    {n : { n : Nat // 0 < n }} {e : Error} (hpool : poolOf cs ≠ []) :
    request token cs l n = .error e ↔
      (1048576 < l.size (poolOf cs).length ∧ e = .invalidLength token) ∨
      (l.size (poolOf cs).length ≤ 1048576 ∧ 1048576 < textSize (l.size (poolOf cs).length) n ∧
        e = .invalidLineCount token) := by
  unfold request
  rw [dif_neg hpool]
  split
  · next hline =>
      have hline' : 1048576 < l.size (poolOf cs).length := hline
      simp only [Except.error.injEq, hline', true_and, Nat.not_le.2 hline', false_and, or_false,
        eq_comm]
  · next hline =>
      have hline' : l.size (poolOf cs).length ≤ 1048576 := Nat.le_of_not_lt hline
      have hsize := textSize?_eq (l.size (poolOf cs).length) n
      simp only [Nat.not_lt.2 hline', false_and, false_or, hline', true_and]
      split
      · next hnone =>
          rw [hnone, eq_comm, word64?_eq_none_iff] at hsize
          have hlarge : 1048576 < textSize (l.size (poolOf cs).length) n := by omega
          simp only [Except.error.injEq, hlarge, true_and, eq_comm]
      · next size hsome =>
          have heq := textSize_of_textSize? hsome
          split
          · next hle =>
              have hsmall : ¬ 1048576 < textSize (l.size (poolOf cs).length) n := by
                rw [heq]
                exact Nat.not_lt.2 hle
              simp only [hsmall, false_and, reduceCtorEq]
          · next hlarge =>
              have hlarge' : 1048576 < textSize (l.size (poolOf cs).length) n := by
                rw [heq]
                exact Nat.lt_of_not_le hlarge
              simp only [Except.error.injEq, hlarge', true_and, eq_comm]

/-- Where there is no division into names, a length and the rest. -/
theorem not_cut_iff {segments : List (List Char)} :
    (∀ names length rest, ¬ Cut segments names length rest) ↔
      [] ∈ segments ∨ (∀ segment ∈ segments, ¬ LengthLike segment) ∨
        ∃ first, segments.head? = some first ∧ LengthLike first := by
  constructor
  · intro h
    by_contra hnot
    simp only [not_or, not_forall, not_exists, not_and, not_not] at hnot
    obtain ⟨hfull, ⟨segment, hmem, hlike⟩, hfirst⟩ := hnot
    have hdrop : segments.dropWhile (!isLength ·) ≠ [] := by
      rw [ne_eq, List.dropWhile_eq_nil_iff]
      intro hall
      have hunlike := hall segment hmem
      rw [isLength_eq_true_iff.2 hlike] at hunlike
      cases hunlike
    obtain ⟨length, rest, hrest⟩ := List.exists_cons_of_ne_nil hdrop
    refine h _ length rest (cut_of_dropWhile hfull ?_ hrest)
    obtain ⟨first, others, rfl⟩ := List.exists_cons_of_ne_nil (List.ne_nil_of_mem hmem)
    have hunlike := isLength_eq_false_iff.2 (hfirst first rfl)
    rw [List.takeWhile_cons_of_pos (by rw [hunlike]; rfl)]
    exact List.cons_ne_nil _ _
  · rintro (hempty | hnone | ⟨first, hfirst, hlike⟩) names length rest hcut
    · exact hcut.full hempty
    · refine hnone length ?_ hcut.like
      rw [hcut.join]
      exact List.mem_append_right _ List.mem_cons_self
    · obtain ⟨name, names, rfl⟩ := List.exists_cons_of_ne_nil hcut.names_ne
      rw [hcut.join] at hfirst
      cases hfirst
      exact hcut.unlike first List.mem_cons_self hlike

theorem Cut.poolOf_ne_nil {segments rest : List (List Char)} {cs : List Alphabet} {length : List Char}
    (h : Cut segments (cs.map (·.name.toList)) length rest) : poolOf cs ≠ [] :=
  Phrase.poolOf_ne_nil (by simpa using h.names_ne)

theorem Phrase.textSize_eq (p : Phrase) :
    textSize (p.length.lineLength.size (poolOf p.alphabets).length) p.lines =
      p.lineSize * p.lines + 2 * (p.lines - 1) := by
  rw [p.lineSize_eq]
  rfl

theorem Phrase.Measures.linesOf_eq {p : Phrase} {segments : List (List Char)}
    (h : p.Measures segments) (token : String) :
    ∃ n, linesOf token (countSegments p.count) = .ok n ∧ n.1 = p.lines := by
  cases hcount : p.count with
  | none => exact ⟨⟨1, Nat.one_pos⟩, rfl, (lines_none hcount).symm⟩
  | some digits =>
      obtain ⟨hdigits, hgood⟩ := h.count digits hcount
      have hvalue : value digits ≠ 0 ∧ value digits ≤ 18446744073709551615 := by
        by_contra hbad
        exact hgood ⟨hdigits, by omega⟩
      refine ⟨⟨value digits, Nat.pos_of_ne_zero hvalue.1⟩, ?_, (lines_some hcount).symm⟩
      rw [countSegments, linesOf_count hdigits]
      exact lineCountOf_eq_ok_iff.2 ⟨rfl, hvalue.2⟩

theorem exists_count_of_linesOf {token : String} {rest : List (List Char)}
    {n : { n : Nat // 0 < n }} (h : linesOf token rest = .ok n) :
    ∃ count : Option (List Char), rest = countSegments count ∧
      ∀ digits, count = some digits → IsDigits digits ∧ ¬ BadCount digits := by
  obtain ⟨count, rfl, hcount⟩ := linesOf_eq_ok_iff.1 h
  refine ⟨count, rfl, ?_⟩
  rintro digits rfl
  have hpos := n.2
  refine ⟨hcount.1, ?_⟩
  rintro ⟨-, hbad⟩
  omega

theorem segmentsFault_of_cut {token : String} {segments names rest : List (List Char)}
    {length : List Char} {e : Error} (hcut : Cut segments names length rest)
    (h : ofSegments token segments = .error e) : SegmentsFault token segments e := by
  rw [hcut.ofSegments_eq] at h
  simp only [bind, bind_eq_error_iff] at h
  rcases h with hnames | ⟨cs, hcs, hlength | ⟨l, hl, hlines | ⟨n, hn, hrequest⟩⟩⟩
  · obtain ⟨known, name, others, rfl, hunknown, rfl⟩ := alphabetsOf_eq_error_iff.1 hnames
    exact .alphabet hcut hunknown
  · rw [alphabetsOf_eq_ok_iff.1 hcs] at hcut
    obtain ⟨hbad, rfl⟩ := (lengthOf_eq_error_iff hcut.like).1 hlength
    exact .length hcut hbad
  · rw [alphabetsOf_eq_ok_iff.1 hcs] at hcut
    obtain ⟨w, hw, rfl, rfl⟩ := exists_fits_of_lengthOf hcut.like hl
    rcases linesOf_eq_error_iff.1 hlines with ⟨hne, hnone, rfl⟩ | ⟨digits, rfl, hbad, rfl⟩
    · exact .tail hcut hw hne hnone
    · exact .count hcut hw hbad
  · rw [alphabetsOf_eq_ok_iff.1 hcs] at hcut
    obtain ⟨w, hw, rfl, rfl⟩ := exists_fits_of_lengthOf hcut.like hl
    obtain ⟨count, rfl, hcount⟩ := exists_count_of_linesOf hn
    have hmeasures : Phrase.Measures ⟨cs, w, count⟩ segments := ⟨hcut, hw, hcount⟩
    obtain ⟨n', hn', hlines⟩ := hmeasures.linesOf_eq token
    rw [hn, Except.ok.injEq] at hn'
    rw [request_eq_error_iff hcut.poolOf_ne_nil, hn', hlines, Phrase.textSize_eq ⟨cs, w, count⟩,
      Phrase.lineSize_eq ⟨cs, w, count⟩] at hrequest
    rcases hrequest with ⟨hline, rfl⟩ | ⟨hline, htext, rfl⟩
    · exact .line hmeasures hline
    · exact .text hmeasures hline htext

theorem Phrase.Measures.ofSegments_eq {p : Phrase} {segments : List (List Char)} {e : Error}
    (h : p.Measures segments) (token : String)
    (hsize : 1048576 < p.lineSize ∧ e = .invalidLength token ∨
      p.lineSize ≤ 1048576 ∧ 1048576 < p.lineSize * p.lines + 2 * (p.lines - 1) ∧
        e = .invalidLineCount token) : ofSegments token segments = .error e := by
  obtain ⟨n, hn, hlines⟩ := h.linesOf_eq token
  rw [h.cut.ofSegments_eq, alphabetsOf_eq_ok_iff.2 rfl, h.length.lengthOf_eq, hn]
  change request token p.alphabets p.length.lineLength n = .error e
  rw [request_eq_error_iff h.cut.poolOf_ne_nil, hlines, p.textSize_eq, p.lineSize_eq]
  exact hsize

theorem SegmentsFault.ofSegments_eq {token : String} {segments : List (List Char)} {e : Error}
    (h : SegmentsFault token segments e) : ofSegments token segments = .error e := by
  cases h with
  | empty hempty => exact ofSegments_of_not_cut (not_cut_iff.2 (.inl hempty)) token
  | noLength hnone => exact ofSegments_of_not_cut (not_cut_iff.2 (.inr (.inl hnone))) token
  | noAlphabet hfirst hlike =>
      exact ofSegments_of_not_cut (not_cut_iff.2 (.inr (.inr ⟨_, hfirst, hlike⟩))) token
  | alphabet hcut hunknown =>
      rw [hcut.ofSegments_eq, alphabetsOf_eq_error_iff.2 ⟨_, _, _, rfl, hunknown, rfl⟩]
      rfl
  | length hcut hbad =>
      rw [hcut.ofSegments_eq, alphabetsOf_eq_ok_iff.2 rfl,
        (lengthOf_eq_error_iff hcut.like).2 ⟨hbad, rfl⟩]
      rfl
  | tail hcut hw hne hnone =>
      rw [hcut.ofSegments_eq, alphabetsOf_eq_ok_iff.2 rfl, hw.lengthOf_eq,
        linesOf_eq_error_iff.2 (.inl ⟨hne, hnone, rfl⟩)]
      rfl
  | count hcut hw hbad =>
      rw [hcut.ofSegments_eq, alphabetsOf_eq_ok_iff.2 rfl, hw.lengthOf_eq,
        linesOf_eq_error_iff.2 (.inr ⟨_, rfl, hbad, rfl⟩)]
      rfl
  | line hmeasures hline => exact hmeasures.ofSegments_eq token (.inl ⟨hline, rfl⟩)
  | text hmeasures hline htext =>
      exact hmeasures.ofSegments_eq token (.inr ⟨hline, htext, rfl⟩)

theorem ofSegments_eq_error_iff {token : String} {segments : List (List Char)} {e : Error} :
    ofSegments token segments = .error e ↔ SegmentsFault token segments e := by
  constructor
  · intro h
    by_cases hcut : ∃ names length rest, Cut segments names length rest
    · obtain ⟨names, length, rest, hcut⟩ := hcut
      exact segmentsFault_of_cut hcut h
    · simp only [not_exists] at hcut
      rw [ofSegments_of_not_cut hcut] at h
      cases h
      rcases not_cut_iff.1 hcut with hempty | hnone | ⟨first, hfirst, hlike⟩
      · exact .empty hempty
      · exact .noLength hnone
      · exact .noAlphabet hfirst hlike
  · exact SegmentsFault.ofSegments_eq

theorem SegmentsFault.ne_emptyPool {token : String} {segments : List (List Char)} {e : Error}
    (h : SegmentsFault token segments e) (quoted : String) : e ≠ .emptyPool quoted := by
  rintro rfl
  cases h

/-- The one error of a refused token, from the one fault that counts. -/
theorem read_refused_iff_fault (token : String) :
    (∀ e, (read token).outcome = .error e ↔ Fault token e) ∧
      ∀ quoted, (read token).outcome ≠ .error (.emptyPool quoted) := by
  have hfault : ∀ e, (read token).outcome = .error e ↔ Fault token e := by
    intro e
    rw [read_outcome]
    constructor
    · intro h
      split at h
      · next hinner =>
          cases h
          exact .brackets (Bracket.inner?_eq_none_iff.1 hinner)
      · next body hinner =>
          exact .segments (Bracket.inner?_eq_some_iff_encloses.1 hinner)
            (ofSegments_eq_error_iff.1 h)
    · intro h
      cases h with
      | brackets hbody => rw [Bracket.inner?_eq_none_iff.2 hbody]
      | segments hbody hsegments =>
          simp only [Bracket.inner?_eq_some_iff_encloses.2 hbody, hsegments.ofSegments_eq]
  refine ⟨hfault, fun quoted h => ?_⟩
  cases (hfault _).1 h with
  | segments hbody hsegments => exact hsegments.ne_emptyPool quoted rfl

/-- The line is to blame, although no word holds the size of the text. -/
example : (read "[NUMERIC-1048577-LINES-18446744073709551615]").outcome =
    .error (.invalidLength "[NUMERIC-1048577-LINES-18446744073709551615]") := by
  rfl

end BracketToken.StringToken
