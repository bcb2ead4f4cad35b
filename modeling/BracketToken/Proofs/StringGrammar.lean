import BracketToken.Proofs.Numeral
import BracketToken.Proofs.Text
import BracketToken.StringToken.Reader
import Mathlib.Algebra.GroupWithZero.Nat
import Mathlib.Data.List.TakeDrop

/-!
The grammar of string tokens, said without a reader.

A phrase is a token taken apart: the alphabets, the length as it is written, and the digits of a
line count if there is one. Main statement: `read_eq_ok_iff_phrase`, the reader takes exactly the
texts of legal phrases, and takes each for the one phrase that it is the text of. Sizes are natural
numbers here, whatever a machine word holds.
-/

namespace BracketToken.StringToken

open Numeral

/-- The length of a line as a token writes it. -/
inductive LengthWord
  | all
  | digits (text : List Char)

namespace LengthWord

def chars : LengthWord → List Char
  | .all => "ALL".toList
  | .digits text => text

/-- Digits without a leading zero. -/
def Legal : LengthWord → Prop
  | .all => True
  | .digits text => IsDigits text ∧ text.head? ≠ some '0'

/-- A legal length that a word of 64 bits holds. -/
def Fits (w : LengthWord) : Prop :=
  w.Legal ∧ ∀ text, w = .digits text → value text ≤ 18446744073709551615

def lineLength : LengthWord → LineLength
  | .all => .all
  | .digits text => .chars (value text)

end LengthWord

structure Phrase where
  alphabets : List Alphabet
  length : LengthWord
  count : Option (List Char)

namespace Phrase

def countChars (p : Phrase) : List Char :=
  match p.count with
  | none => []
  | some text => "-LINES-".toList ++ text

def text (p : Phrase) : List Char :=
  '[' :: ['-'].intercalate (p.alphabets.map (·.name.toList)) ++ '-' :: p.length.chars ++
    p.countChars ++ [']']

/-- The characters of a line: those of all alphabets together, or the number written. -/
def lineSize (p : Phrase) : Nat :=
  match p.length with
  | .all => (p.alphabets.map (·.chars.length)).sum
  | .digits text => value text

def lines (p : Phrase) : Nat :=
  match p.count with
  | none => 1
  | some text => value text

structure Legal (p : Phrase) : Prop where
  alphabets_ne : p.alphabets ≠ []
  length : p.length.Legal
  count : ∀ text, p.count = some text → IsDigits text ∧ 1 ≤ value text
  size_le : p.lineSize * p.lines + 2 * (p.lines - 1) ≤ 1048576

/-- What a request has to ask for to be the one that the phrase writes. -/
structure Describes (p : Phrase) (r : Request) : Prop where
  alphabets : r.alphabets = p.alphabets
  pool : r.pool = (p.alphabets.map (·.chars.toList)).flatten
  length : r.length = p.length.lineLength
  lines : r.lines = p.lines

end Phrase

theorem Alphabet.ofName?_eq_some_iff {word : List Char} {c : Alphabet} :
    ofName? word = some c ↔ word = c.name.toList :=
  Text.find?_word_eq_some_iff ofName?_name

theorem Alphabet.name_chars (c : Alphabet) :
    isLength c.name.toList = false ∧
      ∀ x ∈ c.name.toList, x ≠ '-' ∧ Bracket.isBracket x = false := by
  cases c <;> exact ⟨by decide, Text.forall_mem_of_all (by decide)⟩

theorem Alphabet.name_ne_nil (c : Alphabet) : c.name.toList ≠ [] := by
  cases c <;> decide

/-- A segment in the shape of a length, be the length legal or not. -/
def LengthLike (segment : List Char) : Prop := segment = "ALL".toList ∨ IsDigits segment

theorem isLength_eq_true_iff {segment : List Char} :
    isLength segment = true ↔ LengthLike segment := by
  rw [isLength, Bool.or_eq_true, decide_eq_true_eq, isNumeral_eq_true_iff]
  exact Iff.rfl

theorem isLength_eq_false_iff {segment : List Char} :
    isLength segment = false ↔ ¬ LengthLike segment := by
  rw [Bool.eq_false_iff, ne_eq, isLength_eq_true_iff]

theorem Alphabet.not_lengthLike_name (c : Alphabet) : ¬ LengthLike c.name.toList :=
  isLength_eq_false_iff.1 c.name_chars.1

theorem LengthWord.Legal.lengthLike {w : LengthWord} (h : w.Legal) : LengthLike w.chars := by
  cases w with
  | all => exact .inl rfl
  | digits text => exact .inr h.1

theorem LengthWord.Legal.ne_all {text : List Char} (h : (digits text).Legal) :
    text ≠ "ALL".toList := by
  rintro rfl
  exact absurd (h.1.2 'A' (by decide)) (by decide)

theorem LengthWord.chars_injective {w v : LengthWord} (hw : w.Legal) (hv : v.Legal)
    (h : w.chars = v.chars) : w = v := by
  cases w with
  | all =>
      cases v with
      | all => rfl
      | digits text => exact absurd h.symm hv.ne_all
  | digits text =>
      cases v with
      | all => exact absurd h hw.ne_all
      | digits other => exact congrArg digits h

theorem alphabetsOf_eq_ok_iff {token : String} {names : List (List Char)} {cs : List Alphabet} :
    alphabetsOf token names = .ok cs ↔ names = cs.map (·.name.toList) := by
  induction names generalizing cs with
  | nil => cases cs <;> simp [alphabetsOf]
  | cons name names ih =>
      rw [alphabetsOf]
      cases hname : Alphabet.ofName? name with
      | none =>
          cases cs with
          | nil => simp
          | cons c cs =>
              refine iff_of_false (by simp) ?_
              intro h
              rw [List.map_cons, List.cons.injEq, ← Alphabet.ofName?_eq_some_iff, hname] at h
              exact nomatch h.1
      | some c =>
          have hc := Alphabet.ofName?_eq_some_iff.1 hname
          constructor
          · intro h
            cases hrest : alphabetsOf token names with
            | error e => simp [hrest, Except.map] at h
            | ok rest =>
                simp only [hrest, Except.map, Except.ok.injEq] at h
                rw [← h, List.map_cons, ← hc, ← ih.1 hrest]
          · intro h
            cases cs with
            | nil => cases h
            | cons d ds =>
                rw [List.map_cons, List.cons.injEq] at h
                rw [hc] at h
                rw [ih.2 h.2, Text.word_injective Alphabet.ofName?_name h.1]
                rfl

theorem textSize?_eq (lineSize lines : Nat) :
    textSize? lineSize lines = word64? (textSize lineSize lines) := by
  ext size
  simp only [textSize?, bind, Option.bind_eq_some_iff, word64?_eq_some_iff, textSize]
  constructor
  · rintro ⟨breaks, ⟨rfl, -⟩, chars, ⟨rfl, -⟩, h⟩
    exact h
  · intro h
    exact ⟨_, ⟨rfl, by omega⟩, _, ⟨rfl, by omega⟩, h⟩

theorem Request.eq_of_parts {r q : Request} (ha : r.alphabets = q.alphabets)
    (hl : r.length = q.length) (hn : r.lines = q.lines) : r = q := by
  cases r
  cases q
  simp_all

/-- No checked step refuses a text within the limit. -/
theorem request_eq_ok_iff {token : String} {cs : List Alphabet} {l : LineLength}
    {n : { n : Nat // 0 < n }} {r : Request} :
    request token cs l n = .ok r ↔
      (poolOf cs ≠ [] ∧ textSize (l.size (poolOf cs).length) n ≤ maxSize) ∧
        r.alphabets = cs ∧ r.length = l ∧ r.lines = n := by
  have hline : l.size (poolOf cs).length ≤ textSize (l.size (poolOf cs).length) n :=
    Nat.le_trans (Nat.le_mul_of_pos_right _ n.2) (Nat.le_add_right _ _)
  constructor
  · intro h
    unfold request at h
    split at h
    · cases h
    · next hpool =>
        split at h
        · cases h
        · split at h
          · cases h
          · next size hsize =>
              split at h
              · next hle =>
                  cases h
                  have heq := textSize_of_textSize? hsize
                  exact ⟨⟨hpool, by omega⟩, rfl, rfl, rfl⟩
              · cases h
  · rintro ⟨⟨hpool, hle⟩, ha, hl, hn⟩
    unfold maxSize at hle
    unfold request
    rw [dif_neg hpool, if_neg (by unfold maxSize; omega)]
    split
    · next hsize =>
        rw [textSize?_eq, word64?, if_pos (by omega)] at hsize
        cases hsize
    · next size hsize =>
        have heq := textSize_of_textSize? hsize
        rw [dif_pos (by unfold maxSize; omega), Except.ok.injEq]
        exact Request.eq_of_parts ha.symm hl.symm hn.symm

theorem LengthWord.Fits.lengthOf_eq {w : LengthWord} (h : w.Fits) (token : String) :
    lengthOf token w.chars = .ok w.lineLength := by
  obtain ⟨hw, hle⟩ := h
  cases w with
  | all => rfl
  | digits text =>
      have hall : text ≠ wholePool := hw.ne_all
      have hzero := hw.2
      have hfits := word64?_eq_some_iff.2 ⟨rfl, hle text rfl⟩
      simp only [lengthOf, LengthWord.chars, LengthWord.lineLength, if_neg hall, if_neg hzero,
        hfits]

theorem exists_fits_of_lengthOf {token : String} {segment : List Char} {l : LineLength}
    (h : LengthLike segment) (hl : lengthOf token segment = .ok l) :
    ∃ w : LengthWord, w.Fits ∧ segment = w.chars ∧ l = w.lineLength := by
  unfold lengthOf at hl
  split at hl
  · next hall =>
      cases hl
      exact ⟨.all, ⟨trivial, fun text htext => nomatch htext⟩, hall, rfl⟩
  · next hall =>
      have hdigits := h.resolve_left hall
      split at hl
      · cases hl
      · next hzero =>
          split at hl
          · cases hl
          · next count hcount =>
              cases hl
              obtain ⟨rfl, hle⟩ := word64?_eq_some_iff.1 hcount
              refine ⟨.digits segment, ⟨⟨hdigits, hzero⟩, ?_⟩, rfl, rfl⟩
              rintro text ⟨⟩
              exact hle

def countSegments : Option (List Char) → List (List Char)
  | none => []
  | some text => ["LINES".toList, text]

theorem lineCountOf_eq_ok_iff {token : String} {digits : List Char} {n : { n : Nat // 0 < n }} :
    lineCountOf token digits = .ok n ↔
      n.1 = value digits ∧ value digits ≤ 18446744073709551615 := by
  have hpos := n.2
  unfold lineCountOf
  split
  · next k hk =>
      obtain ⟨hv, hle⟩ := word64?_eq_some_iff.1 hk
      rw [Except.ok.injEq]
      constructor
      · rintro rfl
        exact ⟨hv, hle⟩
      · intro h
        exact Subtype.ext (hv.trans h.1.symm)
  · next hk =>
      refine iff_of_false (by simp) ?_
      rintro ⟨hv, hle⟩
      refine hk (n.1 - 1) (word64?_eq_some_iff.2 ⟨by omega, hle⟩)

theorem linesOf_count {digits : List Char} (h : IsDigits digits) (token : String) :
    linesOf token ["LINES".toList, digits] = lineCountOf token digits := by
  refine if_pos ?_
  rw [Bool.and_eq_true, isNumeral_eq_true_iff]
  exact ⟨by decide, h⟩

theorem linesOf_eq_ok_iff {token : String} {rest : List (List Char)} {n : { n : Nat // 0 < n }} :
    linesOf token rest = .ok n ↔ ∃ count : Option (List Char), rest = countSegments count ∧
      match count with
      | none => n.1 = 1
      | some text => IsDigits text ∧ n.1 = value text ∧ value text ≤ 18446744073709551615 := by
  constructor
  · intro h
    unfold linesOf at h
    split at h
    · cases h
      exact ⟨none, rfl, rfl⟩
    · next keyword text =>
        split at h
        · next hcount =>
            rw [Bool.and_eq_true, decide_eq_true_eq, isNumeral_eq_true_iff] at hcount
            refine ⟨some text, ?_, hcount.2, lineCountOf_eq_ok_iff.1 h⟩
            rw [hcount.1]
            rfl
        · cases h
    · cases h
  · rintro ⟨count, rfl, hcount⟩
    cases count with
    | none =>
        rw [countSegments, linesOf, Except.ok.injEq]
        exact Subtype.ext hcount.symm
    | some text =>
        rw [countSegments, linesOf_count hcount.1]
        exact lineCountOf_eq_ok_iff.2 hcount.2

/-- Segments divided at the first with the shape of a length, with at least one name before it. -/
structure Cut (segments names : List (List Char)) (length : List Char)
    (rest : List (List Char)) : Prop where
  join : segments = names ++ length :: rest
  full : [] ∉ segments
  names_ne : names ≠ []
  unlike : ∀ name ∈ names, ¬ LengthLike name
  like : LengthLike length

theorem any_isEmpty_eq_true_iff {segments : List (List Char)} :
    segments.any List.isEmpty = true ↔ [] ∈ segments := by
  simp only [List.any_eq_true, List.isEmpty_iff, exists_eq_right]

theorem Cut.span {segments names rest : List (List Char)} {length : List Char}
    (h : Cut segments names length rest) :
    segments.takeWhile (!isLength ·) = names ∧
      segments.dropWhile (!isLength ·) = length :: rest := by
  rw [h.join]
  refine Text.span_append ?_ (by simp [isLength_eq_true_iff.2 h.like])
  intro name hname
  rw [isLength_eq_false_iff.2 (h.unlike name hname)]
  rfl

/-- The four steps of reading, each of which may refuse. -/
theorem Cut.ofSegments_eq {segments names rest : List (List Char)} {length : List Char}
    (h : Cut segments names length rest) (token : String) :
    ofSegments token segments = (do
      let cs ← alphabetsOf token names
      let l ← lengthOf token length
      let n ← linesOf token rest
      request token cs l n) := by
  have hfull : ¬ segments.any List.isEmpty = true := fun hany =>
    h.full (any_isEmpty_eq_true_iff.1 hany)
  rw [ofSegments, if_neg hfull, List.span_eq_takeWhile_dropWhile, h.span.1, h.span.2]
  obtain ⟨name, names, rfl⟩ := List.exists_cons_of_ne_nil h.names_ne
  rfl

/-- The division that a reader finds. -/
theorem cut_of_dropWhile {segments rest : List (List Char)} {length : List Char}
    (hfull : [] ∉ segments) (hne : segments.takeWhile (!isLength ·) ≠ [])
    (hdrop : segments.dropWhile (!isLength ·) = length :: rest) :
    Cut segments (segments.takeWhile (!isLength ·)) length rest where
  join := by rw [← hdrop, List.takeWhile_append_dropWhile]
  full := hfull
  names_ne := hne
  unlike := fun name hname =>
    isLength_eq_false_iff.1 (by simpa using Text.of_mem_takeWhile hname)
  like := by
    have hstop : length ∈ (segments.dropWhile (!isLength ·)).head? := by
      rw [hdrop]
      rfl
    exact isLength_eq_true_iff.1 (by simpa using Text.of_mem_head?_dropWhile hstop)

theorem ofSegments_of_not_cut {segments : List (List Char)}
    (h : ∀ names length rest, ¬ Cut segments names length rest) (token : String) :
    ofSegments token segments = .error (.invalidFormat token) := by
  unfold ofSegments
  split
  · rfl
  · next hfull =>
      rw [any_isEmpty_eq_true_iff] at hfull
      rw [List.span_eq_takeWhile_dropWhile]
      split
      · rfl
      · rfl
      · next names length rest hne hspan =>
          obtain ⟨rfl, hdrop⟩ := Prod.mk.inj hspan
          exact absurd (cut_of_dropWhile hfull hne hdrop) (h _ length rest)

theorem exists_cut_of_ofSegments {token : String} {segments : List (List Char)} {r : Request}
    (h : ofSegments token segments = .ok r) :
    ∃ names length rest, Cut segments names length rest := by
  refine Classical.byContradiction fun hnot => ?_
  simp only [not_exists] at hnot
  rw [ofSegments_of_not_cut hnot] at h
  cases h

namespace Phrase

def segments (p : Phrase) : List (List Char) :=
  p.alphabets.map (·.name.toList) ++ p.length.chars :: countSegments p.count

theorem text_eq {p : Phrase} (h : p.alphabets ≠ []) :
    p.text = '[' :: ['-'].intercalate p.segments ++ [']'] := by
  have hnames : p.alphabets.map (·.name.toList) ≠ [] := by simpa using h
  have htail : ['-'].intercalate (p.length.chars :: countSegments p.count) =
      p.length.chars ++ p.countChars := by
    cases hcount : p.count with
    | none => simp [countSegments, countChars, hcount]
    | some text => simp [countSegments, countChars, hcount]
  rw [segments, Text.intercalate_append_cons _ hnames, htail, text]
  simp only [List.append_assoc, List.cons_append, List.nil_append]

theorem lineSize_eq (p : Phrase) :
    p.length.lineLength.size (poolOf p.alphabets).length = p.lineSize := by
  unfold lineSize
  cases p.length with
  | all =>
      simp [LengthWord.lineLength, LineLength.size, poolOf, List.length_flatMap,
        String.length_toList]
  | digits text => rfl

theorem poolOf_ne_nil {cs : List Alphabet} (h : cs ≠ []) : poolOf cs ≠ [] := by
  obtain ⟨c, cs, rfl⟩ := List.exists_cons_of_ne_nil h
  have hc := c.chars_ne_nil
  simp [poolOf, hc]

/-- The lines of a legal phrase have a character at least, so its numbers are within its size. -/
theorem Legal.lineSize_pos {p : Phrase} (h : p.Legal) : 1 ≤ p.lineSize := by
  have hlength := h.length
  rw [← lineSize_eq]
  cases hw : p.length with
  | all => exact List.length_pos_iff.2 (poolOf_ne_nil h.alphabets_ne)
  | digits text =>
      rw [hw] at hlength
      obtain ⟨⟨hne, hdigits⟩, hzero⟩ := hlength
      obtain ⟨c, rest, rfl⟩ := List.exists_cons_of_ne_nil hne
      exact Nat.le_trans (Nat.pow_pos (by decide))
        (pow_le_value_cons (hdigits c List.mem_cons_self) (by simpa using hzero))

theorem lines_none {p : Phrase} (h : p.count = none) : p.lines = 1 := by
  rw [lines, h]

theorem lines_some {p : Phrase} {text : List Char} (h : p.count = some text) :
    p.lines = value text := by
  rw [lines, h]

theorem Legal.lines_pos {p : Phrase} (h : p.Legal) : 1 ≤ p.lines := by
  cases hcount : p.count with
  | none => exact Nat.le_of_eq (lines_none hcount).symm
  | some text =>
      rw [lines_some hcount]
      exact (h.count text hcount).2

theorem Legal.numbers_le {p : Phrase} (h : p.Legal) :
    p.lineSize ≤ 1048576 ∧ p.lines ≤ 1048576 := by
  have hsize := h.size_le
  have hl := Nat.le_mul_of_pos_right p.lineSize h.lines_pos
  have hn := Nat.le_mul_of_pos_left p.lines h.lineSize_pos
  omega

/-- No segment of a legal phrase is empty or holds a hyphen or a bracket. -/
theorem Legal.segment_chars {p : Phrase} (h : p.Legal) :
    ∀ segment ∈ p.segments, segment ≠ [] ∧ ∀ c ∈ segment, c ≠ '-' ∧ Bracket.isBracket c = false := by
  have hdigits : ∀ text, IsDigits text →
      text ≠ [] ∧ ∀ c ∈ text, c ≠ '-' ∧ Bracket.isBracket c = false := by
    intro text htext
    refine ⟨htext.1, fun c hc => ?_⟩
    have hc' := htext.2 c hc
    exact ⟨Text.ne_of_test hc' (by decide), Text.isBracket_of_test hc' (by decide) (by decide)⟩
  intro segment hsegment
  rw [segments, List.mem_append, List.mem_cons] at hsegment
  rcases hsegment with hname | rfl | hcount
  · obtain ⟨c, -, rfl⟩ := List.mem_map.1 hname
    exact ⟨c.name_ne_nil, c.name_chars.2⟩
  · have hlength := h.length
    cases hw : p.length with
    | all => exact ⟨by decide, Text.forall_mem_of_all (by decide)⟩
    | digits text =>
        rw [hw] at hlength
        exact hdigits text hlength.1
  · cases hcount' : p.count with
    | none =>
        rw [hcount'] at hcount
        cases hcount
    | some text =>
        rw [hcount', countSegments, List.mem_cons, List.mem_singleton] at hcount
        rcases hcount with rfl | rfl
        · exact ⟨by decide, Text.forall_mem_of_all (by decide)⟩
        · exact hdigits _ (h.count _ hcount').1

/-- The request of a legal phrase. -/
theorem Legal.exists_request {p : Phrase} (h : p.Legal) : ∃ r, p.Describes r := by
  refine ⟨⟨p.alphabets, p.length.lineLength, p.lines, poolOf_ne_nil h.alphabets_ne, h.lines_pos, ?_⟩,
    rfl, ?_, rfl, rfl⟩
  · rw [lineSize_eq]
    exact h.size_le
  · rw [Request.pool, poolOf, List.flatMap_def]

theorem Legal.cut {p : Phrase} (h : p.Legal) :
    Cut p.segments (p.alphabets.map (·.name.toList)) p.length.chars (countSegments p.count) where
  join := rfl
  full := fun hmem => (h.segment_chars [] hmem).1 rfl
  names_ne := by simpa using h.alphabets_ne
  unlike := by
    intro name hname
    obtain ⟨c, -, rfl⟩ := List.mem_map.1 hname
    exact c.not_lengthLike_name
  like := h.length.lengthLike

theorem Legal.length_fits {p : Phrase} (h : p.Legal) : p.length.Fits := by
  refine ⟨h.length, fun text htext => ?_⟩
  have hsize := h.numbers_le.1
  rw [lineSize, htext] at hsize
  exact Nat.le_trans hsize (by decide)

theorem Legal.ofSegments_eq {p : Phrase} {r : Request} (token : String) (h : p.Legal)
    (hr : p.Describes r) : ofSegments token p.segments = .ok r := by
  have hnumbers := h.numbers_le
  have hnames : alphabetsOf token (p.alphabets.map (·.name.toList)) = .ok p.alphabets :=
    alphabetsOf_eq_ok_iff.2 rfl
  have hn : linesOf token (countSegments p.count) = .ok ⟨p.lines, h.lines_pos⟩ := by
    refine linesOf_eq_ok_iff.2 ⟨p.count, rfl, ?_⟩
    cases hcount : p.count with
    | none => exact lines_none hcount
    | some text =>
        have hlines := lines_some hcount
        exact ⟨(h.count text hcount).1, hlines, by omega⟩
  have hsize : textSize (p.length.lineLength.size (poolOf p.alphabets).length) p.lines ≤ maxSize := by
    rw [lineSize_eq]
    exact h.size_le
  have hrequest : request token p.alphabets p.length.lineLength ⟨p.lines, h.lines_pos⟩ = .ok r :=
    request_eq_ok_iff.2
      ⟨⟨poolOf_ne_nil h.alphabets_ne, hsize⟩, hr.alphabets, hr.length, hr.lines⟩
  rw [h.cut.ofSegments_eq, hnames, h.length_fits.lengthOf_eq, hn]
  exact hrequest

end Phrase

theorem exists_phrase_of_ofSegments {token : String} {segments : List (List Char)} {r : Request}
    (h : ofSegments token segments = .ok r) :
    ∃ p : Phrase, p.Legal ∧ segments = p.segments ∧ p.Describes r := by
  obtain ⟨names, length, rest, hcut⟩ := exists_cut_of_ofSegments h
  rw [hcut.ofSegments_eq] at h
  simp only [bind_eq_ok_iff] at h
  obtain ⟨cs, hcs, l, hl, n, hn, hr⟩ := h
  obtain ⟨w, hw, rfl, rfl⟩ := exists_fits_of_lengthOf hcut.like hl
  obtain ⟨count, rfl, hcount⟩ := linesOf_eq_ok_iff.1 hn
  obtain ⟨⟨hpool, hsize⟩, ha, hrl, hrn⟩ := request_eq_ok_iff.1 hr
  have hnames := alphabetsOf_eq_ok_iff.1 hcs
  have hlines : n.1 = (Phrase.mk cs w count).lines := by
    cases count with
    | none => exact hcount
    | some text => exact hcount.2.1
  have hlineSize := Phrase.lineSize_eq ⟨cs, w, count⟩
  refine ⟨⟨cs, w, count⟩, ⟨?_, hw.1, ?_, ?_⟩, ?_, ha, ?_, hrl, hrn.trans hlines⟩
  · rintro rfl
    exact hcut.names_ne hnames
  · rintro text rfl
    have hpos := n.2
    exact ⟨hcount.1, by omega⟩
  · rw [← hlineSize, ← hlines]
    exact hsize
  · rw [hcut.join, hnames]
    rfl
  · rw [Request.pool, ha, poolOf, List.flatMap_def]

theorem countSegments_injective {count other : Option (List Char)}
    (h : countSegments count = countSegments other) : count = other := by
  cases count with
  | none =>
      cases other with
      | none => rfl
      | some text => cases h
  | some text =>
      cases other with
      | none => cases h
      | some other =>
          simp only [countSegments, List.cons.injEq, and_true, true_and] at h
          exact congrArg some h

theorem Phrase.eq_of_segments {p q : Phrase} (hp : p.Legal) (hq : q.Legal)
    (h : p.segments = q.segments) : p = q := by
  have hspan := hp.cut.span
  rw [h, hq.cut.span.1, hq.cut.span.2, List.cons.injEq] at hspan
  obtain ⟨hnames, hlength, hcount⟩ := hspan
  have halphabets : q.alphabets = p.alphabets :=
    (List.map_inj_right fun _ _ => Text.word_injective Alphabet.ofName?_name).1 hnames
  obtain ⟨cs, w, count⟩ := p
  obtain ⟨ds, v, other⟩ := q
  rw [Phrase.mk.injEq]
  exact ⟨halphabets.symm, (LengthWord.chars_injective hq.length hp.length hlength).symm,
    (countSegments_injective hcount).symm⟩

/-- A legal text goes through brackets and hyphens unharmed. -/
theorem Phrase.Legal.inner?_text {p : Phrase} (h : p.Legal) :
    ∃ body, Bracket.inner? p.text = some body ∧ body.splitOn '-' = p.segments := by
  refine ⟨['-'].intercalate p.segments, ?_, ?_⟩
  · rw [Bracket.inner?_eq_some_iff, text_eq h.alphabets_ne]
    refine ⟨rfl, fun c hc => ?_⟩
    rcases Text.mem_intercalate hc with hmark | ⟨segment, hsegment, hc⟩
    · rw [List.mem_singleton.1 hmark]
      rfl
    · exact ((h.segment_chars segment hsegment).2 c hc).2
  · refine List.splitOn_intercalate '-' ?_ (by simp [segments])
    intro segment hsegment hhyphen
    exact ((h.segment_chars segment hsegment).2 '-' hhyphen).1 rfl

theorem read_outcome (token : String) :
    (read token).outcome = match Bracket.inner? token.toList with
      | none => .error (.invalidFormat token)
      | some body => ofSegments token (body.splitOn '-') := by
  simp only [read, Traced.outcome_bind, Traced.outcome_log, Except.bind]
  cases Bracket.inner? token.toList with
  | none => rfl
  | some body =>
      simp only [Traced.outcome_bind, Traced.outcome_ofExcept]
      cases ofSegments token (body.splitOn '-') with
      | error e => rfl
      | ok r => rfl

theorem Phrase.Legal.read_eq {p : Phrase} {r : Request} {token : String} (h : p.Legal)
    (ht : token.toList = p.text) (hr : p.Describes r) : (read token).outcome = .ok r := by
  obtain ⟨body, hbody, hsegments⟩ := h.inner?_text
  rw [read_outcome, ht, hbody]
  simp only [hsegments]
  exact h.ofSegments_eq token hr

theorem exists_phrase_of_read {token : String} {r : Request} (h : (read token).outcome = .ok r) :
    ∃ p : Phrase, p.Legal ∧ token.toList = p.text ∧ p.Describes r := by
  rw [read_outcome] at h
  cases hbody : Bracket.inner? token.toList with
  | none =>
      rw [hbody] at h
      cases h
  | some body =>
      rw [hbody] at h
      obtain ⟨p, hp, hsegments, hr⟩ := exists_phrase_of_ofSegments h
      refine ⟨p, hp, ?_, hr⟩
      rw [Phrase.text_eq hp.alphabets_ne, ← hsegments, List.intercalate_splitOn]
      exact (Bracket.inner?_eq_some_iff.1 hbody).1

theorem Phrase.eq_of_text {p q : Phrase} (hp : p.Legal) (hq : q.Legal) (h : p.text = q.text) :
    p = q := by
  obtain ⟨body, hbody, hsegments⟩ := hp.inner?_text
  obtain ⟨body', hbody', hsegments'⟩ := hq.inner?_text
  rw [h, hbody', Option.some.injEq] at hbody
  exact eq_of_segments hp hq (by rw [← hsegments, ← hsegments', hbody])

/-- The reader takes the texts of legal phrases and no others; each is the text of one legal phrase
only, and is read as the request that this phrase describes. -/
theorem read_eq_ok_iff_phrase (token : String) :
    ((∃ r, (read token).outcome = .ok r) ↔ ∃ p : Phrase, p.Legal ∧ token.toList = p.text) ∧
      ∀ p : Phrase, p.Legal → token.toList = p.text →
        (∃ r, (read token).outcome = .ok r ∧ p.Describes r) ∧
          ∀ q : Phrase, q.Legal → token.toList = q.text → q = p := by
  have hread : ∀ p : Phrase, p.Legal → token.toList = p.text →
      ∃ r, (read token).outcome = .ok r ∧ p.Describes r := by
    intro p hp ht
    obtain ⟨r, hr⟩ := hp.exists_request
    exact ⟨r, hp.read_eq ht hr, hr⟩
  refine ⟨⟨?_, ?_⟩, ?_⟩
  · rintro ⟨r, hr⟩
    obtain ⟨p, hp, ht, -⟩ := exists_phrase_of_read hr
    exact ⟨p, hp, ht⟩
  · rintro ⟨p, hp, ht⟩
    obtain ⟨r, hr, -⟩ := hread p hp ht
    exact ⟨r, hr⟩
  · intro p hp ht
    exact ⟨hread p hp ht, fun q hq hqt => Phrase.eq_of_text hq hp (hqt.symm.trans ht)⟩

/-- The most lines of one character, with a leading zero in their count. -/
def longestPhrase : Phrase := ⟨[.numeric], .digits ['1'], some "0349526".toList⟩

theorem longestPhrase_legal : longestPhrase.Legal where
  alphabets_ne := by decide
  length := ⟨⟨by decide, Text.forall_mem_of_all (by decide)⟩, by decide⟩
  count := by
    rintro text ⟨⟩
    exact ⟨⟨by decide, Text.forall_mem_of_all (by decide)⟩, by decide⟩
  size_le := by decide

theorem read_longestPhrase :
    (longestPhrase.Legal ∧ "[NUMERIC-1-LINES-0349526]".toList = longestPhrase.text) ∧
      (∃ r, (read "[NUMERIC-1-LINES-0349526]").outcome = .ok r ∧ longestPhrase.Describes r) ∧
      ∀ q : Phrase, q.Legal → "[NUMERIC-1-LINES-0349526]".toList = q.text → q = longestPhrase := by
  have ht : "[NUMERIC-1-LINES-0349526]".toList = longestPhrase.text := by decide
  exact ⟨⟨longestPhrase_legal, ht⟩, (read_eq_ok_iff_phrase _).2 longestPhrase longestPhrase_legal ht⟩

end BracketToken.StringToken
