import BracketToken.Proofs.Draws
import BracketToken.Proofs.StringGrammar
import BracketToken.Text.Split
import Mathlib.Data.String.Basic

/-!
The texts that a request can get.

Main statement: `answers_of_read`, for a token that is read no draw fails as long as indices stay
below their bounds, and the texts are exactly the lines of pool characters that the request asks
for. Lines are found again by cutting the text, since no pool holds a part of a line break.
-/

namespace BracketToken.StringToken

/-- The pieces of a text between line breaks, found from the left without overlap. -/
def splitBreaks : List Char → List (List Char)
  | [] => [[]]
  | '\r' :: '\n' :: rest => [] :: splitBreaks rest
  | c :: rest => Text.consFirst c (splitBreaks rest)

theorem splitBreaks_cons_of_ne {c : Char} (h : c ≠ '\r') (rest : List Char) :
    splitBreaks (c :: rest) = Text.consFirst c (splitBreaks rest) := by
  rw [splitBreaks]
  intro rest' hc
  exact absurd hc h

/-- A piece without a carriage return goes in front of the first piece of what follows. -/
theorem splitBreaks_append {line : List Char} (h : '\r' ∉ line) {text piece : List Char}
    {pieces : List (List Char)} (htext : splitBreaks text = piece :: pieces) :
    splitBreaks (line ++ text) = (line ++ piece) :: pieces := by
  induction line with
  | nil => exact htext
  | cons c line ih =>
      rw [List.mem_cons, not_or] at h
      rw [List.cons_append, splitBreaks_cons_of_ne (Ne.symm h.1), ih h.2]
      rfl

theorem splitBreaks_intercalate {lines : List (List Char)} (hne : lines ≠ [])
    (h : ∀ line ∈ lines, '\r' ∉ line) : splitBreaks (lineBreak.intercalate lines) = lines := by
  induction lines with
  | nil => exact absurd rfl hne
  | cons line lines ih =>
      have hline := h line List.mem_cons_self
      cases lines with
      | nil =>
          have hempty : splitBreaks [] = [[]] := rfl
          have hlast := splitBreaks_append hline hempty
          rw [List.append_nil] at hlast
          rw [List.intercalate_singleton, hlast]
      | cons next lines =>
          have hrest := ih (List.cons_ne_nil _ _) fun l hl => h l (List.mem_cons_of_mem _ hl)
          have hbreak : splitBreaks (lineBreak ++ lineBreak.intercalate (next :: lines)) =
              [] :: next :: lines := by
            rw [lineBreak, List.cons_append, List.singleton_append, splitBreaks, ← lineBreak, hrest]
          rw [List.intercalate_cons_cons, List.append_assoc, splitBreaks_append hline hbreak,
            List.append_nil]

theorem length_intercalate (mark : List Char) {lines : List (List Char)} {n : Nat}
    (h : ∀ line ∈ lines, line.length = n) : (mark.intercalate lines).length =
      n * lines.length + mark.length * (lines.length - 1) := by
  induction lines with
  | nil => rfl
  | cons line lines ih =>
      have hline := h line List.mem_cons_self
      have hrest := ih fun l hl => h l (List.mem_cons_of_mem _ hl)
      cases lines with
      | nil => simp [hline]
      | cons next lines =>
          rw [List.intercalate_cons_cons, List.length_append, List.length_append, hline, hrest]
          simp only [List.length_cons, Nat.add_sub_cancel, Nat.mul_add, Nat.mul_one]
          omega

/-- The last character of a text is the last of its last line. -/
theorem getLast?_intercalate (mark : List Char) (front : List (List Char)) {line : List Char}
    (h : line ≠ []) : (mark.intercalate (front ++ [line])).getLast? = line.getLast? := by
  cases front with
  | nil => rw [List.nil_append, List.intercalate_singleton]
  | cons first front =>
      rw [Text.intercalate_append_cons mark (List.cons_ne_nil _ _), List.intercalate_singleton,
        List.getLast?_append_of_ne_nil _ h]

theorem utf8Len_eq_length {text : List Char} (h : ∀ c ∈ text, c.utf8Size = 1) :
    String.utf8Len text = text.length := by
  induction text with
  | nil => rfl
  | cons c text ih =>
      rw [String.utf8Len, h c List.mem_cons_self, List.length_cons,
        ih fun d hd => h d (List.mem_cons_of_mem _ hd)]

/-- Alphabets hold characters of one byte, and none that a line break is made of. -/
theorem Alphabet.chars_plain (c : Alphabet) :
    ∀ x ∈ c.chars.toList, x.utf8Size = 1 ∧ x ≠ '\r' ∧ x ≠ '\n' := by
  cases c <;> exact Text.forall_mem_of_all (by decide)

namespace Request

theorem pool_plain (r : Request) {x : Char} (h : x ∈ r.pool) :
    x.utf8Size = 1 ∧ x ≠ '\r' ∧ x ≠ '\n' := by
  obtain ⟨c, -, hx⟩ := List.mem_flatMap.1 h
  exact c.chars_plain x hx

def IsLine (r : Request) (line : List Char) : Prop :=
  match r.length with
  | .all => line = r.pool
  | .chars n => line.length = n ∧ ∀ c ∈ line, c ∈ r.pool

/-- As many lines as a request asks for, each as it asks for it. -/
structure AreLines (r : Request) (lines : List (List Char)) : Prop where
  count : lines.length = r.lines
  line : ∀ line ∈ lines, r.IsLine line

/-- A text that meets a request: cut at its line breaks it is the lines asked for, the last of them
without a break, and its size is that of the lines and the breaks between them. -/
structure Answer (r : Request) (text : String) : Prop where
  lines : r.AreLines (splitBreaks text.toList)
  last : ¬ lineBreak <:+ text.toList
  length : text.length = r.lineSize * r.lines + 2 * (r.lines - 1)
  bytes : text.utf8ByteSize = r.lineSize * r.lines + 2 * (r.lines - 1)
  size_le : r.lineSize * r.lines + 2 * (r.lines - 1) ≤ 1048576

theorem IsLine.length_eq {r : Request} {line : List Char} (h : r.IsLine line) :
    line.length = r.lineSize := by
  unfold IsLine at h
  unfold lineSize
  cases hlength : r.length with
  | all =>
      rw [hlength] at h
      exact congrArg List.length h
  | chars n =>
      rw [hlength] at h
      exact h.1

theorem IsLine.mem_pool {r : Request} {line : List Char} (h : r.IsLine line) :
    ∀ c ∈ line, c ∈ r.pool := by
  unfold IsLine at h
  cases hlength : r.length with
  | all =>
      rw [hlength] at h
      rw [show line = r.pool from h]
      exact fun c hc => hc
  | chars n =>
      rw [hlength] at h
      exact h.2

end Request

theorem Phrase.Describes.lineSize_eq {p : Phrase} {r : Request} (h : p.Describes r) :
    r.lineSize = p.lineSize := by
  rw [Request.lineSize, h.length, Request.pool, h.alphabets, p.lineSize_eq]

/-- A token that is read never asks for empty lines. -/
theorem lineSize_pos_of_read {token : String} {r : Request} (h : (read token).outcome = .ok r) :
    0 < r.lineSize := by
  obtain ⟨p, hp, -, hr⟩ := exists_phrase_of_read h
  rw [hr.lineSize_eq]
  exact hp.lineSize_pos

theorem Request.AreLines.splitBreaks_eq {r : Request} {lines : List (List Char)}
    (h : r.AreLines lines) : splitBreaks (lineBreak.intercalate lines) = lines := by
  have hpos := r.lines_pos
  refine splitBreaks_intercalate (List.length_pos_iff.1 (h.count ▸ hpos)) fun line hl hr => ?_
  exact (r.pool_plain ((h.line line hl).mem_pool _ hr)).2.1 rfl

/-- Lines that are asked for make an answer, unless they are empty. -/
theorem Request.AreLines.answer {r : Request} {lines : List (List Char)} (h : r.AreLines lines)
    (hsize : 0 < r.lineSize) : r.Answer (.ofList (lineBreak.intercalate lines)) := by
  have hpos := r.lines_pos
  have hne : lines ≠ [] := List.length_pos_iff.1 (h.count ▸ hpos)
  have hlength := length_intercalate lineBreak fun line hl => (h.line line hl).length_eq
  rw [h.count] at hlength
  refine ⟨?_, ?_, ?_, ?_, r.size_le⟩
  · rw [String.toList_ofList, h.splitBreaks_eq]
    exact h
  · rw [String.toList_ofList]
    intro hsuffix
    obtain ⟨front, line, rfl⟩ := List.eq_nil_or_concat lines |>.resolve_left hne
    have hline := h.line line (by simp)
    have hline_ne : line ≠ [] := List.length_pos_iff.1 (hline.length_eq ▸ hsize)
    obtain ⟨rest, hrest⟩ := hsuffix
    have hlast := getLast?_intercalate lineBreak front hline_ne
    rw [← List.concat_eq_append, ← hrest, lineBreak,
      List.getLast?_append_of_ne_nil _ (List.cons_ne_nil _ _)] at hlast
    have hmem : '\n' ∈ line := List.mem_of_getLast? hlast.symm
    exact (r.pool_plain (hline.mem_pool _ hmem)).2.2 rfl
  · rw [String.length_ofList]
    exact hlength
  · have hbytes : ∀ c ∈ lineBreak.intercalate lines, c.utf8Size = 1 := by
      intro c hc
      rcases Text.mem_intercalate hc with hbreak | ⟨line, hline, hc⟩
      · simp only [lineBreak, List.mem_cons, List.not_mem_nil, or_false] at hbreak
        rcases hbreak with rfl | rfl <;> decide
      · exact (r.pool_plain ((h.line line hline).mem_pool c hc)).1
    rw [String.utf8ByteSize_ofList, utf8Len_eq_length hbytes]
    exact hlength

variable {σ : Type}

theorem Request.sampleLines_areLines (r : Request) (source : IndexSource σ) (s : σ) :
    r.AreLines (r.sampleLines source s).1 := by
  unfold sampleLines
  cases hlength : r.length with
  | all =>
      refine ⟨List.length_replicate, fun line hline => ?_⟩
      rw [List.eq_of_mem_replicate hline, IsLine, hlength]
  | chars n =>
      refine ⟨length_collect _ _ _, forall_mem_collect (fun s => ?_) _ _⟩
      rw [IsLine, hlength, drawLine_eq]
      refine ⟨length_collect _ _ _, forall_mem_collect (fun s => ?_) _ _⟩
      exact List.getElem_mem _

/-- Whatever lines are asked for, some numbers draw them. -/
theorem Request.AreLines.exists_replay {r : Request} {lines : List (List Char)}
    (h : r.AreLines lines) : ∃ numbers, (r.sampleLines (.replay numbers) 0).1 = lines := by
  have hcount := h.count
  have hline := h.line
  unfold sampleLines
  unfold IsLine at hline
  cases hlength : r.length with
  | all =>
      rw [hlength] at hline
      exact ⟨#[], (List.eq_replicate_iff.2 ⟨hcount, hline⟩).symm⟩
  | chars n =>
      rw [hlength] at hline
      refine ⟨(lines.flatten.map r.pool.idxOf).toArray, ?_⟩
      rw [← hcount]
      exact collect_drawLine_replay r.pool_size_pos [] hline rfl

/-- A request that is read is met by every source that keeps below its bounds, without a draw that
fails; and what some source makes of it is every text of lines that it asks for, and nothing else. -/
theorem answers_of_read {token : String} {r : Request} (h : (read token).outcome = .ok r) :
    (∀ {σ : Type} (source : OpenSource σ) (hs : source.Bounded) (s : σ),
        r.text? source s = some (r.sample (source.guarded hs) s) ∧
          r.Answer (r.sample (source.guarded hs) s).1) ∧
      (∀ lines, r.AreLines lines → ∃ numbers count,
        r.text? (IndexSource.replay numbers).opened 0 =
          some (.ofList (lineBreak.intercalate lines), count)) ∧
      ∀ text, (∃ (σ : Type) (source : OpenSource σ) (s s' : σ),
          source.Bounded ∧ r.text? source s = some (text, s')) ↔
        ∃ lines, r.AreLines lines ∧ text = .ofList (lineBreak.intercalate lines) := by
  have hreplay : ∀ lines, r.AreLines lines → ∃ numbers count,
      r.text? (IndexSource.replay numbers).opened 0 =
        some (.ofList (lineBreak.intercalate lines), count) := by
    intro lines hlines
    obtain ⟨numbers, hnumbers⟩ := hlines.exists_replay
    refine ⟨numbers, (r.sample (.replay numbers) 0).2, ?_⟩
    rw [r.text?_eq _ (IndexSource.opened_bounded _), IndexSource.guarded_opened, ← hnumbers]
    rfl
  refine ⟨fun source hs s => ⟨r.text?_eq source hs s, ?_⟩, hreplay, fun text => ⟨?_, ?_⟩⟩
  · exact (r.sampleLines_areLines _ s).answer (lineSize_pos_of_read h)
  · rintro ⟨σ, source, s, s', hs, htext⟩
    rw [r.text?_eq source hs, Option.some.injEq, Prod.ext_iff] at htext
    exact ⟨_, r.sampleLines_areLines (source.guarded hs) s, htext.1.symm⟩
  · rintro ⟨lines, hlines, rfl⟩
    obtain ⟨numbers, count, hcount⟩ := hreplay lines hlines
    exact ⟨Nat, _, 0, count, IndexSource.opened_bounded _, hcount⟩

/-- Two lines of two digits. -/
def digitPairs : Request :=
  ⟨[.numeric], .chars 2, 2, by decide, by decide, by decide⟩

theorem answers_digitPairs :
    (read "[NUMERIC-2-LINES-2]").outcome = .ok digitPairs ∧
      digitPairs.Answer (digitPairs.sample (.replay #[0, 9]) 0).1 ∧
      ∃ numbers count, digitPairs.text? (IndexSource.replay numbers).opened 0 =
        some ("07\r\n70", count) := by
  have hread : (read "[NUMERIC-2-LINES-2]").outcome = .ok digitPairs := by decide
  have hlines : digitPairs.AreLines ["07".toList, "70".toList] := by
    refine ⟨rfl, fun line hline => ?_⟩
    simp only [List.mem_cons, List.not_mem_nil, or_false] at hline
    rcases hline with rfl | rfl <;> exact ⟨rfl, Text.forall_mem_of_all (by decide)⟩
  obtain ⟨hdraws, htexts, -⟩ := answers_of_read hread
  have hanswer := (hdraws _ (IndexSource.opened_bounded (.replay #[0, 9])) 0).2
  rw [IndexSource.guarded_opened] at hanswer
  exact ⟨hread, hanswer, htexts _ hlines⟩

end BracketToken.StringToken
