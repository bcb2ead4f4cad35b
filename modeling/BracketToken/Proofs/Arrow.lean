import BracketToken.Text.Split
import Mathlib.Data.List.Basic

/-!
The pieces of a text between the arrows in it, said without a scan.

An arrow ends in another character than it begins with, so no two arrows of a text overlap. Main
statement: `splitArrow_eq_iff`, splitting finds the one row of pieces without an arrow that make up
the text when they are joined by arrows.
-/

namespace BracketToken.Text

def arrow : List Char := ['<', '-', '>']

/-- Joined by arrows the pieces are the text, and no arrow is left in any of them. -/
structure Pieces (text : List Char) (pieces : List (List Char)) : Prop where
  ne_nil : pieces ≠ []
  joined : arrow.intercalate pieces = text
  arrowless : ∀ piece ∈ pieces, ¬ arrow <:+: piece

theorem intercalate_consFirst (mark : List Char) (c : Char) {pieces : List (List Char)}
    (h : pieces ≠ []) : mark.intercalate (consFirst c pieces) = c :: mark.intercalate pieces := by
  obtain ⟨piece, rest, rfl⟩ := List.exists_cons_of_ne_nil h
  cases rest with
  | nil => simp [consFirst]
  | cons next rest => simp [consFirst, List.intercalate_cons_cons]

theorem prefix_intercalate (mark piece : List Char) (pieces : List (List Char)) :
    piece <+: mark.intercalate (piece :: pieces) := by
  cases pieces with
  | nil => exact ⟨[], by rw [List.append_nil, List.intercalate_singleton]⟩
  | cons next pieces =>
      rw [List.intercalate_cons_cons, List.append_assoc]
      exact List.prefix_append _ _

/-- Nothing but arrows is lost by splitting. -/
theorem intercalate_splitArrow (text : List Char) :
    arrow.intercalate (splitArrow text) = text := by
  fun_induction splitArrow text with
  | case1 => rfl
  | case2 rest ih =>
      obtain ⟨piece, pieces, hpieces⟩ := List.exists_cons_of_ne_nil (splitArrow_ne_nil rest)
      rw [hpieces] at ih ⊢
      rw [List.intercalate_cons_cons, ih]
      rfl
  | case3 c rest _ ih => rw [intercalate_consFirst arrow c (splitArrow_ne_nil rest), ih]

theorem eq_of_front_arrow {c : Char} {rest : List Char} (h : arrow <+: c :: rest) :
    ∃ tail, c = '<' ∧ rest = '-' :: '>' :: tail := by
  obtain ⟨tail, htail⟩ := h
  rw [arrow, List.cons_append, List.cons.injEq] at htail
  exact ⟨tail, htail.1.symm, htail.2.symm⟩

theorem splitArrow_cons {c : Char} {rest : List Char} (h : ¬ arrow <+: c :: rest) :
    splitArrow (c :: rest) = consFirst c (splitArrow rest) := by
  rw [splitArrow]
  rintro tail rfl rfl
  exact h ⟨tail, rfl⟩

theorem arrowless_of_not_mem {piece : List Char} (h : '<' ∉ piece) : ¬ arrow <:+: piece :=
  fun harrow => h (harrow.subset List.mem_cons_self)

theorem splitArrow_arrowless {piece : List Char} (h : ¬ arrow <:+: piece) :
    splitArrow piece = [piece] := by
  induction piece with
  | nil => rfl
  | cons c piece ih =>
      rw [List.infix_cons_iff, not_or] at h
      rw [splitArrow_cons h.1, ih h.2]
      rfl

/-- A piece cannot be the front of an arrow that runs on into the arrow behind it. -/
theorem not_prefix_append_arrow {c : Char} {piece : List Char} (h : ¬ arrow <+: c :: piece)
    (rest : List Char) : ¬ arrow <+: c :: (piece ++ (arrow ++ rest)) := by
  intro harrow
  obtain ⟨tail, rfl, hrest⟩ := eq_of_front_arrow harrow
  match piece with
  | [] => cases hrest
  | [_] => cases hrest
  | _ :: _ :: piece =>
      rw [List.cons_append, List.cons_append, List.cons.injEq, List.cons.injEq] at hrest
      obtain ⟨rfl, rfl, -⟩ := hrest
      exact h ⟨piece, rfl⟩

theorem splitArrow_append_arrow {piece : List Char} (h : ¬ arrow <:+: piece) (rest : List Char) :
    splitArrow (piece ++ (arrow ++ rest)) = piece :: splitArrow rest := by
  induction piece with
  | nil => rfl
  | cons c piece ih =>
      rw [List.infix_cons_iff, not_or] at h
      rw [List.cons_append, splitArrow_cons (not_prefix_append_arrow h.1 rest), ih h.2]
      rfl

theorem splitArrow_intercalate {pieces : List (List Char)} (hne : pieces ≠ [])
    (h : ∀ piece ∈ pieces, ¬ arrow <:+: piece) : splitArrow (arrow.intercalate pieces) = pieces := by
  induction pieces with
  | nil => exact absurd rfl hne
  | cons piece pieces ih =>
      rw [List.forall_mem_cons] at h
      cases pieces with
      | nil => rw [List.intercalate_singleton, splitArrow_arrowless h.1]
      | cons next pieces =>
          rw [List.intercalate_cons_cons, List.append_assoc, splitArrow_append_arrow h.1,
            ih (List.cons_ne_nil _ _) h.2]

theorem arrowless_of_mem_splitArrow (text : List Char) :
    ∀ piece ∈ splitArrow text, ¬ arrow <:+: piece := by
  fun_induction splitArrow text with
  | case1 => exact List.forall_mem_singleton.2 (by decide)
  | case2 rest ih => exact List.forall_mem_cons.2 ⟨by decide, ih⟩
  | case3 c rest hc ih =>
      have hjoined := intercalate_splitArrow rest
      obtain ⟨first, pieces, hpieces⟩ := List.exists_cons_of_ne_nil (splitArrow_ne_nil rest)
      rw [hpieces] at ih hjoined ⊢
      rw [List.forall_mem_cons] at ih
      refine List.forall_mem_cons.2 ⟨?_, ih.2⟩
      rw [List.infix_cons_iff, not_or]
      refine ⟨?_, ih.1⟩
      -- An arrow at the front of the first piece would be one at the front of the text.
      intro harrow
      have hfirst : first <+: rest := hjoined ▸ prefix_intercalate arrow first pieces
      obtain ⟨tail, rfl, rfl⟩ :=
        eq_of_front_arrow (harrow.trans (List.cons_prefix_cons.2 ⟨rfl, hfirst⟩))
      exact hc tail rfl rfl

/-- A text has one row of pieces only, and splitting finds it. -/
theorem splitArrow_eq_iff {text : List Char} {pieces : List (List Char)} :
    splitArrow text = pieces ↔ Pieces text pieces := by
  constructor
  · rintro rfl
    exact ⟨splitArrow_ne_nil text, intercalate_splitArrow text, arrowless_of_mem_splitArrow text⟩
  · rintro ⟨hne, rfl, h⟩
    exact splitArrow_intercalate hne h

/-- Beginnings and ends of arrows are left in the pieces. -/
example : splitArrow "<-<->->".toList = ["<-".toList, "->".toList] := by decide

theorem splitArrow_pair {first second : List Char} (h₁ : '<' ∉ first) (h₂ : '<' ∉ second) :
    splitArrow (first ++ arrow ++ second) = [first, second] := by
  have hjoined : arrow.intercalate [first, second] = first ++ arrow ++ second := by
    rw [List.intercalate_cons_cons, List.intercalate_singleton]
  rw [← hjoined]
  refine splitArrow_intercalate (List.cons_ne_nil _ _) ?_
  exact List.forall_mem_cons.2
    ⟨arrowless_of_not_mem h₁, List.forall_mem_singleton.2 (arrowless_of_not_mem h₂)⟩

end BracketToken.Text
