import BracketToken.Proofs.Text
import BracketToken.Text.Blank
import Mathlib.Data.List.DropRight
import Mathlib.Data.List.TakeWhile

/-!
Texts without blanks at their ends. Trimming leads to such a text and leaves it as it is.
-/

namespace BracketToken.Text

def SolidStart (text : List Char) : Prop := ∀ c ∈ text.head?, isBlank c = false

def SolidEnd (text : List Char) : Prop := ∀ c ∈ text.getLast?, isBlank c = false

instance (text : List Char) : Decidable (SolidStart text) :=
  decidable_of_iff (text.head?.all (!isBlank ·) = true) (by simp [SolidStart, Option.all_eq_true])

instance (text : List Char) : Decidable (SolidEnd text) :=
  decidable_of_iff (text.getLast?.all (!isBlank ·) = true) (by simp [SolidEnd, Option.all_eq_true])

theorem solidStart_trimStart (text : List Char) : SolidStart (trimStart text) := by
  intro c hc
  exact of_mem_head?_dropWhile hc

theorem solidEnd_trimEnd (text : List Char) : SolidEnd (trimEnd text) := by
  intro c hc
  rw [trimEnd, List.getLast?_reverse] at hc
  exact of_mem_head?_dropWhile hc

theorem trimStart_eq_self {text : List Char} (h : SolidStart text) : trimStart text = text := by
  cases text with
  | nil => rfl
  | cons c text =>
      have hc := h c rfl
      rw [trimStart, List.dropWhile_cons_of_neg (by simp [hc])]

theorem trimEnd_eq_self {text : List Char} (h : SolidEnd text) : trimEnd text = text := by
  have hstart : SolidStart text.reverse := by
    intro c hc
    rw [List.head?_reverse] at hc
    exact h c hc
  have hreverse := trimStart_eq_self hstart
  rw [trimStart] at hreverse
  rw [trimEnd, hreverse, List.reverse_reverse]

theorem trim_eq_self {text : List Char} (hstart : SolidStart text) (hend : SolidEnd text) :
    trim text = text := by
  rw [trim, trimStart_eq_self hstart, trimEnd_eq_self hend]

theorem trimStart_append {blanks : List Char} (h : ∀ c ∈ blanks, isBlank c = true)
    (rest : List Char) : trimStart (blanks ++ rest) = trimStart rest :=
  List.dropWhile_append_of_pos h

theorem exists_blanks (text : List Char) :
    ∃ blanks, (∀ c ∈ blanks, isBlank c = true) ∧ text = blanks ++ trimStart text :=
  ⟨text.takeWhile isBlank, fun _ => of_mem_takeWhile, List.takeWhile_append_dropWhile.symm⟩

/-- Trimming takes blanks away and nothing else. -/
theorem exists_blanks_around (text : List Char) : ∃ front back, (∀ c ∈ front, isBlank c = true) ∧
    (∀ c ∈ back, isBlank c = true) ∧ text = front ++ trim text ++ back := by
  obtain ⟨front, hfront, htext⟩ := exists_blanks text
  obtain ⟨back, hback, hrest⟩ := exists_blanks (trimStart text).reverse
  refine ⟨front, back.reverse, hfront, ?_, ?_⟩
  · intro c hc
    exact hback c (List.mem_reverse.1 hc)
  · have hrest' := congrArg List.reverse hrest
    rw [List.reverse_reverse, List.reverse_append] at hrest'
    rw [List.append_assoc]
    exact htext.trans (congrArg (front ++ ·) hrest')

/-- Whatever blanks are around it, a text that neither starts nor ends with one is what is left. -/
theorem trim_around {front text back : List Char} (hfront : ∀ c ∈ front, isBlank c = true)
    (hback : ∀ c ∈ back, isBlank c = true) (hstart : SolidStart (text ++ back))
    (hend : SolidEnd text) : trim (front ++ text ++ back) = text := by
  rw [trim, List.append_assoc, trimStart_append hfront, trimStart_eq_self hstart, trimEnd,
    List.reverse_append, List.dropWhile_append_of_pos fun c hc => hback c (List.mem_reverse.1 hc)]
  exact trimEnd_eq_self hend

theorem solidEnd_trim (text : List Char) : SolidEnd (trim text) := solidEnd_trimEnd _

theorem trimEnd_eq_nil_iff {text : List Char} :
    trimEnd text = [] ↔ ∀ c ∈ text, isBlank c = true :=
  List.rdropWhile_eq_nil_iff

theorem trim_eq_nil_iff {text : List Char} : trim text = [] ↔ ∀ c ∈ text, isBlank c = true := by
  rw [trim, trimEnd_eq_nil_iff]
  constructor
  · intro h
    have hstart := solidStart_trimStart text
    cases hrest : trimStart text with
    | nil => exact List.dropWhile_eq_nil_iff.1 hrest
    | cons c rest =>
        rw [hrest] at h hstart
        have hc := hstart c rfl
        rw [h c List.mem_cons_self] at hc
        cases hc
  · intro h c hc
    exact h c ((List.dropWhile_sublist _).subset hc)

/-- What stands before a text that is not all blank is not touched at its end. -/
theorem trimEnd_append (front : List Char) {back : List Char} (h : trimEnd back ≠ []) :
    trimEnd (front ++ back) = front ++ trimEnd back := by
  have hne : (back.reverse.dropWhile isBlank).isEmpty = false := by
    rw [List.isEmpty_eq_false_iff]
    intro hnil
    rw [trimEnd, hnil] at h
    exact h rfl
  rw [trimEnd, List.reverse_append, List.dropWhile_append, hne, if_neg Bool.false_ne_true,
    List.reverse_append, List.reverse_reverse, trimEnd]

theorem SolidStart.append {text : List Char} (h : SolidStart text) (hne : text ≠ [])
    (rest : List Char) : SolidStart (text ++ rest) := by
  obtain ⟨c, text, rfl⟩ := List.exists_cons_of_ne_nil hne
  exact h

theorem SolidEnd.append {text : List Char} (h : SolidEnd text) (hne : text ≠ [])
    (front : List Char) : SolidEnd (front ++ text) := by
  intro c hc
  rw [List.getLast?_append_of_ne_nil _ hne] at hc
  exact h c hc

theorem solid_of_forall {text : List Char} (h : ∀ c ∈ text, isBlank c = false) :
    SolidStart text ∧ SolidEnd text :=
  ⟨fun c hc => h c (List.mem_of_head? hc), fun c hc => h c (List.mem_of_getLast? hc)⟩

theorem all_isBlank_eq_false {text : List Char} (hne : text ≠ []) (hend : SolidEnd text) :
    text.all isBlank = false := by
  rw [List.all_eq_false]
  refine ⟨text.getLast hne, List.getLast_mem hne, ?_⟩
  rw [hend _ (List.getLast?_eq_some_getLast hne)]
  exact Bool.false_ne_true

theorem trimEnd_ne_nil {text : List Char} (h : text.all isBlank = false) : trimEnd text ≠ [] := by
  intro hnil
  rw [trimEnd_eq_nil_iff, ← List.all_eq_true] at hnil
  exact Bool.false_ne_true (h.symm.trans hnil)

/-- Blanks of ASCII are no visible characters. -/
theorem isBlank_of_visible {c : Char} (h : 33 ≤ c.toNat ∧ c.toNat ≤ 126) : isBlank c = false := by
  rw [isBlank, inRanges, List.any_eq_false]
  intro range hrange
  rw [Bool.and_eq_true, decide_eq_true_eq, decide_eq_true_eq]
  simp only [blankRanges, List.mem_cons, List.not_mem_nil, or_false] at hrange
  rcases hrange with rfl | rfl | rfl | rfl | rfl | rfl | rfl | rfl | rfl | rfl <;> dsimp only <;>
    omega

end BracketToken.Text
