import BracketToken.Bracket

/-!
What the readers of tokens share: steps that may fail, the brackets, runs of characters that a test
ends, words of closed sets, and pieces with a mark between them.
-/

namespace BracketToken

theorem bind_eq_ok_iff {ε α β : Type} {x : Except ε α} {f : α → Except ε β} {b : β} :
    (x >>= f) = .ok b ↔ ∃ a, x = .ok a ∧ f a = .ok b := by
  cases x with
  | error e => simp [bind, Except.bind]
  | ok a => simp [bind, Except.bind]

theorem bind_eq_error_iff {ε α β : Type} {x : Except ε α} {f : α → Except ε β} {e : ε} :
    x.bind f = .error e ↔ x = .error e ∨ ∃ a, x = .ok a ∧ f a = .error e := by
  cases x with
  | error e' => simp [Except.bind]
  | ok a => simp [Except.bind]

theorem map_eq_error_iff {ε α β : Type} {x : Except ε α} {f : α → β} {e : ε} :
    x.map f = .error e ↔ x = .error e := by
  cases x with
  | error e' => simp [Except.map]
  | ok a => simp [Except.map]

/-- What gives a value in known cases gives none outside them. -/
theorem eq_none_iff_of_eq_some_iff {α : Type} {x : Option α} {p : α → Prop}
    (h : ∀ a, x = some a ↔ p a) : x = none ↔ ∀ a, ¬ p a := by
  rw [Option.eq_none_iff_forall_ne_some]
  exact forall_congr' fun a => not_congr (h a)

namespace Bracket

/-- One pair of brackets around the whole text, and none inside. -/
def Encloses (token body : List Char) : Prop :=
  token = '[' :: body ++ [']'] ∧ ∀ c ∈ body, c ≠ '[' ∧ c ≠ ']'

theorem inner?_eq_some_iff_encloses {token body : List Char} :
    inner? token = some body ↔ Encloses token body := by
  rw [inner?_eq_some_iff, Encloses]
  simp only [isBracket, Bool.or_eq_false_iff, decide_eq_false_iff_not, ne_eq]

theorem inner?_eq_none_iff {token : List Char} :
    inner? token = none ↔ ∀ body, ¬ Encloses token body :=
  eq_none_iff_of_eq_some_iff fun _ => inner?_eq_some_iff_encloses

end Bracket

namespace Text

variable {α : Type}

theorem ne_of_test {p : α → Bool} {a b : α} (ha : p a = true) (hb : p b = false) : a ≠ b := by
  rintro rfl
  rw [ha] at hb
  cases hb

/-- Lets a statement about the characters of a text be decided along the text; deciding it as it
stands can mean to try every character that there is. -/
theorem forall_mem_of_all {p : α → Prop} [DecidablePred p] {text : List α}
    (h : text.all (p ·) = true) : ∀ a ∈ text, p a :=
  fun a ha => of_decide_eq_true (List.all_eq_true.1 h a ha)

/-- A class of characters that holds neither bracket holds no character that is one. -/
theorem isBracket_of_test {p : Char → Bool} {c : Char} (h : p c = true) (hopen : p '[' = false)
    (hclose : p ']' = false) : Bracket.isBracket c = false := by
  simp only [Bracket.isBracket, ne_of_test h hopen, ne_of_test h hclose, decide_false, Bool.or_self]

/-- A run ends where the test first fails. -/
theorem span_append {p : α → Bool} {run rest : List α} (hrun : ∀ a ∈ run, p a = true)
    (hrest : ∀ a ∈ rest.head?, p a = false) :
    (run ++ rest).takeWhile p = run ∧ (run ++ rest).dropWhile p = rest := by
  rw [List.takeWhile_append_of_pos hrun, List.dropWhile_append_of_pos hrun]
  cases rest with
  | nil => simp
  | cons a rest =>
      have ha := hrest a rfl
      rw [List.takeWhile_cons_of_neg (by simp [ha]), List.dropWhile_cons_of_neg (by simp [ha]),
        List.append_nil]
      exact ⟨rfl, rfl⟩

theorem of_mem_takeWhile {p : α → Bool} {a : α} {text : List α} (h : a ∈ text.takeWhile p) :
    p a = true :=
  List.all_eq_true.1 List.all_takeWhile a h

theorem of_mem_head?_dropWhile {p : α → Bool} {a : α} {text : List α}
    (h : a ∈ (text.dropWhile p).head?) : p a = false := by
  have hstop := List.head?_dropWhile_not p text
  rw [Option.mem_def.1 h] at hstop
  exact hstop

/-- Where every item of a closed set is found by its word, only its word finds it. -/
theorem find?_word_eq_some_iff {all : List α} {word : α → List Char}
    (h : ∀ a, all.find? (word · = word a) = some a) {text : List Char} {a : α} :
    all.find? (word · = text) = some a ↔ text = word a := by
  constructor
  · intro hfind
    have hfound := List.find?_some hfind
    exact (of_decide_eq_true hfound).symm
  · rintro rfl
    exact h a

theorem word_injective {all : List α} {word : α → List Char}
    (h : ∀ a, all.find? (word · = word a) = some a) {a b : α} (hab : word a = word b) : a = b := by
  have ha := h a
  rw [hab, h b] at ha
  exact (Option.some.inj ha).symm

theorem intercalate_append_cons (mark : List α) {front : List (List α)} (h : front ≠ [])
    (piece : List α) (rest : List (List α)) :
    mark.intercalate (front ++ piece :: rest) =
      mark.intercalate front ++ mark ++ mark.intercalate (piece :: rest) := by
  induction front with
  | nil => exact absurd rfl h
  | cons first front ih =>
      cases front with
      | nil => rw [List.singleton_append, List.intercalate_cons_cons, List.intercalate_singleton]
      | cons second front =>
          have hrest : second :: front ++ piece :: rest ≠ [] := List.cons_ne_nil _ _
          rw [List.cons_append, List.intercalate_cons_of_ne_nil hrest, ih (List.cons_ne_nil _ _),
            List.intercalate_cons_cons]
          simp only [List.append_assoc]

theorem mem_intercalate {mark : List α} {pieces : List (List α)} {a : α}
    (h : a ∈ mark.intercalate pieces) : a ∈ mark ∨ ∃ piece ∈ pieces, a ∈ piece := by
  induction pieces with
  | nil => cases h
  | cons piece pieces ih =>
      by_cases hne : pieces = []
      · rw [hne, List.intercalate_singleton] at h
        exact .inr ⟨piece, List.mem_cons_self, h⟩
      · rw [List.intercalate_cons_of_ne_nil hne, List.mem_append, List.mem_append] at h
        rcases h with (h | h) | h
        · exact .inr ⟨piece, List.mem_cons_self, h⟩
        · exact .inl h
        · rcases ih h with hmark | ⟨other, hother, ha⟩
          · exact .inl hmark
          · exact .inr ⟨other, List.mem_cons_of_mem _ hother, ha⟩

end Text

end BracketToken
