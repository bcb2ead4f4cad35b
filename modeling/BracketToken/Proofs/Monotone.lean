import BracketToken.Proofs.Chronology
import BracketToken.Proofs.Evaluation
import BracketToken.Proofs.Text

/-!
Relative tokens as functions of today.

Resolving is a chain of partial steps, and each of them keeps order and is defined everywhere
between two dates on which it is defined. Main statement: `resolve_monotone`, so is the chain.
-/

namespace BracketToken

variable {ε α β γ : Type} [Preorder α] [Preorder β] [Preorder γ]

/-- Succeeds between any two places where it succeeds, with a result between their results. -/
def Gapless (f : α → Except ε β) : Prop :=
  ∀ ⦃a b c : α⦄, a ≤ b → b ≤ c → ∀ ⦃x z : β⦄, f a = .ok x → f c = .ok z →
    ∃ y, f b = .ok y ∧ x ≤ y ∧ y ≤ z

namespace Gapless

theorem bind {f : α → Except ε β} {g : β → Except ε γ} (hf : Gapless f) (hg : Gapless g) :
    Gapless fun a => (f a).bind g := by
  intro a b c hab hbc u w hu hw
  obtain ⟨x, hx, hu⟩ := bind_eq_ok_iff.1 hu
  obtain ⟨z, hz, hw⟩ := bind_eq_ok_iff.1 hw
  obtain ⟨y, hy, hxy, hyz⟩ := hf hab hbc hx hz
  obtain ⟨v, hv, huv, hvw⟩ := hg hxy hyz hu hw
  refine ⟨v, ?_, huv, hvw⟩
  dsimp only
  rw [hy]
  exact hv

theorem of_monotone {f : α → β} (hf : Monotone f) :
    Gapless fun a => (.ok (f a) : Except ε β) := by
  intro a b c hab hbc x z hx hz
  cases hx
  cases hz
  exact ⟨f b, rfl, hf hab, hf hbc⟩

end Gapless

namespace DateToken

open Calendar

/-- Going through the calendar without limits and asking then whether the calendar has the day. -/
theorem gapless_of_move {move : Day → Day} (hmove : Monotone move) {f : Date → Except Error Date}
    (hf : ∀ d e, f d = .ok e ↔ (move d.toDay).toDate? = some e) : Gapless f := by
  intro a b c hab hbc x z hx hz
  rw [hf, Day.toDate?_eq_some_iff] at hx hz
  have hxb := hmove (Date.le_iff_toDay_le.1 hab)
  have hbz := hmove (Date.le_iff_toDay_le.1 hbc)
  rw [← hx] at hxb
  rw [← hz] at hbz
  obtain ⟨y, hy⟩ := Date.exists_toDate?_between hxb hbz
  rw [← Day.toDate?_eq_some_iff.1 hy] at hxb hbz
  exact ⟨y, (hf b y).2 hy, Date.le_iff_toDay_le.2 hxb, Date.le_iff_toDay_le.2 hbz⟩

theorem Adjustment.monotone_move (a : Adjustment) : Monotone a.move := by
  obtain ⟨amount, unit⟩ := a
  cases unit with
  | year => exact Day.monotone_plusYears amount.toInt
  | month => exact Day.monotone_plusMonths amount.toInt
  | day => exact Day.monotone_plusDays amount.toInt

def Adjustment.date (a : Adjustment) (d : Date) : Except Error Date :=
  match a.apply? d with
  | none => .error (.outOfRange (.adjustment a d))
  | some next => .ok next

theorem adjust_cons_outcome (d : Date) (a : Adjustment) (rest : List Adjustment) :
    (adjust d (a :: rest)).outcome = (a.date d).bind fun next => (adjust next rest).outcome := by
  rw [adjust, Adjustment.date]
  cases a.apply? d with
  | none => rfl
  | some next => simp only [Traced.outcome_bind, Traced.outcome_log, Except.bind]

theorem gapless_anchor (anchor : Anchor) : Gapless anchor.date := by
  refine gapless_of_move (Day.monotone_plusDays anchor.offset) ?_
  intro d e
  rw [Anchor.date_eq]
  cases (d.toDay.plusDays anchor.offset).toDate? <;> simp

theorem gapless_adjustment (a : Adjustment) : Gapless a.date := by
  refine gapless_of_move a.monotone_move ?_
  intro d e
  rw [Adjustment.date, Adjustment.apply?_eq]
  cases (a.move d.toDay).toDate? <;> simp

theorem gapless_adjust (adjustments : List Adjustment) :
    Gapless fun d => (adjust d adjustments).outcome := by
  induction adjustments with
  | nil => exact Gapless.of_monotone monotone_id
  | cons a rest ih =>
      simp only [adjust_cons_outcome]
      exact (gapless_adjustment a).bind ih

theorem gapless_printable : Gapless printable := by
  intro a b c hab hbc x z hx hz
  rw [printable_eq] at hx hz ⊢
  split at hx
  · next ha =>
      split at hz
      · next hc =>
          cases hx
          cases hz
          have hlow := Date.year_le_of_le hab
          have hhigh := Date.year_le_of_le hbc
          rw [if_pos ⟨by omega, by omega⟩]
          exact ⟨b, rfl, hab, hbc⟩
      · cases hz
  · cases hx

theorem resolve_monotone (anchor : Anchor) (adjustments : List Adjustment) {d₁ d d₂ : Date}
    (h₁ : d₁ ≤ d) (h₂ : d ≤ d₂) {i₁ i₂ : Instant}
    (hi₁ : (resolve (.relative anchor adjustments) d₁).outcome = .ok i₁)
    (hi₂ : (resolve (.relative anchor adjustments) d₂).outcome = .ok i₂) :
    ∃ i, (resolve (.relative anchor adjustments) d).outcome = .ok i ∧ i₁ ≤ i ∧ i ≤ i₂ := by
  have hsteps : Gapless fun today => (resolve (.relative anchor adjustments) today).outcome := by
    simp only [resolve_relative_outcome]
    exact (((gapless_anchor anchor).bind (gapless_adjust adjustments)).bind gapless_printable).bind
      (Gapless.of_monotone Date.monotone_midnight)
  exact hsteps h₁ h₂ hi₁ hi₂

/-- The last two days of January 2024, seen from the day after, are clamped to the same day. -/
theorem resolve_monotone_clamped :
    let today₁ : Date := ⟨2024, 1, 31, by decide, by decide, by decide⟩
    let today : Date := ⟨2024, 2, 1, by decide, by decide, by decide⟩
    let today₂ : Date := ⟨2024, 2, 2, by decide, by decide, by decide⟩
    let end₁ : Date := ⟨2023, 2, 28, by decide, by decide, by decide⟩
    let end₂ : Date := ⟨2023, 3, 1, by decide, by decide, by decide⟩
    let tree := relative .yesterday [⟨1, .month⟩, ⟨-1, .year⟩]
    ((today₁ ≤ today ∧ today ≤ today₂) ∧ (resolve tree today₁).outcome = .ok end₁.midnight ∧
        (resolve tree today₂).outcome = .ok end₂.midnight) ∧
      ∃ i, (resolve tree today).outcome = .ok i ∧ end₁.midnight ≤ i ∧ i ≤ end₂.midnight := by
  intro today₁ today today₂ end₁ end₂ tree
  have h₁ : today₁ ≤ today := by decide
  have h₂ : today ≤ today₂ := by decide
  have hend₁ : (resolve tree today₁).outcome = .ok end₁.midnight := by decide +kernel
  have hend₂ : (resolve tree today₂).outcome = .ok end₂.midnight := by decide +kernel
  exact ⟨⟨⟨h₁, h₂⟩, hend₁, hend₂⟩, resolve_monotone _ _ h₁ h₂ hend₁ hend₂⟩

end DateToken

end BracketToken
