import BracketToken.Proofs.Text

/-!
Upper and lower case of ASCII letters, by their code points.

A letter lies 32 away from the same letter in the other case, and no other character has a case.
Main statement: `map_toLower_eq_iff`, a text has the letters of a word of capitals exactly where the
text in upper case is the word.
-/

namespace BracketToken.Text

theorem toNat_toLower (c : Char) :
    c.toLower.toNat = if 65 ≤ c.toNat ∧ c.toNat ≤ 90 then c.toNat + 32 else c.toNat := by
  split
  · next h =>
      have hcapital : 'A'.val ≤ c.val ∧ c.val ≤ 'Z'.val :=
        ⟨UInt32.le_iff_toNat_le.2 h.1, UInt32.le_iff_toNat_le.2 h.2⟩
      have hmoved : c.toLower = _ := dif_pos hcapital
      have hval : c.toLower.val = c.val + ('a'.val - 'A'.val) := by rw [hmoved]
      have hstep : ('a'.val - 'A'.val).toNat = 32 := by decide
      have hcode : c.val.toNat ≤ 90 := h.2
      change c.toLower.val.toNat = c.val.toNat + 32
      rw [hval, UInt32.toNat_add, hstep]
      omega
  · next h =>
      refine congrArg Char.toNat (dif_neg fun hcapital => h ?_)
      exact ⟨UInt32.le_iff_toNat_le.1 hcapital.1, UInt32.le_iff_toNat_le.1 hcapital.2⟩

theorem toNat_toUpper (c : Char) :
    c.toUpper.toNat = if 97 ≤ c.toNat ∧ c.toNat ≤ 122 then c.toNat - 32 else c.toNat := by
  split
  · next h =>
      have hsmall : 'a'.val ≤ c.val ∧ c.val ≤ 'z'.val :=
        ⟨UInt32.le_iff_toNat_le.2 h.1, UInt32.le_iff_toNat_le.2 h.2⟩
      have hmoved : c.toUpper = _ := dif_pos hsmall
      have hval : c.toUpper.val = c.val + ('A'.val - 'a'.val) := by rw [hmoved]
      -- The step back wraps around the word.
      have hstep : ('A'.val - 'a'.val).toNat = 4294967264 := by decide
      have hcode : 97 ≤ c.val.toNat ∧ c.val.toNat ≤ 122 := h
      change c.toUpper.val.toNat = c.val.toNat - 32
      rw [hval, UInt32.toNat_add, hstep]
      omega
  · next h =>
      refine congrArg Char.toNat (dif_neg fun hsmall => h ?_)
      exact ⟨UInt32.le_iff_toNat_le.1 hsmall.1, UInt32.le_iff_toNat_le.1 hsmall.2⟩

theorem isUpper_iff {c : Char} : c.isUpper = true ↔ 65 ≤ c.toNat ∧ c.toNat ≤ 90 :=
  decide_eq_true_iff.trans (and_congr UInt32.le_iff_toNat_le UInt32.le_iff_toNat_le)

theorem isLower_iff {c : Char} : c.isLower = true ↔ 97 ≤ c.toNat ∧ c.toNat ≤ 122 := by
  refine (Bool.and_eq_true _ _).to_iff.trans (and_congr ?_ ?_)
  · exact decide_eq_true_iff.trans UInt32.le_iff_toNat_le
  · exact decide_eq_true_iff.trans UInt32.le_iff_toNat_le

theorem isAlpha_iff {c : Char} : c.isAlpha = true ↔
    (65 ≤ c.toNat ∧ c.toNat ≤ 90) ∨ (97 ≤ c.toNat ∧ c.toNat ≤ 122) :=
  (Bool.or_eq_true _ _).to_iff.trans (or_congr isUpper_iff isLower_iff)

theorem toUpper_eq_iff {c capital : Char} (h : capital.isUpper = true) :
    c.toUpper = capital ↔ c.toLower = capital.toLower := by
  have hcapital := isUpper_iff.1 h
  rw [← Char.toNat_inj, ← Char.toNat_inj, toNat_toUpper, toNat_toLower, toNat_toLower,
    if_pos hcapital]
  split <;> split <;> omega

theorem isAlpha_of_toUpper {c : Char} (h : c.toUpper.isUpper = true) : c.isAlpha = true := by
  rw [isUpper_iff, toNat_toUpper] at h
  rw [isAlpha_iff]
  split at h <;> omega

theorem map_toLower_eq_iff {text word : List Char} (h : ∀ c ∈ word, c.isUpper = true) :
    text.map Char.toLower = word.map Char.toLower ↔ text.map Char.toUpper = word := by
  induction text generalizing word with
  | nil => cases word <;> simp
  | cons c text ih =>
      cases word with
      | nil => simp
      | cons capital word =>
          rw [List.forall_mem_cons] at h
          simp only [List.map_cons, List.cons.injEq, ih h.2, toUpper_eq_iff h.1]

end BracketToken.Text
