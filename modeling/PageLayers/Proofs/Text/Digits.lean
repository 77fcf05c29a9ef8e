import PageLayers.Text.Digits
import Mathlib.Data.List.Induction

/-! The digits of a number and the number that digits make. -/

namespace PageLayers.Text

variable {c : Char} {n : Nat} {digits : List Char}

theorem digitValue_lt (hc : c.isDigit) : digitValue c < 10 := by
  have hbound : c.toNat ≤ 57 := by
    simp only [Char.isDigit, Bool.and_eq_true, decide_eq_true_eq, UInt32.le_iff_toNat_le] at hc
    exact hc.2
  unfold digitValue
  omega

theorem digitChar_digitValue (hc : c.isDigit) : Nat.digitChar (digitValue c) = c := by
  have hbound : 48 ≤ c.toNat := by
    simp only [Char.isDigit, Bool.and_eq_true, decide_eq_true_eq, UInt32.le_iff_toNat_le] at hc
    exact hc.1
  apply Char.toNat_inj.1
  rw [Nat.toNat_digitChar_of_lt_ten (digitValue_lt hc)]
  unfold digitValue
  omega

theorem isDigit_of_mem_toDigits (h : c ∈ Nat.toDigits 10 n) : c.isDigit = true :=
  Nat.isDigit_of_mem_toDigits (by decide) (by decide) h

theorem toDigits_ne_minus (n : Nat) (cs : List Char) : Nat.toDigits 10 n ≠ '-' :: cs := by
  intro h
  cases isDigit_of_mem_toDigits (h ▸ List.mem_cons_self)

theorem toDigits_digitValue (hc : c.isDigit) : Nat.toDigits 10 (digitValue c) = [c] := by
  rw [Nat.toDigits_of_lt_base (digitValue_lt hc), digitChar_digitValue hc]

/-- A digit that is taken in stands at the end of the number. -/
theorem toDigits_addDigit (hn : n ≠ 0) (hc : c.isDigit) :
    Nat.toDigits 10 (addDigit n c) = Nat.toDigits 10 n ++ [c] := by
  have hlt := digitValue_lt hc
  have hquotient : addDigit n c / 10 = n := by
    unfold addDigit
    omega
  have hremainder : addDigit n c % 10 = digitValue c := by
    unfold addDigit
    omega
  have hle : 10 ≤ addDigit n c := by
    unfold addDigit
    omega
  rw [Nat.toDigits_of_base_le (by omega) hle, hquotient, hremainder, digitChar_digitValue hc]

theorem addDigit_zero (c : Char) : addDigit 0 c = digitValue c := by simp [addDigit]

theorem addDigit_eq (n : Nat) (c : Char) : addDigit n c = 10 * n + (c.toNat - '0'.toNat) := by
  rw [addDigit, Nat.mul_comm]
  rfl

theorem number_eq_ofDigitChars (digits : List Char) :
    number digits = Nat.ofDigitChars 10 digits 0 := by
  unfold number Nat.ofDigitChars
  congr
  funext n c
  exact addDigit_eq n c

theorem number_append_digit (digits : List Char) (c : Char) :
    number (digits ++ [c]) = addDigit (number digits) c := by
  rw [number, List.foldl_append]
  rfl

theorem number_toDigits (n : Nat) : number (Nat.toDigits 10 n) = n := by
  rw [number_eq_ofDigitChars, Nat.ofDigitChars_ten_toDigits]

theorem toDigits_inj {m : Nat} (h : Nat.toDigits 10 n = Nat.toDigits 10 m) : n = m := by
  rw [← number_toDigits n, h, number_toDigits]

theorem number_zeros (zeros : Nat) : number (List.replicate zeros '0') = 0 := by
  induction zeros with
  | zero => rfl
  | succ zeros ih =>
    rw [List.replicate_succ', number_append_digit, ih]
    rfl

theorem number_zeros_append (zeros : Nat) (digits : List Char) :
    number (List.replicate zeros '0' ++ digits) = number digits := by
  have hzeros : (List.replicate zeros '0').foldl addDigit 0 = 0 := number_zeros zeros
  rw [number, List.foldl_append, hzeros]
  rfl

/-- Digits are those of their number, with zeros before them. -/
theorem exists_zeros_append (hdigits : ∀ c ∈ digits, c.isDigit) (hne : digits ≠ []) :
    ∃ zeros, digits = List.replicate zeros '0' ++ Nat.toDigits 10 (number digits) := by
  induction digits using List.reverseRecOn with
  | nil => exact absurd rfl hne
  | append_singleton digits c ih =>
    rw [List.forall_mem_append, List.forall_mem_singleton] at hdigits
    obtain ⟨hdigits, hc⟩ := hdigits
    rw [number_append_digit]
    by_cases hempty : digits = []
    · subst hempty
      refine ⟨0, ?_⟩
      rw [number, List.foldl_nil, addDigit_zero, toDigits_digitValue hc]
      rfl
    · obtain ⟨zeros, heq⟩ := ih hdigits hempty
      by_cases hzero : number digits = 0
      · -- so far all of them are zeros, and `c` is the first digit that counts
        refine ⟨zeros + 1, ?_⟩
        rw [hzero] at heq ⊢
        rw [addDigit_zero, toDigits_digitValue hc, heq, List.replicate_succ']
        rfl
      · refine ⟨zeros, ?_⟩
        rw [toDigits_addDigit hzero hc, ← List.append_assoc, ← heq]

end PageLayers.Text
