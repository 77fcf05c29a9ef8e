import Mathlib.Tactic.IntervalCases
import PageLayers.Json.Reader
import PageLayers.Json.Text

/-! A quoted string reads as that string, so no two strings are quoted alike. -/

namespace PageLayers.Json

variable {s t : String} {c : Char} {cs rest rest' : List Char}

/-- The units that control characters are written as. -/
theorem hexUnit?_control {n : Nat} (h : n < 32) :
    hexUnit? '0' '0' (hexDigit (n / 16)) (hexDigit n) = some n := by
  interval_cases n <;> rfl

theorem stringBody?_escaped : stringBody? (escaped c ++ rest) =
    (stringBody? rest).map fun r => (c :: r.1, r.2) := by
  unfold escaped
  split_ifs with hquote hbackslash hnewline hreturn htab hback hform hcontrol
  · subst hquote
    simp [stringBody?, escape?]
  · subst hbackslash
    simp [stringBody?, escape?]
  · subst hnewline
    simp [stringBody?, escape?]
  · subst hreturn
    simp [stringBody?, escape?]
  · subst htab
    simp [stringBody?, escape?]
  · subst hback
    simp [stringBody?, escape?]
  · subst hform
    simp [stringBody?, escape?]
  · have hunit : unitChar? c.toNat = some c := by
      unfold unitChar?
      rw [if_neg (by omega), Char.ofNat_toNat]
    simp [stringBody?, hexUnit?_control hcontrol, hunit]
  · rw [List.singleton_append, stringBody?.eq_def]
    split <;> simp_all

/-- The text between the quotes, up to the closing one, reads as the string. -/
theorem stringBody?_quoted :
    stringBody? (cs.flatMap escaped ++ '"' :: rest) = some (cs, rest) := by
  induction cs with
  | nil => simp [stringBody?]
  | cons c cs ih =>
    rw [List.flatMap_cons, List.append_assoc, stringBody?_escaped, ih]
    rfl

theorem quoted_append : quoted s ++ rest = '"' :: (s.toList.flatMap escaped ++ '"' :: rest) := by
  simp [quoted]

/-- A quoted string ends where it is read to end. -/
theorem quoted_append_inj (h : quoted s ++ rest = quoted t ++ rest') : s = t ∧ rest = rest' := by
  rw [quoted_append, quoted_append, List.cons.injEq] at h
  have hread := congrArg stringBody? h.2
  rw [stringBody?_quoted, stringBody?_quoted, Option.some.injEq, Prod.mk.injEq] at hread
  exact ⟨String.toList_injective hread.1, hread.2⟩

end PageLayers.Json
