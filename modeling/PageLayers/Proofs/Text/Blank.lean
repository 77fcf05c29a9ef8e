import PageLayers.Text.Alphabetic
import PageLayers.Text.Blank
import PageLayers.Text.Numeric

/-! White space, digits, letters and the symbols of ASCII are classes apart. -/

namespace PageLayers.Text

variable {c : Char}

/-- No character is in ranges that do not overlap. -/
theorem inRanges_eq_false_of_apart {ranges ranges' : List (Nat × Nat)}
    (h : ∀ r ∈ ranges, ∀ r' ∈ ranges', r.2 < r'.1 ∨ r'.2 < r.1) (hc : inRanges ranges c = true) :
    inRanges ranges' c = false := by
  simp only [inRanges, List.any_eq_true, Bool.and_eq_true, decide_eq_true_eq] at hc
  obtain ⟨r, hr, hfrom, hto⟩ := hc
  refine List.any_eq_false.2 fun r' hr' hin => ?_
  simp only [Bool.and_eq_true, decide_eq_true_eq] at hin
  have hapart := h r hr r' hr'
  omega

theorem inRanges_digits (h : c.isDigit = true) : inRanges [(0x30, 0x39)] c = true := by
  simp only [Char.isDigit, Bool.and_eq_true, decide_eq_true_eq, UInt32.le_iff_toNat_le] at h
  simpa [inRanges] using h

theorem isBlank_eq_false_of_isDigit (h : c.isDigit = true) : isBlank c = false :=
  inRanges_eq_false_of_apart (by decide) (inRanges_digits h)

theorem isBlank_eq_false_of_isAlphabetic (h : isAlphabetic c = true) : isBlank c = false :=
  inRanges_eq_false_of_apart (by decide +kernel) h

theorem isBlank_eq_false_of_isNumeric (h : isNumeric c = true) : isBlank c = false :=
  inRanges_eq_false_of_apart (by decide +kernel) h

theorem isAlphabetic_eq_false_of_isDigit (h : c.isDigit = true) : isAlphabetic c = false :=
  inRanges_eq_false_of_apart (by decide +kernel) (inRanges_digits h)

/-- The characters of ASCII that can be seen and are neither letters nor digits. -/
def symbolRanges : List (Nat × Nat) := [(0x21, 0x2F), (0x3A, 0x40), (0x5B, 0x60), (0x7B, 0x7E)]

theorem isAlphabetic_eq_false_of_symbol (h : inRanges symbolRanges c = true) :
    isAlphabetic c = false :=
  inRanges_eq_false_of_apart (by decide +kernel) h

end PageLayers.Text
