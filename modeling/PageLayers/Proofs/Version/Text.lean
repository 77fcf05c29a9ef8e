import PageLayers.Version.Basic
import PageLayers.Proofs.Outcome
import PageLayers.Proofs.Text.Digits

/-! A text that reads as a version is the text of that version, so no two texts read as one. -/

namespace PageLayers

namespace Version

variable {part last : VersionPart} {cs rest : List Char} {n m : Nat} {l : List (List Char)}

theorem toDigits_of_digits (h : digits part n cs = .ok (m, rest)) :
    Nat.toDigits 10 n ++ cs = Nat.toDigits 10 m ++ rest := by
  induction cs generalizing n with
  | nil =>
    cases h
    rfl
  | cons c cs ih =>
    unfold digits at h
    split at h
    · cases h
      rfl
    · rename_i hc
      rw [Bool.not_eq_true, Bool.not_eq_false'] at hc
      split at h
      · cases h
      · rename_i hn
        split at h
        · rw [← ih h, Text.toDigits_addDigit hn hc, List.append_assoc]
          rfl
        · cases h

theorem chars_of_number (h : number part cs = .ok (n, rest)) : cs = Nat.toDigits 10 n ++ rest := by
  cases cs with
  | nil => cases h
  | cons c cs =>
    rw [number] at h
    split at h
    · rename_i hc
      rw [← toDigits_of_digits h, Text.toDigits_digitValue hc]
      rfl
    · cases h

theorem chars_of_dot (h : dot part cs = .ok rest) : cs = '.' :: rest := by
  unfold dot at h
  split at h
  · cases h
  · cases h
    rfl
  · cases h

/-- The segments with the dots between them. -/
theorem chars_of_segments {segment : List Char} (h : segments part segment cs = .ok (l, rest)) :
    l ≠ [] ∧ segment.reverse ++ cs = ['.'].intercalate l ++ rest := by
  induction cs generalizing segment l with
  | nil =>
    unfold segments at h
    cases hchecked : checked part segment.reverse with
    | error e =>
      rw [hchecked] at h
      cases h
    | ok u =>
      rw [hchecked] at h
      cases h
      simp
  | cons c cs ih =>
    unfold segments at h
    split at h
    · obtain ⟨hne, hchars⟩ := ih h
      exact ⟨hne, by rw [← hchars]; simp⟩
    · cases hchecked : checked part segment.reverse with
      | error e =>
        rw [hchecked] at h
        cases h
      | ok u =>
        rw [hchecked] at h
        change (if c = '.' then _ else _) = _ at h
        split at h
        · rename_i hdot
          subst hdot
          cases hmore : segments part [] cs with
          | error e =>
            rw [hmore] at h
            cases h
          | ok r =>
            rw [hmore] at h
            cases h
            obtain ⟨hne, hchars⟩ := ih hmore
            obtain ⟨x, more, hr⟩ := List.exists_cons_of_ne_nil hne
            refine ⟨List.cons_ne_nil _ _, ?_⟩
            rw [hr, List.intercalate_cons_cons, ← hr]
            simpa using hchars
        · cases h
          simp

/-- The characters of an optional list of segments. -/
def segmentsChars (mark : Char) (l : List (List Char)) : List Char :=
  if l.isEmpty then [] else mark :: ['.'].intercalate l

theorem toList_segmentsText {s : String} {mark : Char} (hs : s.toList = [mark]) :
    (segmentsText s l).toList = segmentsChars mark l := by
  unfold segmentsText segmentsChars
  split
  · rfl
  · simp [hs, String.toList_intercalate, Function.comp_def]

theorem chars_of_optionalSegments {mark : Char} {last' : VersionPart}
    (h : optionalSegments mark part last cs = .ok (l, last', rest)) :
    cs = segmentsChars mark l ++ rest := by
  unfold optionalSegments at h
  split at h
  · rename_i c cs
    split at h
    · rename_i hmark
      subst hmark
      cases hsegments : segments part [] cs with
      | error e =>
        rw [hsegments] at h
        cases h
      | ok r =>
        rw [hsegments] at h
        cases h
        obtain ⟨hne, hchars⟩ := chars_of_segments hsegments
        simpa [segmentsChars, hne] using hchars
    · cases h
      rfl
  · cases h
    rfl

theorem toList_text (v : Version) : v.text.toList =
    Nat.toDigits 10 v.major ++ '.' :: (Nat.toDigits 10 v.minor ++
      '.' :: (Nat.toDigits 10 v.patch ++
        (segmentsChars '-' v.pre ++ segmentsChars '+' v.build))) := by
  have hpre : (segmentsText "-" v.pre).toList = segmentsChars '-' v.pre :=
    toList_segmentsText rfl
  have hbuild : (segmentsText "+" v.build).toList = segmentsChars '+' v.build :=
    toList_segmentsText rfl
  have hpoint : ".".toList = ['.'] := rfl
  simp [text, hpre, hbuild, hpoint]

theorem text_of_parse {s : String} {v : Version} (h : parse s = .ok v) : v.text = s := by
  unfold parse ofChars at h
  split at h
  · cases h
  · obtain ⟨⟨major, cs₁⟩, hmajor, h⟩ := except_bind_eq_ok.1 h
    obtain ⟨cs₂, hdot₁, h⟩ := except_bind_eq_ok.1 h
    obtain ⟨⟨minor, cs₃⟩, hminor, h⟩ := except_bind_eq_ok.1 h
    obtain ⟨cs₄, hdot₂, h⟩ := except_bind_eq_ok.1 h
    obtain ⟨⟨patch, cs₅⟩, hpatch, h⟩ := except_bind_eq_ok.1 h
    obtain ⟨⟨pre, last, cs₆⟩, hpre, h⟩ := except_bind_eq_ok.1 h
    obtain ⟨⟨build, last, cs₇⟩, hbuild, h⟩ := except_bind_eq_ok.1 h
    dsimp only at *
    split at h
    · cases h
      apply String.toList_inj.1
      rw [toList_text, chars_of_number hmajor, chars_of_dot hdot₁, chars_of_number hminor,
        chars_of_dot hdot₂, chars_of_number hpatch, chars_of_optionalSegments hpre,
        chars_of_optionalSegments hbuild, List.append_nil]
    · cases h

/-- Two texts that read as one version are the same. -/
theorem parse_injective {s t : String} {v : Version} (hs : parse s = .ok v) (ht : parse t = .ok v) :
    s = t := by
  rw [← text_of_parse hs, text_of_parse ht]

end Version

end PageLayers
