import Mathlib.Tactic.SplitIfs
import PageLayers.Text.Split

/-! The pieces of texts that are put together with separators. -/

namespace PageLayers.Text

variable {sep : Char} {cs ds : List Char} {pieces : List (List Char)}

theorem splitAll_eq_splitOn (sep : Char) (cs : List Char) : splitAll sep cs = cs.splitOn sep := by
  induction cs with
  | nil => rfl
  | cons c rest ih =>
    have hcons : (c :: rest).splitOn sep = if c = sep then [] :: rest.splitOn sep
        else (rest.splitOn sep).modifyHead (List.cons c) := by
      simp [List.splitOn, List.splitOnP_cons_eq_if_modifyHead]
    rw [splitAll, ih, hcons]
    split_ifs with hc
    · rfl
    · obtain ⟨piece, more, hrest⟩ := List.exists_cons_of_ne_nil (List.splitOn_ne_nil sep rest)
      rw [hrest]
      rfl

theorem splitAll_of_not_mem (h : sep ∉ cs) : splitAll sep cs = [cs] := by
  rw [splitAll_eq_splitOn, List.splitOn_eq_singleton h]

/-- A separator ends the piece before it. -/
theorem splitAll_append : splitAll sep (cs ++ sep :: ds) = splitAll sep cs ++ splitAll sep ds := by
  simp only [splitAll_eq_splitOn]
  exact List.splitOnP_append_cons cs ds (beq_self_eq_true sep)

/-- Pieces without the separator are cut apart again. -/
theorem splitAll_intercalate (hpieces : ∀ piece ∈ pieces, sep ∉ piece) (hne : pieces ≠ []) :
    splitAll sep ([sep].intercalate pieces) = pieces := by
  rw [splitAll_eq_splitOn, List.splitOn_intercalate sep hpieces hne]

/-- The pieces, put together again. -/
theorem intercalate_splitAll (sep : Char) (cs : List Char) :
    [sep].intercalate (splitAll sep cs) = cs := by
  rw [splitAll_eq_splitOn, List.intercalate_splitOn]

theorem not_mem_of_mem_splitAll {piece : List Char} (h : piece ∈ splitAll sep cs) :
    sep ∉ piece := by
  induction cs generalizing piece with
  | nil =>
    obtain rfl := List.mem_singleton.1 h
    exact List.not_mem_nil
  | cons c rest ih =>
    rw [splitAll] at h
    cases hrest : splitAll sep rest with
    | nil =>
      rw [splitAll_eq_splitOn] at hrest
      exact absurd hrest (List.splitOn_ne_nil sep rest)
    | cons first more =>
      simp only [hrest] at h ih
      split_ifs at h with hc
      · rcases List.mem_cons.1 h with rfl | h
        · exact List.not_mem_nil
        · exact ih h
      · rcases List.mem_cons.1 h with rfl | h
        · rw [List.mem_cons, not_or]
          exact ⟨Ne.symm hc, ih List.mem_cons_self⟩
        · exact ih (List.mem_cons_of_mem first h)

end PageLayers.Text
