import PageLayers.Files.Path
import PageLayers.Proofs.Text.Split
import Mathlib.Tactic.SplitIfs

/-! Where joined paths lead. -/

namespace PageLayers.FilePath

variable {dir name : String} {place : List String}

/-- A name that stands for an entry of a directory: it is not empty, no point and no two points, and
has no slash in it. -/
structure IsName (name : String) : Prop where
  nonempty : name ≠ ""
  point : name ≠ "."
  points : name ≠ ".."
  noSlash : '/' ∉ name.toList

theorem step_of_isName (h : IsName name) : step place name = place ++ [name] := by
  simp [step, h.nonempty, h.point, h.points]

/-- Where the parts of a path lead from a place. -/
def walk (place : List String) (cs : List Char) : List String :=
  ((Text.splitAll '/' cs).map String.ofList).foldl step place

theorem walk_nil : walk place [] = place := by
  simp [walk, Text.splitAll, step]

theorem walk_append {cs ds : List Char} :
    walk place (cs ++ '/' :: ds) = walk (walk place cs) ds := by
  simp [walk, Text.splitAll_append]

theorem walk_name (h : IsName name) : walk place name.toList = place ++ [name] := by
  simp [walk, Text.splitAll_of_not_mem h.noSlash, step_of_isName h]

theorem locate?_eq_some {path : String} :
    locate? path = some place ↔ path.toList.head? ≠ some '/' ∧ walk [] path.toList = place := by
  unfold locate?
  split_ifs with hslash
  · simp [hslash]
  · simp [hslash, walk]

/-- An entry of a directory stands right below the place of the directory. -/
theorem locate?_join (hname : IsName name) (hdir : locate? dir = some place) :
    locate? (join dir name) = some (place ++ [name]) := by
  rw [locate?_eq_some] at hdir
  obtain ⟨hhead, rfl⟩ := hdir
  rw [locate?_eq_some]
  unfold join
  split_ifs with hempty hslash
  · obtain rfl := String.isEmpty_iff.1 hempty
    refine ⟨fun hfirst => hname.noSlash (List.mem_of_mem_head? hfirst), ?_⟩
    rw [walk_name hname, String.toList_empty, walk_nil]
  · obtain ⟨cs, hcs⟩ := List.getLast?_eq_some_iff.1 hslash
    have hchars : (dir ++ name).toList = cs ++ '/' :: name.toList := by
      rw [String.toList_append, hcs, List.append_assoc]
      rfl
    rw [hcs] at hhead
    rw [hchars, hcs, walk_append, walk_append, walk_nil, walk_name hname]
    refine ⟨?_, rfl⟩
    cases cs with
    | nil => exact absurd rfl hhead
    | cons c cs => exact hhead
  · have hchars : (dir ++ "/" ++ name).toList = dir.toList ++ '/' :: name.toList := by simp
    rw [hchars, walk_append, walk_name hname]
    refine ⟨?_, rfl⟩
    cases hdir : dir.toList with
    | nil => simp_all
    | cons c cs => rwa [hdir] at hhead

end PageLayers.FilePath
