import PageLayers.Proofs.Lists
import PageLayers.Version.Basic

/-! The order of versions is a total one, and versions that come neither before nor after each other
are the same. -/

namespace PageLayers.Version

variable {cmp : List Char → List Char → Ordering}

theorem compareSegments_eq_compareLex : compareSegments cmp = List.compareLex cmp := by
  funext a b
  induction a generalizing b with
  | nil => cases b <;> rfl
  | cons x a ih =>
    cases b with
    | nil => rfl
    | cons y b => rw [compareSegments, ih, List.compareLex_cons_cons]

instance [Std.TransCmp cmp] : Std.TransCmp (compareSegments cmp) := by
  rw [compareSegments_eq_compareLex]
  infer_instance

instance [Std.LawfulEqCmp cmp] : Std.LawfulEqCmp (compareSegments cmp) := by
  rw [compareSegments_eq_compareLex]
  infer_instance

instance [Std.TransCmp cmp] : Std.TransCmp (compareSegment cmp) where
  eq_swap {a b} := by
    unfold compareSegment
    cases isNumeric a <;> cases isNumeric b
    · exact Std.OrientedOrd.eq_swap
    · rfl
    · rfl
    · exact @Std.OrientedCmp.eq_swap _ cmp _ a b
  isLE_trans {a b c} hab hbc := by
    cases ha : isNumeric a <;> cases hb : isNumeric b <;> cases hc : isNumeric c <;>
      simp only [compareSegment, ha, hb, hc] at *
    all_goals first
      | exact Std.TransOrd.isLE_trans hab hbc
      | exact Std.TransCmp.isLE_trans hab hbc
      | contradiction
      | rfl

instance [Std.LawfulEqCmp cmp] : Std.LawfulEqCmp (compareSegment cmp) where
  compare_self {a} := by
    unfold compareSegment
    cases isNumeric a
    · exact Std.ReflOrd.compare_self
    · exact @Std.ReflCmp.compare_self _ cmp _ a
  eq_of_compare {a b} h := by
    cases ha : isNumeric a <;> cases hb : isNumeric b <;> simp only [compareSegment, ha, hb] at h
    · exact Std.LawfulEqOrd.eq_of_compare h
    · cases h
    · cases h
    · exact Std.LawfulEqCmp.eq_of_compare h

instance : Std.TransCmp compareSize :=
  inferInstanceAs (Std.TransCmp (compareLex (compareOn List.length) compare))

instance : Std.LawfulEqCmp compareSize where
  eq_of_compare h := Std.LawfulEqOrd.eq_of_compare (Ordering.then_eq_eq.1 h).2

/-- The order by a part of what is compared. -/
theorem transCmp_on {α β : Type} {f : β → β → Ordering} [Std.TransCmp f] (part : α → β) :
    Std.TransCmp fun a b => f (part a) (part b) where
  eq_swap {a b} := @Std.OrientedCmp.eq_swap _ f _ (part a) (part b)
  isLE_trans {a b c} := @Std.TransCmp.isLE_trans _ f _ (part a) (part b) (part c)

instance : Std.TransCmp comparePadded :=
  have : Std.TransCmp fun a b : List Char =>
      compareSize (a.dropWhile (· = '0')) (b.dropWhile (· = '0')) := transCmp_on _
  inferInstanceAs (Std.TransCmp (compareLex
    (fun a b => compareSize (a.dropWhile (· = '0')) (b.dropWhile (· = '0')))
    (compareOn List.length)))

instance : Std.LawfulEqCmp comparePadded where
  eq_of_compare h := by
    obtain ⟨hrest, hlength⟩ := Ordering.then_eq_eq.1 h
    exact eq_of_dropWhile_eq (Std.LawfulEqCmp.eq_of_compare hrest)
      (Std.LawfulEqOrd.eq_of_compare hlength)

theorem comparePre_eq_compareLex :
    comparePre =
      compareLex (compareOn List.isEmpty) (compareSegments (compareSegment compareSize)) := by
  funext a b
  cases a <;> cases b <;> rfl

instance : Std.TransCmp comparePre := by
  rw [comparePre_eq_compareLex]
  infer_instance

instance : Std.LawfulEqCmp comparePre := by
  rw [comparePre_eq_compareLex]
  exact ⟨fun h => Std.LawfulEqCmp.eq_of_compare (Ordering.then_eq_eq.1 h).2⟩

theorem compare_eq_compareLex : (compare : Version → Version → Ordering) =
    compareLex (compareOn major) (compareLex (compareOn minor) (compareLex (compareOn patch)
      (compareLex (fun a b => comparePre a.pre b.pre)
        (fun a b => compareSegments (compareSegment comparePadded) a.build b.build)))) :=
  rfl

instance : Std.TransCmp fun a b : Version => comparePre a.pre b.pre := transCmp_on pre

instance : Std.TransCmp fun a b : Version =>
    compareSegments (compareSegment comparePadded) a.build b.build := transCmp_on build

instance : Std.TransOrd Version := by
  unfold Std.TransOrd
  rw [compare_eq_compareLex]
  infer_instance

instance : Std.LawfulEqOrd Version where
  eq_of_compare {a b} h := by
    simp only [compare_eq_compareLex, compareLex_eq_eq, compareOn] at h
    obtain ⟨hmajor, hminor, hpatch, hpre, hbuild⟩ := h
    obtain ⟨major, minor, patch, pre, build⟩ := a
    obtain rfl := Std.LawfulEqOrd.eq_of_compare hmajor
    obtain rfl := Std.LawfulEqOrd.eq_of_compare hminor
    obtain rfl := Std.LawfulEqOrd.eq_of_compare hpatch
    obtain rfl := Std.LawfulEqCmp.eq_of_compare hpre
    obtain rfl := Std.LawfulEqCmp.eq_of_compare hbuild
    rfl

end PageLayers.Version
