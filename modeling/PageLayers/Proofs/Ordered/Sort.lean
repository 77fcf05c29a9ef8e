import PageLayers.Ordered.Sort

/-! A sorted list has the items it had before, in the order of their keys. -/

namespace PageLayers

variable {α β κ : Type} [Ord κ] {key : α → κ} {a b : α} {l l' : List α}

theorem perm_insertBy : (insertBy key a l).Perm (a :: l) := by
  induction l with
  | nil => exact List.Perm.refl _
  | cons b rest ih =>
    unfold insertBy
    split
    · exact (ih.cons b).trans (List.Perm.swap a b rest)
    · exact List.Perm.refl _

theorem perm_sortBy : (sortBy key l).Perm l := by
  induction l with
  | nil => exact List.Perm.refl _
  | cons a rest ih => exact perm_insertBy.trans (ih.cons a)

theorem mem_sortBy : b ∈ sortBy key l ↔ b ∈ l := perm_sortBy.mem_iff

/-- Keys that are read from the images of the items sort these in the same way. -/
theorem map_sortBy {f : α → β} {key : β → κ} :
    (sortBy (fun a => key (f a)) l).map f = sortBy key (l.map f) := by
  have hinsert {a : α} {l : List α} :
      (insertBy (fun a => key (f a)) a l).map f = insertBy key (f a) (l.map f) := by
    induction l with
    | nil => rfl
    | cons b rest ih =>
      rw [List.map_cons]
      unfold insertBy
      cases compare (key (f a)) (key (f b)) <;> simp [ih]
  induction l with
  | nil => rfl
  | cons a rest ih =>
    rw [sortBy, hinsert, ih]
    rfl

variable [Std.TransOrd κ]

theorem pairwise_insertBy (h : l.Pairwise fun a b => (compare (key a) (key b)).isLE) :
    (insertBy key a l).Pairwise fun a b => (compare (key a) (key b)).isLE := by
  induction l with
  | nil => exact List.pairwise_singleton _ _
  | cons c rest ih =>
    obtain ⟨hc, hrest⟩ := List.pairwise_cons.1 h
    unfold insertBy
    split
    · rename_i hgt
      refine List.pairwise_cons.2 ⟨fun b hb => ?_, ih hrest⟩
      rcases List.mem_cons.1 (perm_insertBy.mem_iff.1 hb) with rfl | hb
      · rw [Std.OrientedCmp.lt_of_gt hgt]
        rfl
      · exact hc b hb
    · rename_i hle
      have hac : (compare (key a) (key c)).isLE := by
        cases hcompare : compare (key a) (key c) with
        | gt => exact absurd hcompare hle
        | lt => rfl
        | eq => rfl
      refine List.pairwise_cons.2 ⟨fun b hb => ?_, h⟩
      rcases List.mem_cons.1 hb with rfl | hb
      · exact hac
      · exact Std.TransCmp.isLE_trans hac (hc b hb)

theorem pairwise_sortBy : (sortBy key l).Pairwise fun a b => (compare (key a) (key b)).isLE := by
  induction l with
  | nil => exact List.Pairwise.nil
  | cons a rest ih => exact pairwise_insertBy ih

/-- Where the keys tell the items of a list apart, it is sorted into one list whatever its order. -/
theorem sortBy_eq_of_perm [Std.LawfulEqOrd κ] (h : l.Perm l')
    (hkey : ∀ a ∈ l, ∀ b ∈ l, key a = key b → a = b) : sortBy key l = sortBy key l' := by
  have hperm : (sortBy key l).Perm (sortBy key l') := perm_sortBy.trans (h.trans perm_sortBy.symm)
  refine hperm.eq_of_pairwise ?_ pairwise_sortBy pairwise_sortBy
  intro a b ha hb hab hba
  have hsame : compare (key a) (key b) = .eq := Std.OrientedCmp.isLE_antisymm hab hba
  exact hkey a (mem_sortBy.1 ha) b (h.mem_iff.2 (mem_sortBy.1 hb))
    (Std.LawfulEqOrd.eq_of_compare hsame)

/-- Sorted lists of the same items show the same keys, in whatever order items of one key stand. -/
theorem map_sortBy_of_perm [Std.LawfulEqOrd κ] (h : l.Perm l') :
    (sortBy key l).map key = (sortBy key l').map key := by
  have hkeys (l : List α) : (sortBy key l).map key = sortBy id (l.map key) :=
    @map_sortBy α κ κ _ l key id
  calc
    (sortBy key l).map key = sortBy id (l.map key) := hkeys l
    _ = sortBy id (l'.map key) := sortBy_eq_of_perm (h.map key) fun _ _ _ _ hsame => hsame
    _ = (sortBy key l').map key := (hkeys l').symm

/-- The list in the order of a key; items of equal keys keep the order that they had. -/
structure StablySorted {α κ : Type} [Ord κ] [DecidableEq κ] (key : α → κ) (l sorted : List α) :
    Prop where
  perm : sorted.Perm l
  ordered : sorted.Pairwise fun a b => (compare (key a) (key b)).isLE
  stable : ∀ k, (sorted.filter fun a => key a = k) = l.filter fun a => key a = k

section Sorted

variable {α κ : Type} [Ord κ] [DecidableEq κ] [Std.TransOrd κ] {key : α → κ} {a : α} {l : List α}

theorem filter_insertBy {k : κ} : ((insertBy key a l).filter fun b => key b = k) =
    (a :: l).filter fun b => key b = k := by
  induction l with
  | nil => rfl
  | cons b rest ih =>
    unfold insertBy
    split
    · rename_i hgt
      -- an item is only put after items of other keys
      have hkeys : ¬(key a = k ∧ key b = k) := by
        rintro ⟨ha, hb⟩
        rw [ha, hb, Std.ReflOrd.compare_self] at hgt
        cases hgt
      simp only [List.filter_cons, ih, decide_eq_true_eq]
      split <;> split <;> simp_all
    · rfl

theorem stablySorted_sortBy : StablySorted key l (sortBy key l) := by
  refine ⟨perm_sortBy, pairwise_sortBy, fun k => ?_⟩
  induction l with
  | nil => rfl
  | cons a rest ih => rw [sortBy, filter_insertBy, List.filter_cons, List.filter_cons, ih]

end Sorted

end PageLayers
