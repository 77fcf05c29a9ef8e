import PageLayers.Ordered.Set

/-! An ordered set that is made from a list: its members, and the list itself where it is in
order. -/

namespace PageLayers.OrderedSet

variable {κ : Type} [Ord κ] {k a : κ} {l : List κ}

theorem ext_members {s t : OrderedSet κ} (h : s.members = t.members) : s = t := by
  cases s
  cases t
  cases h
  rfl

theorem nodup_members [Std.ReflOrd κ] {s : OrderedSet κ} : s.members.Nodup := by
  refine s.ascending.imp ?_
  rintro a b hlt rfl
  rw [Std.ReflOrd.compare_self] at hlt
  cases hlt

section

variable [Std.TransOrd κ]

theorem insertMember_of_lt (h : ∀ b ∈ l, compare b a = .lt) :
    insertMember a l = l ++ [a] := by
  induction l with
  | nil => rfl
  | cons b rest ih =>
    have hgt : compare a b = .gt := Std.OrientedCmp.gt_of_lt (h b List.mem_cons_self)
    simp [insertMember, hgt, ih fun c hc => h c (List.mem_cons_of_mem b hc)]

theorem foldl_insert_members {s : OrderedSet κ}
    (h : (s.members ++ l).Pairwise fun a b => compare a b = .lt) :
    (l.foldl insert s).members = s.members ++ l := by
  induction l generalizing s with
  | nil => simp
  | cons a rest ih =>
    have hlt : ∀ b ∈ s.members, compare b a = .lt := by
      intro b hb
      exact (List.pairwise_append.1 h).2.2 b hb a List.mem_cons_self
    have hinsert : (s.insert a).members = s.members ++ [a] := insertMember_of_lt hlt
    rw [List.foldl_cons, ih, hinsert, List.append_assoc]
    · rfl
    · rw [hinsert, List.append_assoc]
      exact h

/-- A list in order is kept as it is. -/
theorem ofList_self {s : OrderedSet κ} : ofList s.members = s :=
  ext_members (foldl_insert_members (s := ∅) s.ascending)

end

variable [Std.LawfulEqOrd κ]

theorem mem_insertMember_iff : a ∈ insertMember k l ↔ a = k ∨ a ∈ l := by
  refine ⟨mem_insertMember, ?_⟩
  induction l with
  | nil => simp [insertMember]
  | cons k' rest ih =>
    intro h
    unfold insertMember
    split
    · exact List.mem_cons.2 h
    · rename_i heq
      obtain rfl := Std.LawfulEqOrd.eq_of_compare heq
      rcases h with rfl | h
      · exact List.mem_cons_self
      · exact h
    · rcases h with rfl | h
      · exact List.mem_cons_of_mem _ (ih (.inl rfl))
      · rcases List.mem_cons.1 h with rfl | h
        · exact List.mem_cons_self
        · exact List.mem_cons_of_mem _ (ih (.inr h))

variable [Std.TransOrd κ]

theorem mem_foldl_insert {start : OrderedSet κ} :
    a ∈ (l.foldl insert start).members ↔ a ∈ start.members ∨ a ∈ l := by
  induction l generalizing start with
  | nil => simp
  | cons k rest ih =>
    have hinsert : a ∈ (start.insert k).members ↔ a = k ∨ a ∈ start.members :=
      mem_insertMember_iff
    rw [List.foldl_cons, ih, hinsert, List.mem_cons, or_assoc, or_left_comm]

theorem mem_ofList : a ∈ (ofList l).members ↔ a ∈ l := by
  rw [ofList, mem_foldl_insert]
  exact or_iff_right (List.not_mem_nil)

end PageLayers.OrderedSet
