import PageLayers.Ordered.Map
import Mathlib.Data.List.Induction
import Mathlib.Data.List.Nodup

/-! Looking up what was put into an ordered map. -/

namespace PageLayers.OrderedMap

variable {κ α : Type} [Ord κ] {m : OrderedMap κ α} {k k' : κ} {v : α}

theorem ext_entries {m n : OrderedMap κ α} (h : m.entries = n.entries) : m = n := by
  cases m
  cases n
  cases h
  rfl

theorem lookupEntry_eq_some [Std.LawfulEqOrd κ] {l : List (κ × α)}
    (hl : l.Pairwise fun a b => compare a.1 b.1 = .lt) :
    lookupEntry k l = some v ↔ (k, v) ∈ l := by
  induction l with
  | nil => simp [lookupEntry]
  | cons e rest ih =>
    obtain ⟨k', v'⟩ := e
    rw [List.pairwise_cons] at hl
    unfold lookupEntry
    by_cases hk : compare k k' = .eq
    · obtain rfl := Std.LawfulEqOrd.eq_of_compare hk
      have hrest : (k, v) ∉ rest := by
        intro hmem
        have hlt := hl.1 _ hmem
        rw [hk] at hlt
        cases hlt
      simp [hrest, eq_comm]
    · have hne : k ≠ k' := by
        rintro rfl
        exact hk Std.ReflCmp.compare_self
      simp [hk, hne, ih hl.2]

theorem get?_eq_some [Std.LawfulEqOrd κ] :
    m.get? k = some v ↔ (k, v) ∈ m.entries :=
  lookupEntry_eq_some m.ascending

theorem get?_erase_self [Std.LawfulEqOrd κ] : (m.erase k).get? k = none := by
  rw [Option.eq_none_iff_forall_ne_some]
  intro v hv
  have hkept := (List.mem_filter.1 (get?_eq_some.1 hv)).2
  simp [Std.ReflCmp.compare_self] at hkept

theorem get?_erase_of_ne [Std.LawfulEqOrd κ] (h : k' ≠ k) : (m.erase k).get? k' = m.get? k' := by
  refine Option.ext fun v => ?_
  rw [get?_eq_some, get?_eq_some]
  refine List.mem_filter.trans (and_iff_left_of_imp fun _ => ?_)
  simpa using fun hsame => h (Std.LawfulEqOrd.eq_of_compare hsame).symm

theorem mem_keys [Std.LawfulEqOrd κ] : k ∈ m.keys ↔ ∃ v, m.get? k = some v := by
  simp only [keys, get?_eq_some, List.mem_map, Prod.exists, exists_and_right, exists_eq_right]

theorem nodup_keys [Std.LawfulEqOrd κ] : m.keys.Nodup := by
  refine List.pairwise_map.2 (m.ascending.imp ?_)
  intro a b hlt hsame
  rw [hsame, Std.ReflOrd.compare_self] at hlt
  cases hlt

theorem ext_get? [Std.TransOrd κ] [Std.LawfulEqOrd κ] {n : OrderedMap κ α}
    (h : ∀ k, m.get? k = n.get? k) : m = n := by
  have hmem : ∀ e, e ∈ m.entries ↔ e ∈ n.entries := by
    rintro ⟨k, v⟩
    rw [← get?_eq_some, ← get?_eq_some, h]
  have hnodup (m : OrderedMap κ α) : m.entries.Nodup := List.Nodup.of_map _ (nodup_keys (m := m))
  refine ext_entries (((List.perm_ext_iff_of_nodup (hnodup m) (hnodup n)).2 hmem).eq_of_pairwise
    ?_ m.ascending n.ascending)
  intro a b _ _ hab hba
  rw [Std.OrientedCmp.gt_of_lt hab] at hba
  cases hba

theorem insertEntry_of_lt [Std.TransOrd κ] {l : List (κ × α)} (h : ∀ e ∈ l, compare e.1 k = .lt) :
    insertEntry k v l = l ++ [(k, v)] := by
  induction l with
  | nil => rfl
  | cons e rest ih =>
    obtain ⟨k₀, v₀⟩ := e
    have hgt : compare k k₀ = .gt := Std.OrientedCmp.gt_of_lt (h _ List.mem_cons_self)
    have hrest := ih fun e he => h e (List.mem_cons_of_mem _ he)
    simp [insertEntry, hgt, hrest]

variable [Std.TransOrd κ] [Std.LawfulEqOrd κ]

theorem lookupEntry_insertEntry {l : List (κ × α)} :
    lookupEntry k' (insertEntry k v l) =
      if compare k' k = .eq then some v else lookupEntry k' l := by
  induction l with
  | nil => simp [insertEntry, lookupEntry]
  | cons e rest ih =>
    obtain ⟨k₀, v₀⟩ := e
    unfold insertEntry
    split
    · rfl
    · rename_i heq
      obtain rfl := Std.LawfulEqOrd.eq_of_compare heq
      by_cases hk : compare k' k = .eq <;> simp [lookupEntry, hk]
    · rename_i hgt
      unfold lookupEntry
      rw [ih]
      by_cases hk : compare k' k₀ = .eq
      · obtain rfl := Std.LawfulEqOrd.eq_of_compare hk
        have hlt : compare k' k = .lt := Std.OrientedCmp.lt_of_gt hgt
        simp [hlt, Std.ReflCmp.compare_self]
      · simp [hk]

@[simp] theorem get?_insert_self : (m.insert k v).get? k = some v := by
  show lookupEntry k (insertEntry k v m.entries) = some v
  rw [lookupEntry_insertEntry]
  simp [Std.ReflCmp.compare_self]

theorem get?_insert_of_ne (h : k' ≠ k) : (m.insert k v).get? k' = m.get? k' := by
  show lookupEntry k' (insertEntry k v m.entries) = lookupEntry k' m.entries
  rw [lookupEntry_insertEntry]
  have hk : compare k' k ≠ .eq := fun hk => h (Std.LawfulEqOrd.eq_of_compare hk)
  simp [hk]

theorem ofList_concat {l : List (κ × α)} {e : κ × α} :
    ofList (l ++ [e]) = (ofList l).insert e.1 e.2 := by
  simp [ofList]

/-- What stands later in a list wins. -/
theorem get?_ofList_append {l l' : List (κ × α)} :
    (ofList (l ++ l')).get? k = ((ofList l').get? k).or ((ofList l).get? k) := by
  induction l' using List.reverseRecOn with
  | nil =>
    rw [List.append_nil]
    rfl
  | append_singleton l' e ih =>
    rw [← List.append_assoc, ofList_concat, ofList_concat]
    by_cases hk : k = e.1
    · subst hk
      rw [get?_insert_self, get?_insert_self]
      rfl
    · rw [get?_insert_of_ne hk, get?_insert_of_ne hk, ih]

theorem mem_of_get?_ofList {l : List (κ × α)} (h : (ofList l).get? k = some v) : (k, v) ∈ l := by
  induction l using List.reverseRecOn with
  | nil => cases h
  | append_singleton l e ih =>
    rw [ofList_concat] at h
    by_cases hk : k = e.1
    · subst hk
      rw [get?_insert_self] at h
      obtain rfl := Option.some.inj h
      exact List.mem_append_right _ List.mem_cons_self
    · rw [get?_insert_of_ne hk] at h
      exact List.mem_append_left _ (ih h)

theorem get?_ofList_ne_none {l : List (κ × α)} (h : (k, v) ∈ l) : (ofList l).get? k ≠ none := by
  obtain ⟨before, after, rfl⟩ := List.append_of_mem h
  have hlast : (ofList ([] ++ [(k, v)])).get? k = some v := by
    rw [ofList_concat, get?_insert_self]
  rw [← List.singleton_append, get?_ofList_append, get?_ofList_append, ← List.nil_append [(k, v)],
    hlast]
  simp

theorem foldl_insert_entries {l : List (κ × α)}
    (h : (m.entries ++ l).Pairwise fun a b => compare a.1 b.1 = .lt) :
    (l.foldl (fun m e => m.insert e.1 e.2) m).entries = m.entries ++ l := by
  induction l generalizing m with
  | nil => simp
  | cons e rest ih =>
    have hlt : ∀ x ∈ m.entries, compare x.1 e.1 = .lt := by
      intro x hx
      exact (List.pairwise_append.1 h).2.2 x hx e List.mem_cons_self
    have hinsert : (m.insert e.1 e.2).entries = m.entries ++ [e] := insertEntry_of_lt hlt
    rw [List.foldl_cons, ih, hinsert, List.append_assoc]
    · rfl
    · rw [hinsert, List.append_assoc]
      exact h

/-- A list in key order is kept as it is. -/
theorem ofList_entries {l : List (κ × α)}
    (h : l.Pairwise fun a b => compare a.1 b.1 = .lt) : (ofList l).entries = l :=
  foldl_insert_entries (m := ∅) h

/-- A list of the entries of a map, in whatever order, makes that map. -/
theorem ofList_eq_of_mem {l : List (κ × α)} (h : ∀ e, e ∈ l ↔ e ∈ m.entries) : ofList l = m := by
  have hget : ∀ k, (ofList l).get? k = m.get? k := by
    intro k
    cases hm : m.get? k with
    | some v =>
      have hmem : (k, v) ∈ l := (h _).2 (get?_eq_some.1 hm)
      obtain ⟨v', hv'⟩ := Option.ne_none_iff_exists'.1 (get?_ofList_ne_none hmem)
      have hback := get?_eq_some.2 ((h _).1 (mem_of_get?_ofList hv'))
      rw [hv', ← hback, hm]
    | none =>
      rw [Option.eq_none_iff_forall_ne_some]
      intro v hv
      have hback := get?_eq_some.2 ((h _).1 (mem_of_get?_ofList hv))
      rw [hm] at hback
      cases hback
  exact ext_get? hget

theorem get?_ofList_of_mem {l : List (κ × α)} (hkeys : (l.map Prod.fst).Nodup) (h : (k, v) ∈ l) :
    (ofList l).get? k = some v := by
  obtain ⟨v', hv'⟩ := Option.ne_none_iff_exists'.1 (get?_ofList_ne_none h)
  have hsame := List.inj_on_of_nodup_map hkeys (mem_of_get?_ofList hv') h rfl
  rw [hv', (Prod.mk.inj hsame).2]

/-- Entries of distinct keys make the same map in every order. -/
theorem ofList_eq_of_perm {l l' : List (κ × α)} (h : l.Perm l')
    (hkeys : (l.map Prod.fst).Nodup) : ofList l = ofList l' := by
  have hkeys' : (l'.map Prod.fst).Nodup := (h.map Prod.fst).nodup_iff.1 hkeys
  refine ofList_eq_of_mem fun e => ?_
  rw [h.mem_iff, ← get?_eq_some]
  exact ⟨get?_ofList_of_mem hkeys', mem_of_get?_ofList⟩

theorem ofList_self : ofList m.entries = m := ext_entries (ofList_entries m.ascending)

end PageLayers.OrderedMap
