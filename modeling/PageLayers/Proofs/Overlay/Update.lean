import PageLayers.Overlay.Apply
import PageLayers.Proofs.Outcome

/-! Updates of the first item of an id: the item that changes, and the rest that stays. -/

namespace PageLayers

variable {α β ε : Type} {has : α → Bool} {f : α → Except PatchError (Option α)} {l l' : List α}
  {a : α} {before after : List α} {target : Target} {idOf : α → String} {id : String}

theorem updateFirst?_eq_none : updateFirst? has f l = none ↔ ∀ a ∈ l, has a = false := by
  induction l with
  | nil => simp [updateFirst?]
  | cons a rest ih =>
    unfold updateFirst?
    cases ha : has a <;> simp [ha, ih]

/-- The first item with the property is the only one that changes. -/
theorem updateFirst?_eq_ok : updateFirst? has f l = some (.ok l') ↔
    ∃ before a after b, l = before ++ a :: after ∧ (∀ x ∈ before, has x = false) ∧
      has a = true ∧ f a = .ok b ∧ l' = before ++ b.toList ++ after := by
  induction l generalizing l' with
  | nil => simp [updateFirst?]
  | cons x rest ih =>
    unfold updateFirst?
    constructor
    · intro h
      split at h
      · rename_i hx
        obtain ⟨b, hb, rfl⟩ := except_map_eq_ok.1 (Option.some.inj h)
        exact ⟨[], x, rest, b, rfl, by simp, hx, hb, rfl⟩
      · rename_i hx
        obtain ⟨r, hr, hmap⟩ := Option.map_eq_some_iff.1 h
        obtain ⟨m, rfl, rfl⟩ := except_map_eq_ok.1 hmap
        obtain ⟨before, a, after, b, rfl, hbefore, ha, hb, rfl⟩ := ih.1 hr
        refine ⟨x :: before, a, after, b, rfl, ?_, ha, hb, rfl⟩
        intro y hy
        rcases List.mem_cons.1 hy with rfl | hy
        · simpa using hx
        · exact hbefore y hy
    · rintro ⟨before, a, after, b, hl, hbefore, ha, hb, rfl⟩
      cases before with
      | nil =>
        obtain ⟨rfl, rfl⟩ := List.cons.inj hl
        simp [ha, hb, Except.map]
      | cons y before =>
        rw [List.cons_append] at hl
        obtain ⟨rfl, hrest⟩ := List.cons.inj hl
        have hx : has x = false := hbefore x List.mem_cons_self
        have hok := ih.2 ⟨before, a, after, b, hrest,
          fun z hz => hbefore z (List.mem_cons_of_mem x hz), ha, hb, rfl⟩
        simp [hx, hok, Except.map]

theorem updateId_eq_ok : updateId target idOf id f l = .ok l' ↔
    ∃ before a after b, l = before ++ a :: after ∧ (∀ x ∈ before, idOf x ≠ id) ∧
      idOf a = id ∧ f a = .ok b ∧ l' = before ++ b.toList ++ after := by
  unfold updateId
  rw [getD_error_eq_ok, updateFirst?_eq_ok]
  simp

/-- One component changes, in the first region that has one of the id. -/
theorem updateComponent_eq_ok {f : Component → Except PatchError (Option Component)}
    {l l' : List Region} (h : updateComponent id f l = .ok l') : ∃ before r after cs,
      l = before ++ r :: after ∧ (∀ x ∈ before, ∀ c ∈ x.components, c.id ≠ id) ∧
        updateId .component Component.id id f r.components = .ok cs ∧
        l' = before ++ ⟨r.id, cs⟩ :: after := by
  unfold updateComponent at h
  rw [getD_error_eq_ok, updateFirst?_eq_ok] at h
  obtain ⟨before, r, after, b, rfl, hbefore, -, hb, rfl⟩ := h
  obtain ⟨cs, hcs, rfl⟩ := except_map_eq_ok.1 hb
  exact ⟨before, r, after, cs, rfl, by simpa using hbefore, hcs, by simp⟩

theorem updateFirst?_append (hbefore : ∀ x ∈ before, has x = false) (ha : has a = true) :
    updateFirst? has f (before ++ a :: after) =
      some ((f a).map fun b => before ++ b.toList ++ after) := by
  induction before with
  | nil => simp [updateFirst?, ha]
  | cons x before ih =>
    have hx : has x = false := hbefore x List.mem_cons_self
    have hrest := ih fun y hy => hbefore y (List.mem_cons_of_mem x hy)
    rw [List.cons_append, updateFirst?, hx, hrest]
    cases f a <;> rfl

theorem updateId_append (hbefore : ∀ x ∈ before, idOf x ≠ id) (ha : idOf a = id) :
    updateId target idOf id f (before ++ a :: after) =
      (f a).map fun b => before ++ b.toList ++ after := by
  unfold updateId
  rw [updateFirst?_append (by simpa using hbefore) (by simpa using ha)]
  rfl

theorem updateId_of_missing (h : ∀ x ∈ l, idOf x ≠ id) :
    updateId target idOf id f l = .error (.missingTarget target id) := by
  unfold updateId
  rw [updateFirst?_eq_none.2 (by simpa using h)]
  rfl

/-- The first component of its id is the one that is worked on. -/
theorem updateComponent_append {f : Component → Except PatchError (Option Component)}
    {before after : List Region} {r : Region} {c : Component} {left right : List Component}
    (hbefore : ∀ x ∈ before, ∀ d ∈ x.components, d.id ≠ c.id)
    (hr : r.components = left ++ c :: right) (hleft : ∀ d ∈ left, d.id ≠ c.id) :
    updateComponent c.id f (before ++ r :: after) =
      (f c).map fun b => before ++ ⟨r.id, left ++ b.toList ++ right⟩ :: after := by
  unfold updateComponent
  rw [updateFirst?_append (by simpa using hbefore) (by simp [hr]), hr, updateId_append hleft rfl]
  cases f c <;> simp [Except.map]

end PageLayers
