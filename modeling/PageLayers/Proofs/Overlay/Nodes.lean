import PageLayers.Proofs.Overlay.Update

/-! What one patch can make of a page. Later proofs split over these cases and never open the
functions that apply a patch. -/

namespace PageLayers

variable {α : Type} {p next : Page} {patch : Patch}

/-- What a patch aimed at an id can make of a list of nodes: nothing, or the first node of the id
goes away or gives its place to another. -/
inductive NodesAfter (idOf : α → String) (id : String) (New : α → α → Prop) (l : List α) :
    List α → Prop where
  | same : NodesAfter idOf id New l l
  | removed {before a after} (hl : l = before ++ a :: after)
      (hbefore : ∀ x ∈ before, idOf x ≠ id) (ha : idOf a = id) :
      NodesAfter idOf id New l (before ++ after)
  | changed {before a b after} (hl : l = before ++ a :: after)
      (hbefore : ∀ x ∈ before, idOf x ≠ id) (ha : idOf a = id) (hb : New a b) :
      NodesAfter idOf id New l (before ++ b :: after)

namespace Patch

/-- The component that takes the place of another. -/
def NewComponent (patch : Patch) (c c' : Component) : Prop :=
  ∃ payload, patch.payload = some (.component payload) ∧
    (c' = c.merge payload ∨ Component.complete patch.targetId payload = .ok c')

def NewDataSource (patch : Patch) (s s' : DataSource) : Prop :=
  ∃ payload, patch.payload = some (.dataSource payload) ∧
    (s' = s.merge payload ∨ DataSource.complete patch.targetId payload = .ok s')

def NewAction (patch : Patch) (a a' : Action) : Prop :=
  ∃ payload, patch.payload = some (.action payload) ∧
    (a' = a.merge payload ∨ Action.complete patch.targetId payload = .ok a')

end Patch

/-- What a patch can make of the regions of a page. -/
inductive RegionsAfter (patch : Patch) (l : List Region) : List Region → Prop where
  | same : RegionsAfter patch l l
  | removed {before r after} (hl : l = before ++ r :: after)
      (hbefore : ∀ x ∈ before, x.id ≠ patch.targetId) (hr : r.id = patch.targetId) :
      RegionsAfter patch l (before ++ after)
  | filled {before r after payload cs} (hl : l = before ++ r :: after)
      (hbefore : ∀ x ∈ before, x.id ≠ patch.targetId) (hr : r.id = patch.targetId)
      (hpayload : patch.payload = some (.region payload))
      (hcs : payload.foldlM
        (placeComponent r.id (before.flatMap Region.components ++ after.flatMap Region.components))
        (if patch.operation = .replace then [] else r.components) = .ok cs) :
      RegionsAfter patch l (before ++ ⟨r.id, cs⟩ :: after)
  | within {before r after cs} (hl : l = before ++ r :: after)
      (hbefore : ∀ x ∈ before, ∀ c ∈ x.components, c.id ≠ patch.targetId)
      (hcs : NodesAfter Component.id patch.targetId patch.NewComponent r.components cs) :
      RegionsAfter patch l (before ++ ⟨r.id, cs⟩ :: after)

/-- Where a component of a payload goes: onto the one of its id, or to the end if no component of
the page has its id. -/
inductive PlacedAfter (elsewhere : List Component) (patch : ComponentPatch) (l : List Component) :
    List Component → Prop where
  | merged {before c after} (hid : patch.id = some c.id) (hl : l = before ++ c :: after)
      (hbefore : ∀ x ∈ before, x.id ≠ c.id) :
      PlacedAfter elsewhere patch l (before ++ c.merge patch :: after)
  | added {c} (hid : patch.id = some c.id) (hc : Component.complete c.id patch = .ok c)
      (hl : ∀ x ∈ l, x.id ≠ c.id) (helse : ∀ x ∈ elsewhere, x.id ≠ c.id) :
      PlacedAfter elsewhere patch l (l ++ [c])

@[simp] theorem Component.merge_id (c : Component) (patch : ComponentPatch) :
    (c.merge patch).id = c.id := rfl

theorem Component.complete_eq_ok {id : String} {patch : ComponentPatch} {c : Component} :
    Component.complete id patch = .ok c ↔
      ∃ typeName space, patch.typeName = some typeName ∧ patch.space = some space ∧
        c = ⟨id, typeName, space, patch.version, patch.props, patch.access⟩ := by
  unfold Component.complete
  cases patch.typeName <;> cases patch.space <;> simp [eq_comm]

theorem Component.complete_id {id : String} {patch : ComponentPatch} {c : Component}
    (h : Component.complete id patch = .ok c) : c.id = id := by
  obtain ⟨_, _, _, _, rfl⟩ := Component.complete_eq_ok.1 h
  rfl

theorem DataSource.complete_eq_ok {id : String} {patch : DataSourcePatch} {s : DataSource} :
    DataSource.complete id patch = .ok s ↔
      ∃ origin, patch.origin = some origin ∧ s = ⟨id, origin, patch.contract, patch.access⟩ := by
  unfold DataSource.complete
  cases patch.origin <;> simp [eq_comm]

theorem DataSource.complete_id {id : String} {patch : DataSourcePatch} {s : DataSource}
    (h : DataSource.complete id patch = .ok s) : s.id = id := by
  obtain ⟨_, _, rfl⟩ := DataSource.complete_eq_ok.1 h
  rfl

theorem Action.complete_eq_ok {id : String} {patch : ActionPatch} {a : Action} :
    Action.complete id patch = .ok a ↔
      ∃ kind, patch.kind = some kind ∧ a = ⟨id, kind, patch.config, patch.access⟩ := by
  unfold Action.complete
  cases patch.kind <;> simp [eq_comm]

theorem Action.complete_id {id : String} {patch : ActionPatch} {a : Action}
    (h : Action.complete id patch = .ok a) : a.id = id := by
  obtain ⟨_, _, rfl⟩ := Action.complete_eq_ok.1 h
  rfl

theorem componentsElsewhere_append {before after : List Region} {r : Region}
    (hbefore : ∀ x ∈ before, x.id ≠ r.id) :
    componentsElsewhere r.id (before ++ r :: after) =
      before.flatMap Region.components ++ after.flatMap Region.components := by
  induction before with
  | nil => simp [componentsElsewhere]
  | cons x before ih =>
    have hx := hbefore x List.mem_cons_self
    have hrest := ih fun y hy => hbefore y (List.mem_cons_of_mem x hy)
    simp [componentsElsewhere, hx, hrest]

theorem placedAfter_of_placeComponent {regionId : String} {elsewhere l l' : List Component}
    {patch : ComponentPatch} (h : placeComponent regionId elsewhere l patch = .ok l') :
    PlacedAfter elsewhere patch l l' := by
  unfold placeComponent at h
  split at h
  · cases h
  · rename_i id hid
    split at h
    · rename_i r hr
      subst h
      obtain ⟨before, c, after, b, rfl, hbefore, hc, hb, rfl⟩ := updateFirst?_eq_ok.1 hr
      obtain rfl : c.id = id := by simpa using hc
      cases hb
      simpa using PlacedAfter.merged hid rfl (by simpa using hbefore)
    · rename_i hnone
      rw [updateFirst?_eq_none] at hnone
      split at h
      · cases h
      · rename_i helse
        obtain ⟨c, hc, rfl⟩ := except_map_eq_ok.1 h
        obtain rfl : c.id = id := Component.complete_id hc
        exact .added hid hc (by simpa using hnone) (by simpa using helse)

theorem change_eq_some {operation : Operation} {merged : α} {complete : Except PatchError α} {b : α}
    (h : Page.change operation merged complete = .ok (some b)) :
    b = merged ∨ complete = .ok b := by
  cases operation with
  | remove => cases h
  | replace =>
    obtain ⟨a, ha, hb⟩ := except_map_eq_ok.1 h
    cases hb
    exact .inr ha
  | merge =>
    cases h
    exact .inl rfl

theorem nodesAfter_of_updateId {target : Target} {idOf : α → String} {id : String}
    {New : α → α → Prop} {f : α → Except PatchError (Option α)} {l l' : List α}
    (h : updateId target idOf id f l = .ok l') (hf : ∀ a b, f a = .ok (some b) → New a b) :
    NodesAfter idOf id New l l' := by
  obtain ⟨before, a, after, b, rfl, hbefore, ha, hb, rfl⟩ := updateId_eq_ok.1 h
  cases b with
  | none => simpa using NodesAfter.removed rfl hbefore ha
  | some b => simpa using NodesAfter.changed rfl hbefore ha (hf a b hb)

theorem regionsAfter_of_updateComponent {l l' : List Region}
    {f : Component → Except PatchError (Option Component)}
    (h : updateComponent patch.targetId f l = .ok l')
    (hf : ∀ c b, f c = .ok (some b) → patch.NewComponent c b) : RegionsAfter patch l l' := by
  obtain ⟨before, r, after, cs, rfl, hbefore, hcs, rfl⟩ := updateComponent_eq_ok h
  exact .within rfl hbefore (nodesAfter_of_updateId hcs hf)

namespace Page

theorem regionsAfter_of_patchRegions {l : List Region} (h : p.patchRegions patch = .ok l) :
    RegionsAfter patch p.regions l := by
  unfold patchRegions at h
  simp only at h
  split at h
  · obtain ⟨before, r, after, b, hl, hbefore, hr, hb, rfl⟩ := updateId_eq_ok.1 h
    cases hb
    simpa using RegionsAfter.removed hl hbefore hr
  · rename_i payload _ hpayload _
    obtain ⟨before, r, after, b, hl, hbefore, hr, hb, rfl⟩ := updateId_eq_ok.1 h
    obtain ⟨cs, hcs, rfl⟩ := except_map_eq_ok.1 hb
    rw [hl, ← hr, componentsElsewhere_append (by simpa [hr] using hbefore)] at hcs
    simpa using RegionsAfter.filled hl hbefore hr hpayload hcs
  · exact regionsAfter_of_updateComponent h fun _ _ hb => nomatch hb
  · rename_i payload _ hpayload _
    exact regionsAfter_of_updateComponent h fun _ _ hb => ⟨payload, hpayload, change_eq_some hb⟩
  · cases h
    exact .same

theorem nodesAfter_of_patchDataSources {l : List DataSource}
    (h : p.patchDataSources patch = .ok l) :
    NodesAfter DataSource.id patch.targetId patch.NewDataSource p.dataSources l := by
  unfold patchDataSources at h
  simp only at h
  split at h
  · exact nodesAfter_of_updateId h fun _ _ hb => nomatch hb
  · rename_i payload _ hpayload _
    exact nodesAfter_of_updateId h fun _ _ hb => ⟨payload, hpayload, change_eq_some hb⟩
  · cases h
    exact .same

theorem nodesAfter_of_patchActions {l : List Action} (h : p.patchActions patch = .ok l) :
    NodesAfter Action.id patch.targetId patch.NewAction p.actions l := by
  unfold patchActions at h
  simp only at h
  split at h
  · exact nodesAfter_of_updateId h fun _ _ hb => nomatch hb
  · rename_i payload _ hpayload _
    exact nodesAfter_of_updateId h fun _ _ hb => ⟨payload, hpayload, change_eq_some hb⟩
  · cases h
    exact .same

/-- All that applying a patch can do: it changes regions, data sources and actions, and nothing
else. -/
theorem applyPatch_eq_ok (h : p.applyPatch patch = .ok next) :
    ∃ regions dataSources actions, RegionsAfter patch p.regions regions ∧
      NodesAfter DataSource.id patch.targetId patch.NewDataSource p.dataSources dataSources ∧
      NodesAfter Action.id patch.targetId patch.NewAction p.actions actions ∧
      next = { p with regions, dataSources, actions } := by
  unfold applyPatch at h
  simp only [except_bind_eq_ok] at h
  obtain ⟨_, -, regions, hr, dataSources, hs, actions, ha, hnext⟩ := h
  cases hnext
  exact ⟨regions, dataSources, actions, regionsAfter_of_patchRegions hr,
    nodesAfter_of_patchDataSources hs, nodesAfter_of_patchActions ha, rfl⟩

end Page

end PageLayers
