import PageLayers.Proofs.Overlay.Nodes

/-! A patch is one update of the node that it is aimed at: the node goes away, or gives its place to
one of the same id. -/

namespace PageLayers

variable {α β : Type} {idOf : α → String} {id : String} {p : Page} {patch : Patch}

namespace Payload

def region? : Payload → Option (List ComponentPatch)
  | region components => some components
  | _ => none

def component? : Payload → Option ComponentPatch
  | component patch => some patch
  | _ => none

def dataSource? : Payload → Option DataSourcePatch
  | dataSource patch => some patch
  | _ => none

def action? : Payload → Option ActionPatch
  | action patch => some patch
  | _ => none

end Payload

namespace Patch

/-- What a patch makes of a node, from what its payload holds for nodes of that kind. -/
def change (patch : Patch) (payload? : Payload → Option β) (merge : α → β → α)
    (complete : String → β → Except PatchError α) (a : α) : Except PatchError (Option α) :=
  match patch.payload.bind payload? with
  | some payload => Page.change patch.operation (merge a payload) (complete patch.targetId payload)
  | none => Page.change patch.operation a (.ok a)

/-- What a patch makes of a region, beside the components of all other regions. -/
def changeRegion (patch : Patch) (elsewhere : List Component) (r : Region) :
    Except PatchError (Option Region) :=
  match patch.operation, patch.payload.bind Payload.region? with
  | .remove, _ => .ok none
  | operation, some payload => patchRegion elsewhere operation payload r
  | _, none => .ok (some r)

/-- A removal leaves nothing of a node, and any other patch a node of the same id. -/
inductive Leaves (idOf : α → String) (id : String) : Operation → Option α → Prop where
  | nothing : Leaves idOf id .remove none
  | node {operation : Operation} {a : α} (hkept : operation ≠ .remove) (ha : idOf a = id) :
      Leaves idOf id operation (some a)

theorem leaves_of_change {payload? : Payload → Option β} {merge : α → β → α}
    {complete : String → β → Except PatchError α} {a : α} {b : Option α}
    (hmerge : ∀ a payload, idOf (merge a payload) = idOf a)
    (hcomplete : ∀ {id payload a}, complete id payload = .ok a → idOf a = id)
    (ha : idOf a = patch.targetId) (h : patch.change payload? merge complete a = .ok b) :
    Leaves idOf patch.targetId patch.operation b := by
  unfold change Page.change at h
  cases hoperation : patch.operation <;> rw [hoperation] at h <;> split at h
  · cases h
    exact .node (by simp) ((hmerge a _).trans ha)
  · cases h
    exact .node (by simp) ha
  · obtain ⟨a', ha', rfl⟩ := except_map_eq_ok.1 h
    exact .node (by simp) (hcomplete ha')
  · cases h
    exact .node (by simp) ha
  · cases h
    exact .nothing
  · cases h
    exact .nothing

theorem leaves_of_changeRegion {elsewhere : List Component} {r : Region} {b : Option Region}
    (hr : r.id = patch.targetId) (h : patch.changeRegion elsewhere r = .ok b) :
    Leaves Region.id patch.targetId patch.operation b := by
  unfold changeRegion at h
  split at h
  · rename_i hremove
    cases h
    rw [hremove]
    exact .nothing
  · rename_i hkept
    obtain ⟨cs, -, rfl⟩ := except_map_eq_ok.1 h
    exact .node hkept hr
  · rename_i hkept
    cases h
    exact .node hkept hr

end Patch

namespace Page

/-- A patch with a payload that fits it changes the nodes of one kind, and among them one. -/
theorem applyPatch_eq : p.applyPatch patch = do
    checkPayload patch
    match patch.target with
    | .region => do
      let change := patch.changeRegion (componentsElsewhere patch.targetId p.regions)
      return { p with regions := ← updateId .region Region.id patch.targetId change p.regions }
    | .component => do
      let change := patch.change Payload.component? Component.merge Component.complete
      return { p with regions := ← updateComponent patch.targetId change p.regions }
    | .dataSource => do
      let change := patch.change Payload.dataSource? DataSource.merge DataSource.complete
      return { p with
        dataSources := ← updateId .dataSource DataSource.id patch.targetId change p.dataSources }
    | .action => do
      let change := patch.change Payload.action? Action.merge Action.complete
      return { p with
        actions := ← updateId .action Action.id patch.targetId change p.actions } := by
  obtain ⟨target, targetId, operation, payload⟩ := patch
  cases payload with
  | none => cases target <;> cases operation <;> rfl
  | some payload => cases target <;> cases operation <;> cases payload <;> rfl

end Page

end PageLayers
