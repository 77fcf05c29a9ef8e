import PageLayers.Overlay.Merge

/-! Applying patches and overlays to a page. -/

namespace PageLayers

variable {α : Type}

/-- Works on the first item with the property; none if no item has it. -/
def updateFirst? (has : α → Bool) (f : α → Except PatchError (Option α)) :
    List α → Option (Except PatchError (List α))
  | [] => none
  | a :: rest =>
    if has a then some ((f a).map fun b => b.toList ++ rest)
    else (updateFirst? has f rest).map fun r => r.map (a :: ·)

/-- The same for the item of an id, where a missing one is an error. -/
def updateId (target : Target) (idOf : α → String) (id : String)
    (f : α → Except PatchError (Option α)) (l : List α) : Except PatchError (List α) :=
  (updateFirst? (fun a => idOf a = id) f l).getD (.error (.missingTarget target id))

/-- Works on the first component of an id in any region. -/
def updateComponent (id : String) (f : Component → Except PatchError (Option Component))
    (regions : List Region) : Except PatchError (List Region) :=
  (updateFirst? (fun r => r.components.any fun c => c.id = id)
    (fun r => (updateId .component Component.id id f r.components).map fun cs => some ⟨r.id, cs⟩)
    regions).getD (.error (.missingTarget .component id))

/-- The components of all regions but the first one of the given id. -/
def componentsElsewhere (regionId : String) : List Region → List Component
  | [] => []
  | r :: rest =>
    if r.id = regionId then rest.flatMap Region.components
    else r.components ++ componentsElsewhere regionId rest

/-- Puts one component of a payload into a region: it is merged with the one of its id, or added at
the end unless another region has its id. -/
def placeComponent (regionId : String) (elsewhere : List Component) (components : List Component)
    (patch : ComponentPatch) : Except PatchError (List Component) :=
  match patch.id with
  | none => .error (.incomplete .region regionId .componentId)
  | some id =>
    match updateFirst? (fun c => c.id = id) (fun c => .ok (some (c.merge patch))) components with
    | some r => r
    | none =>
      if elsewhere.any fun c => c.id = id then .error (.duplicateComponent id)
      else (Component.complete id patch).map fun c => components ++ [c]

/-- A replacement starts from an empty region. -/
def patchRegion (elsewhere : List Component) (operation : Operation)
    (payload : List ComponentPatch) (r : Region) : Except PatchError (Option Region) :=
  let start := if operation = .replace then [] else r.components
  (payload.foldlM (placeComponent r.id elsewhere) start).map fun cs => some ⟨r.id, cs⟩

namespace Page

/-- The payload has the kind of the target, and only a removal may do without one. -/
def checkPayload (patch : Patch) : Except PatchError Unit :=
  match patch.payload with
  | some payload =>
    if payload.target = patch.target then .ok ()
    else .error (.payloadMismatch patch.target patch.targetId payload.target)
  | none =>
    if patch.operation = .remove then .ok ()
    else .error (.incomplete patch.target patch.targetId .payload)

/-- What becomes of the node a patch is aimed at: it goes away, is replaced, or is merged. -/
def change (operation : Operation) (merged : α) (complete : Except PatchError α) :
    Except PatchError (Option α) :=
  match operation with
  | .remove => .ok none
  | .replace => complete.map some
  | .merge => .ok (some merged)

def patchRegions (p : Page) (patch : Patch) : Except PatchError (List Region) :=
  let id := patch.targetId
  match patch.target, patch.operation, patch.payload with
  | .region, .remove, _ => updateId .region Region.id id (fun _ => .ok none) p.regions
  | .region, operation, some (.region payload) =>
    let elsewhere := componentsElsewhere id p.regions
    updateId .region Region.id id (patchRegion elsewhere operation payload) p.regions
  | .component, .remove, _ => updateComponent id (fun _ => .ok none) p.regions
  | .component, operation, some (.component payload) =>
    updateComponent id
      (fun c => change operation (c.merge payload) (Component.complete id payload)) p.regions
  | _, _, _ => .ok p.regions

def patchDataSources (p : Page) (patch : Patch) : Except PatchError (List DataSource) :=
  let id := patch.targetId
  match patch.target, patch.operation, patch.payload with
  | .dataSource, .remove, _ =>
    updateId .dataSource DataSource.id id (fun _ => .ok none) p.dataSources
  | .dataSource, operation, some (.dataSource payload) =>
    updateId .dataSource DataSource.id id
      (fun s => change operation (s.merge payload) (DataSource.complete id payload)) p.dataSources
  | _, _, _ => .ok p.dataSources

def patchActions (p : Page) (patch : Patch) : Except PatchError (List Action) :=
  let id := patch.targetId
  match patch.target, patch.operation, patch.payload with
  | .action, .remove, _ => updateId .action Action.id id (fun _ => .ok none) p.actions
  | .action, operation, some (.action payload) =>
    updateId .action Action.id id
      (fun a => change operation (a.merge payload) (Action.complete id payload)) p.actions
  | _, _, _ => .ok p.actions

/-- Applies one patch; a patch that does not apply changes nothing. -/
def applyPatch (p : Page) (patch : Patch) : Except PatchError Page := do
  checkPayload patch
  return { p with
    regions := ← p.patchRegions patch
    dataSources := ← p.patchDataSources patch
    actions := ← p.patchActions patch }

/-- The first of the ids that stands there a second time. -/
def firstRepeated? (seen : List String) : List String → Option String
  | [] => none
  | id :: rest => if seen.contains id then some id else firstRepeated? (id :: seen) rest

def checkUnique (p : Page) : Except PatchError Unit :=
  match firstRepeated? [] (p.ids .component) with
  | some id => .error (.duplicateComponent id)
  | none => .ok ()

/-- Applies all patches of an overlay in order, then its constants. -/
def applyOverlay (base overlay : Page) : Except PatchError Page := do
  let tree ← overlay.patches.foldlM applyPatch base
  let tree := { tree with constants := tree.constants.extend overlay.constants }
  checkUnique tree
  return tree

end Page

end PageLayers
