import PageLayers.Overlay.Error

/-! Merging the parts of a node: what a patch gives stands above what the base has. -/

namespace PageLayers

/-- A property of a known name takes the new value in its place; a new one goes to the end. -/
def setProperty (p : Property) : List Property → List Property
  | [] => [p]
  | q :: rest => if q.name = p.name then ⟨q.name, p.value⟩ :: rest else q :: setProperty p rest

def mergeProps (base overrides : List Property) : List Property :=
  overrides.foldl (fun props p => setProperty p props) base

namespace Component

/-- The id of the base stays. -/
def merge (base : Component) (patch : ComponentPatch) : Component where
  id := base.id
  typeName := patch.typeName.getD base.typeName
  space := patch.space.getD base.space
  version := patch.version.or base.version
  props := mergeProps base.props patch.props
  access := patch.access.or base.access

/-- A component of its own needs a type and a namespace. -/
def complete (id : String) (patch : ComponentPatch) : Except PatchError Component :=
  match patch.typeName, patch.space with
  | some typeName, some space =>
    .ok ⟨id, typeName, space, patch.version, patch.props, patch.access⟩
  | _, _ => .error (.incomplete .component id .componentFields)

end Component

namespace DataSource

def merge (base : DataSource) (patch : DataSourcePatch) : DataSource where
  id := base.id
  origin := patch.origin.getD base.origin
  contract := base.contract.extend patch.contract
  access := patch.access.or base.access

def complete (id : String) (patch : DataSourcePatch) : Except PatchError DataSource :=
  match patch.origin with
  | some origin => .ok ⟨id, origin, patch.contract, patch.access⟩
  | none => .error (.incomplete .dataSource id .sourceKind)

end DataSource

namespace Action

def merge (base : Action) (patch : ActionPatch) : Action where
  id := base.id
  kind := patch.kind.getD base.kind
  config := mergeProps base.config patch.config
  access := patch.access.or base.access

def complete (id : String) (patch : ActionPatch) : Except PatchError Action :=
  match patch.kind with
  | some kind => .ok ⟨id, kind, patch.config, patch.access⟩
  | none => .error (.incomplete .action id .actionKind)

end Action

end PageLayers
