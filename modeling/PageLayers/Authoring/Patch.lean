import PageLayers.Authoring.Source

/-! Patches of overlays. -/

namespace PageLayers.Authoring

def regionPayload (n : Node) (owner : String) : Read Payload := do
  let components ← Read.collect read (flatten n.children)
  return .region components
where
  read (child : Node) : Read (Option ComponentPatch) := do
    if currentTag child.tag ≠ "component" then
      Read.reject .unknownTag owner ("unexpected " ++ angle child.tag ++ " in region payload")
    else
      match ← require child "id" [] owner with
      | none => return none
      | some id => some <$> componentFields child id

/-- The origin of a source is patched where the payload names a kind. -/
def dataSourcePayload (n : Node) (owner : String) : Read (Option Payload) := do
  let finish (origin : Option Origin) : Read (Option Payload) := do
    let contract ← contract n owner
    let access ← accessRule n owner
    return some (.dataSource ⟨origin, contract, access⟩)
  if n.has ["kind", "type"] then
    match ← origin n owner with
    | none => return none
    | some o => finish (some o)
  else finish none

def payload (n : Node) (target : Target) (owner : String) : Read (Option Payload) := do
  if target? (currentTag n.tag) ≠ some target then
    Read.reject .malformedNode owner
      ("payload " ++ angle n.tag ++ " does not match patch target " ++ tick target.text)
  else
    match target with
    | .region => some <$> regionPayload n owner
    | .component => do
      let patch ← componentFields n owner
      return some (.component patch)
    | .dataSource => dataSourcePayload n owner
    | .action => do
      let patch ← actionFields n owner
      return some (.action patch)

/-- How a report starts a sentence with an operation. -/
def operationTitle : Operation → String
  | .merge => "Merge"
  | .replace => "Replace"
  | .remove => "Remove"

/-- A patch that removes has no payload, any other has one. -/
def patchBody (n : Node) (target : Target) (owner : String) (operation : Operation) :
    Read (Option Patch) := do
  match operation, flatten n.children with
  | .remove, [] => return some ⟨target, owner, .remove, none⟩
  | .remove, _ => Read.reject .malformedNode owner "remove patches carry no payload"
  | op, [single] => do
    let body ← payload single target owner
    return body.map fun b => ⟨target, owner, op, some b⟩
  | op, _ =>
    Read.reject .malformedNode owner
      (operationTitle op ++ " patch needs exactly one " ++ angle target.text ++ " payload")

def patch (n : Node) : Read (Option Patch) := do
  match ← require n "id" ["targetId"] none with
  | none => return none
  | some id =>
    match ← require n "target" [] id with
    | none => return none
    | some target =>
      match ← require n "op" ["operation"] id with
      | none => return none
      | some operation =>
        match target? target, operation? operation with
        | none, _ => Read.reject .unknownKind id ("unknown patch target " ++ tick target)
        | some _, none => Read.reject .unknownKind id ("unknown patch operation " ++ tick operation)
        | some t, some o => patchBody n t id o

end PageLayers.Authoring
