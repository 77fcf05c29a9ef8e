import PageLayers.Authoring.Property
import PageLayers.Text.CaseMap

/-! Data sources: where their data comes from and the fields they declare. -/

namespace PageLayers.Authoring

/-- A time limit in milliseconds. -/
def timeout (n : Node) (owner : String) : Read (Option Nat) :=
  match n.get? ["timeoutMs", "timeout"] with
  | none => return none
  | some j =>
    match j.asNat? with
    | some ms => return some ms
    | none =>
      Read.reject .invalidValue owner
        ("timeoutMs must be a non-negative integer, got " ++ j.text)

/-- Header values that are no texts stand as they are written. -/
def headers (n : Node) (owner : String) : Read (OrderedMap String String) :=
  match n.get? ["headers"] with
  | none => return ∅
  | some (.obj fields) =>
    return OrderedMap.ofList (fields.map fun (k, j) => (k, j.asString?.getD j.text))
  | some j => do
    Read.report .invalidValue owner ("headers must be an object, got " ++ j.text)
    return ∅

/-- The request is described by a `request` child or by the attributes of the source itself. -/
def httpOrigin (n : Node) (owner : String) : Read (Option Origin) := do
  let node := (n.children.find? fun c => c.tag = "request").getD n
  match ← require node "url" ["endpoint"] owner with
  | none => return none
  | some url =>
    let headers ← headers node owner
    let timeoutMs ← timeout node owner
    let method := ((node.getText? ["method"]).map Text.upper).getD "GET"
    return some (.http ⟨method, url, headers, node.get? ["body"], timeoutMs⟩)

def serviceOrigin (n : Node) (owner : String) : Read (Option Origin) := do
  match ← require n "handler" ["service"] owner with
  | none => return none
  | some handler =>
    let timeoutMs ← timeout n owner
    return some (.service handler ((n.get? ["args", "params"]).getD (.obj [])) timeoutMs)

def origin (n : Node) (owner : String) : Read (Option Origin) := do
  match ← require n "kind" ["type"] owner with
  | none => return none
  | some kind =>
    match originKind? kind with
    | none => Read.reject .unknownKind owner ("unknown data source kind " ++ tick kind)
    | some .static =>
      let data ← requireValue n "data" ["value"] owner
      return data.map .static
    | some .http => httpOrigin n owner
    | some .service => serviceOrigin n owner

/-- The fields that the `contract` attribute declares. -/
def contractFields (owner : String) : Option Json → Read (List (String × String))
  | none => return []
  | some (.obj fields) => Read.collect field fields
  | some j => do
    Read.report .invalidValue owner ("contract must be an object, got " ++ j.text)
    return []
where
  field (entry : String × Json) : Read (Option (String × String)) :=
    match entry.2.asString? with
    | some path => return some (entry.1, path)
    | none =>
      Read.reject .invalidValue owner
        ("contract field " ++ tick entry.1 ++ " must map to a path string")

/-- A field that a child declares; its path is its name unless another is given. -/
def contractChild (owner : String) (n : Node) : Read (Option (String × String)) :=
  if n.tag = "field" ∨ n.tag = "alias" then do
    let name ← require n "name" [] owner
    let path := (n.getText? ["path"]).or name
    return name.bind fun name => path.map (name, ·)
  else if n.tag = "access" ∨ n.tag = "request" then return none
  else Read.reject .unknownTag owner ("unexpected " ++ angle n.tag ++ " in data source")

/-- All declared fields; those of the children stand above those of the attribute. -/
def contract (n : Node) (owner : String) : Read (OrderedMap String String) := do
  let fields ← contractFields owner (n.get? ["contract"])
  let children ← Read.collect (contractChild owner) (flatten n.children)
  return OrderedMap.ofList (fields ++ children)

def dataSource (n : Node) : Read (Option DataSource) := do
  match ← requireId n with
  | none => return none
  | some id =>
    let origin ← origin n id
    let contract ← contract n id
    let access ← accessRule n id
    return origin.map fun o => ⟨id, o, contract, access⟩

end PageLayers.Authoring
