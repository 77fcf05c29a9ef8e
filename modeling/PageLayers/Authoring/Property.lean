import PageLayers.Authoring.Vocabulary
import PageLayers.Authoring.Access

/-! Properties, and the components and actions that hold them. -/

namespace PageLayers.Authoring

/-- What a bound property reads; a declared field is written `source.field`. -/
def binding (n : Node) (owner : String) : Read (Option Binding) :=
  match n.getText? ["contract", "bind"] with
  | some name =>
    if (Text.before '.' name).isEmpty || ((Text.after? '.' name).all String.isEmpty) then
      Read.reject .invalidValue owner
        ("contract alias " ++ tick name ++ " must look like `dataSourceId.field`")
    else return some (.contract name)
  | none => do
    let source ← require n "source" [] owner
    let path ← require n "path" [] owner
    return source.bind fun s => path.map (.path s)

/-- The kind that is named, or that the attributes show. -/
def propertyKind (n : Node) (owner : String) : Read (Option PropertyKind) :=
  match n.getText? ["kind"] with
  | some kind =>
    match PropertyKind.ofText? kind with
    | some k => return some k
    | none => Read.reject .unknownKind owner ("unknown prop kind " ++ tick kind)
  | none =>
    if n.has ["value"] then return some .static
    else if n.has ["contract", "bind", "source"] then return some .binding
    else if n.has ["expr", "expression"] then return some .expression
    else if n.has ["action"] then return some .action
    else
      Read.reject .missingAttribute owner
        "prop needs one of `value`, `contract`, `source`+`path`, `expr` or `action`"

/-- A value of any type that must be there. -/
def requireValue (n : Node) (name : String) (others : List String) (owner : String) :
    Read (Option Json) :=
  match n.get? (name :: others) with
  | some j => return some j
  | none => do
    let _ ← require n name others (some owner)
    return none

def propertyValue (n : Node) (owner : String) : PropertyKind → Read (Option PropertyValue)
  | .static => do
    let value ← requireValue n "value" [] owner
    return value.map .static
  | .binding => do
    let b ← binding n owner
    return b.map .binding
  | .expression => do
    let source ← require n "expr" ["expression"] owner
    return source.map .expression
  | .action => do
    let action ← require n "action" [] owner
    return action.map .action

def property (owner : String) (n : Node) : Read (Option Property) := do
  match ← require n "name" [] owner with
  | none => return none
  | some name =>
    let id := owner ++ "." ++ name
    match ← propertyKind n id with
    | none => return none
    | some kind =>
      let value ← propertyValue n id kind
      return value.map (Property.mk name)

/-- The properties among the children of a node; `tags` are the tags they have, and `holder` names
the kind of the node. -/
def properties (tags : List String) (holder owner : String) (n : Node) : Read (List Property) :=
  Read.collect read (flatten n.children)
where
  read (child : Node) : Read (Option Property) :=
    let tag := currentTag child.tag
    if tags.contains tag then property owner child
    else if tag = "access" then return none
    else Read.reject .unknownTag owner ("unexpected " ++ angle tag ++ " in " ++ holder)

/-- What components and component patches have in common. -/
def componentFields (n : Node) (owner : String) : Read ComponentPatch := do
  let props ← properties ["prop"] "component" owner n
  let access ← accessRule n owner
  return ⟨n.getText? ["id"], n.getText? ["type", "component"], n.getText? ["namespace", "ns"],
    n.getText? ["version"], props, access⟩

/-- A component without an id is named after its region and its place there. -/
def component (regionId : String) (n : Node) (index : Nat) : Read (Option Component) := do
  let id := (← keyPart n "id" [] none).getD (regionId ++ "." ++ toString index)
  let fields ← componentFields n id
  let typeName ← require n "type" ["component"] id
  let space ← require n "namespace" ["ns"] id
  return typeName.bind fun t => space.map fun s =>
    ⟨id, t, s, fields.version, fields.props, fields.access⟩

def region (n : Node) : Read (Option Region) := do
  match ← requireId n with
  | none => return none
  | some id =>
    let components ← Read.collect (fun (child, index) =>
      if currentTag child.tag = "component" then component id child index
      else Read.reject .unknownTag id ("unexpected " ++ angle child.tag ++ " in region"))
      (flatten n.children).zipIdx
    return some ⟨id, components⟩

/-- What actions and action patches have in common. -/
def actionFields (n : Node) (owner : String) : Read ActionPatch := do
  let config ← properties ["prop", "param"] "action" owner n
  let access ← accessRule n owner
  return ⟨n.getText? ["kind", "type"], config, access⟩

def action (n : Node) : Read (Option Action) := do
  match ← requireId n with
  | none => return none
  | some id =>
    let fields ← actionFields n id
    let kind ← require n "kind" ["type"] id
    return kind.map fun k => ⟨id, k, fields.config, fields.access⟩

end PageLayers.Authoring
