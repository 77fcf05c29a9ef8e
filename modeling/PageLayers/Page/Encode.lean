import PageLayers.Page.Basic
import PageLayers.Json.Decode

/-! The JSON form of pages. The fields of every object stand in ascending order; what is not set is
left out. -/

namespace PageLayers

open Json (present ofMap ofSet)

/-- A text that is not set is left out. -/
def optionalJson? (s : Option String) : Option Json := s.map .str

def Scope.toJson (s : Scope) : Json :=
  present [("locale", optionalJson? s.locale), ("role", optionalJson? s.role),
    ("tenant", optionalJson? s.tenant), ("variant", optionalJson? s.variant)]

def LayerKey.toJson (k : LayerKey) : Json := .str k.text

def AccessRule.toJson (r : AccessRule) : Json :=
  present [("allow", r.allow.map ofSet), ("deny", r.deny.map ofSet),
    ("requires", if r.requires.isEmpty then none else some (ofSet r.requires))]

def Binding.toJson : Binding → Json
  | contract name => .obj [("contract", .str name)]
  | path source steps => .obj [("path", .str steps), ("source", .str source)]

def Property.toJson (p : Property) : Json :=
  let kind := .str p.value.kind.text
  let name := .str p.name
  match p.value with
  | .static value => .obj [("kind", kind), ("name", name), ("value", value)]
  | .binding b => .obj [("binding", b.toJson), ("kind", kind), ("name", name)]
  | .expression source => .obj [("kind", kind), ("name", name), ("source", .str source)]
  | .action id => .obj [("action", .str id), ("kind", kind), ("name", name)]

def propertiesJson (props : List Property) : Json := .arr (props.map Property.toJson)

/-- A map that is empty is left out. -/
def textMap? (m : OrderedMap String String) : Option Json :=
  if m.isEmpty then none else some (ofMap .str m)

def HttpRequest.toJson (r : HttpRequest) : Json :=
  present [("body", r.body), ("headers", textMap? r.headers), ("method", some (.str r.method)),
    ("timeoutMs", r.timeoutMs.map .ofNat), ("url", some (.str r.url))]

def Origin.toJson (o : Origin) : Json :=
  let kind := Json.str o.kindText
  match o with
  | .static data => .obj [("data", data), ("kind", kind)]
  | .http request => .obj [("kind", kind), ("request", request.toJson)]
  | .service handler args timeoutMs =>
    present [("args", some args), ("handler", some (.str handler)), ("kind", some kind),
      ("timeoutMs", timeoutMs.map .ofNat)]

/-- The fields of the origin stand among those of the source itself. -/
def DataSource.toJson (s : DataSource) : Json :=
  let access := s.access.map AccessRule.toJson
  let contract := textMap? s.contract
  let id := some (Json.str s.id)
  let kind := some (Json.str s.origin.kindText)
  match s.origin with
  | .static data =>
    present [("access", access), ("contract", contract), ("data", some data), ("id", id),
      ("kind", kind)]
  | .http request =>
    present [("access", access), ("contract", contract), ("id", id), ("kind", kind),
      ("request", some request.toJson)]
  | .service handler args timeoutMs =>
    present [("access", access), ("args", some args), ("contract", contract),
      ("handler", some (.str handler)), ("id", id), ("kind", kind),
      ("timeoutMs", timeoutMs.map .ofNat)]

def Component.toJson (c : Component) : Json :=
  present [("access", c.access.map AccessRule.toJson), ("id", some (.str c.id)),
    ("namespace", some (.str c.space)), ("props", some (propertiesJson c.props)),
    ("type", some (.str c.typeName)), ("version", optionalJson? c.version)]

def Region.toJson (r : Region) : Json :=
  .obj [("components", .arr (r.components.map Component.toJson)), ("id", .str r.id)]

def Action.toJson (a : Action) : Json :=
  present [("access", a.access.map AccessRule.toJson), ("config", some (propertiesJson a.config)),
    ("id", some (.str a.id)), ("kind", some (.str a.kind))]

/-- `node` names the kind of the payload where the patch is one. -/
def ComponentPatch.toJson (node : Option String) (c : ComponentPatch) : Json :=
  present [("access", c.access.map AccessRule.toJson), ("id", optionalJson? c.id),
    ("namespace", optionalJson? c.space), ("node", optionalJson? node),
    ("props", some (propertiesJson c.props)), ("type", optionalJson? c.typeName),
    ("version", optionalJson? c.version)]

def Payload.toJson (p : Payload) : Json :=
  let node := p.target.text
  match p with
  | .region components =>
    .obj [("components", .arr (components.map (ComponentPatch.toJson none))), ("node", .str node)]
  | .component patch => patch.toJson node
  | .dataSource patch =>
    present [("access", patch.access.map AccessRule.toJson), ("contract", textMap? patch.contract),
      ("node", some (.str node)), ("spec", patch.origin.map Origin.toJson)]
  | .action patch =>
    present [("access", patch.access.map AccessRule.toJson),
      ("config", some (propertiesJson patch.config)), ("kind", optionalJson? patch.kind),
      ("node", some (.str node))]

def Patch.toJson (p : Patch) : Json :=
  present [("operation", some (.str p.operation.text)), ("payload", p.payload.map Payload.toJson),
    ("target", some (.str p.target.text)), ("targetId", some (.str p.targetId))]

def Page.toJson (p : Page) : Json :=
  present [("actions", some (.arr (p.actions.map Action.toJson))),
    ("constants", some (ofMap id p.constants)),
    ("contentVersion", some (.str p.contentVersion)),
    ("dataSources", some (.arr (p.dataSources.map DataSource.toJson))),
    ("extends", optionalJson? p.extendsId), ("kind", some (.str p.kind.text)),
    ("module", some (.str p.moduleName)), ("pageId", optionalJson? p.pageId),
    ("patches", some (.arr (p.patches.map Patch.toJson))),
    ("regions", some (.arr (p.regions.map Region.toJson))), ("route", some (.str p.route)),
    ("schemaVersion", some (.str p.schemaVersion)), ("scope", some p.scope.toJson)]

def FieldRef.toJson (f : FieldRef) : Json := .obj [("path", .str f.path), ("source", .str f.source)]

def ContractTable.toJson (t : ContractTable) : Json := .obj [("entries", ofMap FieldRef.toJson t)]

end PageLayers
