import PageLayers.Page.LayerKey
import PageLayers.Page.Access
import PageLayers.Json.Value

/-! A page: regions with components, data sources, actions, constants, and for overlays patches. -/

namespace PageLayers

/-- Where a bound property reads from: a field that a source declares, or a path in its data. -/
inductive Binding where
  | contract (name : String)
  | path (source path : String)
  deriving DecidableEq

/-- The source that is read, for a declared field the text before the first dot. -/
def Binding.sourceId : Binding → String
  | contract name => Text.before '.' name
  | path source _ => source

inductive PropertyValue where
  | static (value : Json)
  | binding (binding : Binding)
  | expression (source : String)
  | action (id : String)
  deriving DecidableEq

inductive PropertyKind where
  | static
  | binding
  | expression
  | action
  deriving DecidableEq

namespace PropertyKind

def text : PropertyKind → String
  | static => "static"
  | binding => "binding"
  | expression => "expression"
  | action => "action"

def all : List PropertyKind := [static, binding, expression, action]

def ofText? (s : String) : Option PropertyKind := all.find? fun k => k.text = s

end PropertyKind

def PropertyValue.kind : PropertyValue → PropertyKind
  | static _ => .static
  | binding _ => .binding
  | expression _ => .expression
  | action _ => .action

structure Property where
  name : String
  value : PropertyValue
  deriving DecidableEq

structure HttpRequest where
  method : String
  url : String
  headers : OrderedMap String String
  body : Option Json
  timeoutMs : Option Nat
  deriving DecidableEq

/-- Where the data of a source comes from. -/
inductive Origin where
  | static (data : Json)
  | http (request : HttpRequest)
  | service (handler : String) (args : Json) (timeoutMs : Option Nat)
  deriving DecidableEq

namespace Origin

def kindText : Origin → String
  | static _ => "static"
  | http _ => "http"
  | service .. => "service"

def timeout? : Origin → Option Nat
  | static _ => none
  | http request => request.timeoutMs
  | service _ _ timeoutMs => timeoutMs

end Origin

/-- The contract maps the fields a source declares to paths in its data. -/
structure DataSource where
  id : String
  origin : Origin
  contract : OrderedMap String String
  access : Option AccessRule
  deriving DecidableEq

structure Component where
  id : String
  typeName : String
  space : String
  version : Option String
  props : List Property
  access : Option AccessRule
  deriving DecidableEq

structure Region where
  id : String
  components : List Component
  deriving DecidableEq

structure Action where
  id : String
  kind : String
  config : List Property
  access : Option AccessRule
  deriving DecidableEq

/-- What a patch is aimed at. -/
inductive Target where
  | region
  | component
  | dataSource
  | action
  deriving DecidableEq

namespace Target

def text : Target → String
  | region => "region"
  | component => "component"
  | dataSource => "dataSource"
  | action => "action"

def all : List Target := [region, component, dataSource, action]

end Target

inductive Operation where
  | merge
  | replace
  | remove
  deriving DecidableEq

namespace Operation

def text : Operation → String
  | merge => "merge"
  | replace => "replace"
  | remove => "remove"

def all : List Operation := [merge, replace, remove]

end Operation

/-- A component in part: what is not given keeps the value of the base. -/
structure ComponentPatch where
  id : Option String
  typeName : Option String
  space : Option String
  version : Option String
  props : List Property
  access : Option AccessRule
  deriving DecidableEq

structure DataSourcePatch where
  origin : Option Origin
  contract : OrderedMap String String
  access : Option AccessRule
  deriving DecidableEq

structure ActionPatch where
  kind : Option String
  config : List Property
  access : Option AccessRule
  deriving DecidableEq

inductive Payload where
  | region (components : List ComponentPatch)
  | component (patch : ComponentPatch)
  | dataSource (patch : DataSourcePatch)
  | action (patch : ActionPatch)
  deriving DecidableEq

def Payload.target : Payload → Target
  | region _ => .region
  | component _ => .component
  | dataSource _ => .dataSource
  | action _ => .action

structure Patch where
  target : Target
  targetId : String
  operation : Operation
  payload : Option Payload
  deriving DecidableEq

/-- A blueprint has a page id; an overlay names the page id that it extends and holds patches. -/
structure Page where
  kind : PageKind
  schemaVersion : String
  contentVersion : String
  moduleName : String
  route : String
  scope : Scope
  pageId : Option String
  extendsId : Option String
  regions : List Region
  dataSources : List DataSource
  actions : List Action
  constants : OrderedMap String Json
  patches : List Patch
  deriving DecidableEq

namespace Page

def layerKey (p : Page) : LayerKey := ⟨p.kind, p.moduleName, p.route, p.scope⟩

def components (p : Page) : List Component := p.regions.flatMap Region.components

def region? (p : Page) (id : String) : Option Region := p.regions.find? (·.id = id)

def component? (p : Page) (id : String) : Option Component := p.components.find? (·.id = id)

def dataSource? (p : Page) (id : String) : Option DataSource := p.dataSources.find? (·.id = id)

def action? (p : Page) (id : String) : Option Action := p.actions.find? (·.id = id)

/-- The ids a page declares for one kind of node, in order. -/
def ids (p : Page) : Target → List String
  | .region => p.regions.map Region.id
  | .component => p.components.map Component.id
  | .dataSource => p.dataSources.map DataSource.id
  | .action => p.actions.map Action.id

end Page

/-- The source and the path in its data that a declared field stands for. -/
structure FieldRef where
  source : String
  path : String
  deriving DecidableEq

/-- The declared fields of all sources, each under `source.field`. -/
abbrev ContractTable := OrderedMap String FieldRef

def Page.contractTable (p : Page) : ContractTable :=
  OrderedMap.ofList (p.dataSources.flatMap fun s =>
    s.contract.entries.map fun e => (s.id ++ "." ++ e.1, ⟨s.id, e.2⟩))

/-- What a binding reads; a declared field is looked up, a path stands for itself. -/
def ContractTable.target? (table : ContractTable) : Binding → Option FieldRef
  | .contract name => table.get? name
  | .path source path => some ⟨source, path⟩

end PageLayers
