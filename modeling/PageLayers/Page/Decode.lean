import PageLayers.Page.Basic
import PageLayers.Json.Decode

/-! Reading pages from their JSON form. A field that has a default may be absent, and only a field
that may be unset may be null; fields that are not known are passed over. -/

namespace PageLayers

open Json (recordFields? objectFields? string? list? map? set? word? any? alternative? tagged?)

def Scope.ofJson? (j : Json) : Option Scope := do
  let fields ← recordFields? ["tenant", "role", "variant", "locale"] j
  return ⟨← fields.optional? "tenant" string?, ← fields.optional? "role" string?,
    ← fields.optional? "variant" string?, ← fields.optional? "locale" string?⟩

def PageKind.ofJson? (j : Json) : Option PageKind := (alternative? j).bind PageKind.ofText?

def LayerKey.ofJson? (j : Json) : Option LayerKey :=
  (string? j).bind fun s => (LayerKey.parse s).toOption

def AccessRule.ofJson? (j : Json) : Option AccessRule := do
  let fields ← recordFields? ["allow", "deny", "requires"] j
  return ⟨← fields.optional? "allow" set?, ← fields.optional? "deny" set?,
    ← fields.defaulted? "requires" ∅ set?⟩

/-- Read as a declared field where that is possible, else as a path. -/
def Binding.ofJson? (j : Json) : Option Binding :=
  let contract := do
    let fields ← recordFields? ["contract"] j
    return Binding.contract (← fields.required? "contract" string?)
  let path := do
    let fields ← recordFields? ["source", "path"] j
    return Binding.path (← fields.required? "source" string?) (← fields.required? "path" string?)
  contract.or path

def Property.ofJson? (j : Json) : Option Property := do
  let fields ← objectFields? ["name", "kind", "value", "binding", "source", "action"] j
  let name ← fields.required? "name" string?
  let kind ← fields.required? "kind" (Json.tag? (PropertyKind.all.map PropertyKind.text))
  let value ← match ← PropertyKind.ofText? kind with
    | .static => PropertyValue.static <$> fields.required? "value" any?
    | .binding => PropertyValue.binding <$> fields.required? "binding" Binding.ofJson?
    | .expression => PropertyValue.expression <$> fields.required? "source" string?
    | .action => PropertyValue.action <$> fields.required? "action" string?
  return ⟨name, value⟩

def HttpRequest.ofJson? (j : Json) : Option HttpRequest := do
  let fields ← recordFields? ["method", "url", "headers", "body", "timeoutMs"] j
  return ⟨← fields.defaulted? "method" "GET" string?, ← fields.required? "url" string?,
    ← fields.defaulted? "headers" ∅ (map? string?), ← fields.optional? "body" any?,
    ← fields.optional? "timeoutMs" word?⟩

/-- Reads an origin from fields of which `kind` names its kind. -/
def Origin.ofFields? (fields : Json.Fields) : Option Origin := do
  let kind ← fields.required? "kind" (Json.tag? ["static", "http", "service"])
  if kind = "static" then return .static (← fields.required? "data" any?)
  else if kind = "http" then return .http (← fields.required? "request" HttpRequest.ofJson?)
  else
    return .service (← fields.required? "handler" string?) (← fields.defaulted? "args" .null any?)
      (← fields.optional? "timeoutMs" word?)

def Origin.fieldNames : List String := ["kind", "data", "request", "handler", "args", "timeoutMs"]

def Origin.ofJson? (j : Json) : Option Origin := objectFields? fieldNames j >>= ofFields?

def DataSource.ofJson? (j : Json) : Option DataSource := do
  let fields ← objectFields? ("id" :: "contract" :: "access" :: Origin.fieldNames) j
  return ⟨← fields.required? "id" string?, ← Origin.ofFields? fields,
    ← fields.defaulted? "contract" ∅ (map? string?),
    ← fields.optional? "access" AccessRule.ofJson?⟩

def Component.ofJson? (j : Json) : Option Component := do
  let fields ← recordFields? ["id", "type", "namespace", "version", "props", "access"] j
  return ⟨← fields.required? "id" string?, ← fields.required? "type" string?,
    ← fields.required? "namespace" string?, ← fields.optional? "version" string?,
    ← fields.defaulted? "props" [] (list? Property.ofJson?),
    ← fields.optional? "access" AccessRule.ofJson?⟩

def Region.ofJson? (j : Json) : Option Region := do
  let fields ← recordFields? ["id", "components"] j
  return ⟨← fields.required? "id" string?,
    ← fields.defaulted? "components" [] (list? Component.ofJson?)⟩

def Action.ofJson? (j : Json) : Option Action := do
  let fields ← recordFields? ["id", "kind", "config", "access"] j
  return ⟨← fields.required? "id" string?, ← fields.required? "kind" string?,
    ← fields.defaulted? "config" [] (list? Property.ofJson?),
    ← fields.optional? "access" AccessRule.ofJson?⟩

def Target.ofText? (s : String) : Option Target := Target.all.find? fun t => t.text = s

def Operation.ofText? (s : String) : Option Operation := Operation.all.find? fun o => o.text = s

def ComponentPatch.ofJson? (j : Json) : Option ComponentPatch := do
  let fields ← recordFields? ["id", "type", "namespace", "version", "props", "access"] j
  return ⟨← fields.optional? "id" string?, ← fields.optional? "type" string?,
    ← fields.optional? "namespace" string?, ← fields.optional? "version" string?,
    ← fields.defaulted? "props" [] (list? Property.ofJson?),
    ← fields.optional? "access" AccessRule.ofJson?⟩

def DataSourcePatch.ofJson? (j : Json) : Option DataSourcePatch := do
  let fields ← recordFields? ["spec", "contract", "access"] j
  return ⟨← fields.optional? "spec" Origin.ofJson?,
    ← fields.defaulted? "contract" ∅ (map? string?),
    ← fields.optional? "access" AccessRule.ofJson?⟩

def ActionPatch.ofJson? (j : Json) : Option ActionPatch := do
  let fields ← recordFields? ["kind", "config", "access"] j
  return ⟨← fields.optional? "kind" string?,
    ← fields.defaulted? "config" [] (list? Property.ofJson?),
    ← fields.optional? "access" AccessRule.ofJson?⟩

def Payload.ofJson? (j : Json) : Option Payload := do
  let (node, body) ← tagged? "node" j
  match ← Target.ofText? node with
  | .region => do
    let fields ← recordFields? ["components"] body
    return .region (← fields.defaulted? "components" [] (list? ComponentPatch.ofJson?))
  | .component => .component <$> ComponentPatch.ofJson? body
  | .dataSource => .dataSource <$> DataSourcePatch.ofJson? body
  | .action => .action <$> ActionPatch.ofJson? body

def Patch.ofJson? (j : Json) : Option Patch := do
  let fields ← recordFields? ["target", "targetId", "operation", "payload"] j
  return ⟨← fields.required? "target" (alternative? · >>= Target.ofText?),
    ← fields.required? "targetId" string?,
    ← fields.required? "operation" (alternative? · >>= Operation.ofText?),
    ← fields.optional? "payload" Payload.ofJson?⟩

def Page.ofJson? (j : Json) : Option Page := do
  let fields ← recordFields? ["kind", "schemaVersion", "contentVersion", "module", "route", "scope",
    "pageId", "extends", "regions", "dataSources", "actions", "constants", "patches"] j
  return ⟨← fields.required? "kind" PageKind.ofJson?, ← fields.required? "schemaVersion" string?,
    ← fields.required? "contentVersion" string?, ← fields.required? "module" string?,
    ← fields.required? "route" string?, ← fields.defaulted? "scope" .unset Scope.ofJson?,
    ← fields.optional? "pageId" string?, ← fields.optional? "extends" string?,
    ← fields.defaulted? "regions" [] (list? Region.ofJson?),
    ← fields.defaulted? "dataSources" [] (list? DataSource.ofJson?),
    ← fields.defaulted? "actions" [] (list? Action.ofJson?),
    ← fields.defaulted? "constants" ∅ (map? any?),
    ← fields.defaulted? "patches" [] (list? Patch.ofJson?)⟩

def FieldRef.ofJson? (j : Json) : Option FieldRef := do
  let fields ← recordFields? ["source", "path"] j
  return ⟨← fields.required? "source" string?, ← fields.required? "path" string?⟩

def ContractTable.ofJson? (j : Json) : Option ContractTable := do
  let fields ← recordFields? ["entries"] j
  fields.required? "entries" (map? FieldRef.ofJson?)

end PageLayers
