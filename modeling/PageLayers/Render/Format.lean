import PageLayers.Render.Model
import PageLayers.Json.Decode

/-! The JSON form of rendered pages, and reading it back. -/

namespace PageLayers

open Json (present ofMap recordFields? objectFields? tagged? nothing? string? list? map? word? any?)

def EvaluationError.toJson : EvaluationError → Json
  | timeout source afterMs =>
    .obj [("after_ms", .ofNat afterMs), ("kind", .str "timeout"), ("source_id", .str source)]
  | sourceFailed source fault =>
    .obj [("kind", .str "source_failed"), ("message", .str fault.message),
      ("source_id", .str source)]
  | expression node prop fault =>
    .obj [("kind", .str "expression"), ("message", .str fault.message), ("node", .str node),
      ("prop", .str prop)]

def EvaluationError.ofJson? (j : Json) : Option EvaluationError := do
  let (kind, body) ← tagged? "kind" j
  if kind = "timeout" then
    let fields ← recordFields? ["source_id", "after_ms"] body
    return timeout (← fields.required? "source_id" string?) (← fields.required? "after_ms" word?)
  else if kind = "source_failed" then
    let fields ← recordFields? ["source_id", "message"] body
    return sourceFailed (← fields.required? "source_id" string?)
      (.worded (← fields.required? "message" string?))
  else if kind = "expression" then
    let fields ← recordFields? ["node", "prop", "message"] body
    return expression (← fields.required? "node" string?) (← fields.required? "prop" string?)
      (.worded (← fields.required? "message" string?))
  else none

/-- The fields of a value stand among those of its property. -/
def RenderProperty.toJson (p : RenderProperty) : Json :=
  let name := Json.str p.name
  match p.value with
  | .ready value => .obj [("name", name), ("state", .str "ready"), ("value", value)]
  | .unavailable reason =>
    .obj [("name", name), ("reason", .str reason.message), ("state", .str "unavailable")]
  | .error fault => .obj [("message", .str fault.message), ("name", name), ("state", .str "error")]
  | .action id => .obj [("action", .str id), ("name", name), ("state", .str "action")]

/-- A value on its own. -/
def RenderValue.toJson : RenderValue → Json
  | ready value => .obj [("state", .str "ready"), ("value", value)]
  | unavailable reason => .obj [("reason", .str reason.message), ("state", .str "unavailable")]
  | error fault => .obj [("message", .str fault.message), ("state", .str "error")]
  | action id => .obj [("action", .str id), ("state", .str "action")]

def RenderProperty.ofJson? (j : Json) : Option RenderProperty := do
  let fields ← objectFields? ["name", "state", "value", "reason", "message", "action"] j
  let name ← fields.required? "name" string?
  let state ← fields.required? "state" (Json.tag? ["ready", "unavailable", "error", "action"])
  let value ←
    if state = "ready" then RenderValue.ready <$> fields.required? "value" any?
    else if state = "unavailable" then
      (.unavailable <| .worded ·) <$> fields.required? "reason" string?
    else if state = "error" then (.error <| .worded ·) <$> fields.required? "message" string?
    else RenderValue.action <$> fields.required? "action" string?
  return ⟨name, value⟩

def renderedJson (props : List RenderProperty) : Json := .arr (props.map RenderProperty.toJson)

def RenderComponent.toJson (c : RenderComponent) : Json :=
  present [("id", some (.str c.id)), ("namespace", some (.str c.space)),
    ("props", some (renderedJson c.props)), ("type", some (.str c.typeName)),
    ("version", c.version.map .str)]

def RenderComponent.ofJson? (j : Json) : Option RenderComponent := do
  let fields ← recordFields? ["id", "type", "namespace", "version", "props"] j
  return ⟨← fields.required? "id" string?, ← fields.required? "type" string?,
    ← fields.required? "namespace" string?, ← fields.optional? "version" string?,
    ← fields.required? "props" (list? RenderProperty.ofJson?)⟩

def RenderRegion.toJson (r : RenderRegion) : Json :=
  .obj [("components", .arr (r.components.map RenderComponent.toJson)), ("id", .str r.id)]

def RenderRegion.ofJson? (j : Json) : Option RenderRegion := do
  let fields ← recordFields? ["id", "components"] j
  return ⟨← fields.required? "id" string?,
    ← fields.required? "components" (list? RenderComponent.ofJson?)⟩

def RenderAction.toJson (a : RenderAction) : Json :=
  .obj [("config", renderedJson a.config), ("id", .str a.id), ("kind", .str a.kind)]

def RenderAction.ofJson? (j : Json) : Option RenderAction := do
  let fields ← recordFields? ["id", "kind", "config"] j
  return ⟨← fields.required? "id" string?, ← fields.required? "kind" string?,
    ← fields.required? "config" (list? RenderProperty.ofJson?)⟩

def SourceStatus.toJson : SourceStatus → Json
  | ready => .obj [("status", .str "ready")]
  | denied => .obj [("status", .str "denied")]
  | failed message => .obj [("message", .str message), ("status", .str "failed")]
  | timedOut afterMs => .obj [("after_ms", .ofNat afterMs), ("status", .str "timed_out")]

def SourceStatus.ofJson? (j : Json) : Option SourceStatus := do
  let (status, body) ← tagged? "status" j
  if status = "ready" then (nothing? body).map fun _ => ready
  else if status = "denied" then (nothing? body).map fun _ => denied
  else if status = "failed" then
    let fields ← recordFields? ["message"] body
    return failed (← fields.required? "message" string?)
  else if status = "timed_out" then
    let fields ← recordFields? ["after_ms"] body
    return timedOut (← fields.required? "after_ms" word?)
  else none

/-- That a page is not degraded is left out. -/
def RenderModel.toJson (m : RenderModel) : Json :=
  present [("actions", some (.arr (m.actions.map RenderAction.toJson))),
    ("constants", some (ofMap id m.constants)),
    ("degraded", if m.degraded then some (.bool true) else none),
    ("errors", some (.arr (m.errors.map EvaluationError.toJson))),
    ("fingerprint", some (.str m.fingerprint)), ("module", some (.str m.moduleName)),
    ("pageId", some ((m.pageId.map Json.str).getD .null)),
    ("regions", some (.arr (m.regions.map RenderRegion.toJson))),
    ("route", some (.str m.route)), ("sources", some (ofMap SourceStatus.toJson m.sources))]

def RenderModel.ofJson? (j : Json) : Option RenderModel := do
  let fields ← recordFields? ["pageId", "module", "route", "fingerprint", "regions", "actions",
    "constants", "sources", "errors", "degraded"] j
  return ⟨← fields.optional? "pageId" string?, ← fields.required? "module" string?,
    ← fields.required? "route" string?, ← fields.required? "fingerprint" string?,
    ← fields.required? "regions" (list? RenderRegion.ofJson?),
    ← fields.required? "actions" (list? RenderAction.ofJson?),
    ← fields.required? "constants" (map? any?),
    ← fields.required? "sources" (map? SourceStatus.ofJson?),
    ← fields.required? "errors" (list? EvaluationError.ofJson?),
    ← fields.defaulted? "degraded" false Json.bool?⟩

end PageLayers
