import PageLayers.Render.Source
import PageLayers.Overlay.Resolved
import PageLayers.Expression.Eval
import PageLayers.Ordered.Sort
import PageLayers.Json.Path

/-! Rendering a resolved page for a viewer. Each property stands for itself: what fails in one place
shows there and wherever it is read, and nowhere else. -/

namespace PageLayers

/-- The page without the components and actions that the viewer may not see. -/
def Page.visibleTo (p : Page) (viewer : Viewer) : Page :=
  { p with
    regions := p.regions.map fun r =>
      ⟨r.id, r.components.filter fun c => viewer.sees c.access⟩
    actions := p.actions.filter fun a => viewer.sees a.access }

/-- All properties, those of components before those of actions. -/
def Page.properties (p : Page) : List Property :=
  p.components.flatMap Component.props ++ p.actions.flatMap Action.config

/-- The source that a binding reads, be its field declared or not. -/
def ContractTable.sourceOf (table : ContractTable) (b : Binding) : String :=
  match table.target? b with
  | some target => target.source
  | none => b.sourceId

/-- The ids of the sources that the properties of a page read. -/
def Page.boundSources (table : ContractTable) (p : Page) : OrderedSet String :=
  OrderedSet.ofList <| p.properties.filterMap fun q =>
    match q.value with
    | .binding b => some (table.sourceOf b)
    | _ => none

abbrev SourceResults := OrderedMap String SourceResult

/-- A way to go through the results of sources. Each of them comes once, in any order. -/
structure Listing where
  list : SourceResults → List (String × SourceResult)
  perm : ∀ results, (list results).Perm results.entries

/-- The results in the order of the ids of their sources. -/
def Listing.byId : Listing := ⟨OrderedMap.entries, fun _ => .refl _⟩

/-- What becomes of each source of the given ids, in order. -/
def Page.loadSources {m : Type → Type} [Monad m] (config : EvaluatorConfig)
    (ask : DataSource → m Reply) (viewer : Viewer) (p : Page) (ids : OrderedSet String) :
    m SourceResults := do
  let results ← ids.members.mapM fun id => do return (id, ← p.loadSource config ask viewer id)
  return OrderedMap.ofList results

/-- What the properties of a page are evaluated against. -/
structure RenderContext where
  contracts : ContractTable
  results : SourceResults
  actionIds : List String
  constants : OrderedMap String Json
  gasLimit : Nat

namespace RenderContext

def fieldValue (ctx : RenderContext) (target : FieldRef) : RenderValue :=
  match ctx.results.get? target.source with
  | some (.ready data) =>
    match data.lookupPath target.path with
    | some value => .ready value
    | none => .unavailable (.missingField target.path)
  | some .denied => .unavailable .accessDenied
  | some (.failed fault) => .unavailable (.sourceError (.sourceFailed target.source fault))
  | some (.timedOut afterMs) => .unavailable (.sourceError (.timeout target.source afterMs))
  | none => .unavailable (.notLoaded target.source)

def bindingValue (ctx : RenderContext) (b : Binding) : RenderValue :=
  match ctx.contracts.target? b with
  | some target => ctx.fieldValue target
  | none => .unavailable (.noContractField b.sourceId)

/-- The bindings among the properties of a node, with what they read. -/
def bindings (ctx : RenderContext) (props : List Property) : List (String × RenderValue) :=
  props.filterMap fun q =>
    match q.value with
    | .binding b => some (q.name, ctx.bindingValue b)
    | _ => none

/-- Expressions see the bindings of their node that have a value, and the constants of the page as
`const`. -/
def namesInScope (ctx : RenderContext) (bound : List (String × RenderValue)) :
    OrderedMap String Json :=
  let ready := bound.filterMap fun b => b.2.value?.map (b.1, ·)
  (OrderedMap.ofList ready).insert "const" (.obj ctx.constants.entries)

/-- An expression that mentions a binding without a value has none either. -/
def expressionValue (ctx : RenderContext) (bound : List (String × RenderValue))
    (source : String) : RenderValue :=
  match Expr.parse source with
  | .error e => .error (.evaluation e)
  | .ok e =>
    let isUnavailable (name : String) := bound.any fun b => b.1 = name ∧ b.2.value? = none
    match e.roots.members.find? isUnavailable with
    | some name => .unavailable (.readsUnavailable name)
    | none =>
      match e.eval (ctx.namesInScope bound) ctx.gasLimit with
      | .ok value => .ready value
      | .error e => .error (.evaluation e)

def value (ctx : RenderContext) (bound : List (String × RenderValue)) :
    PropertyValue → RenderValue
  | .static value => .ready value
  | .binding b => ctx.bindingValue b
  | .action id =>
    if ctx.actionIds.contains id then .action id else .unavailable (.hiddenAction id)
  | .expression source => ctx.expressionValue bound source

/-- The properties of one node. -/
def properties (ctx : RenderContext) (props : List Property) : List RenderProperty :=
  let bound := ctx.bindings props
  props.map fun q => ⟨q.name, ctx.value bound q.value⟩

def component (ctx : RenderContext) (c : Component) : RenderComponent :=
  ⟨c.id, c.typeName, c.space, c.version, ctx.properties c.props⟩

def region (ctx : RenderContext) (r : Region) : RenderRegion :=
  ⟨r.id, r.components.map ctx.component⟩

def action (ctx : RenderContext) (a : Action) : RenderAction :=
  ⟨a.id, a.kind, ctx.properties a.config⟩

end RenderContext

/-- The errors that the properties of a node show. -/
def RenderProperty.errors (node : String) (props : List RenderProperty) : List EvaluationError :=
  props.filterMap fun q =>
    match q.value with
    | .error fault => some (.expression node q.name fault)
    | _ => none

/-- The model of a visible page once its sources are loaded, with the results as they are listed.
Errors stand in the order of their texts; those of one text keep the order in which they come. -/
def RenderModel.ofResults (fingerprint : String) (visible : Page) (ctx : RenderContext)
    (listed : List (String × SourceResult)) : RenderModel :=
  let regions := visible.regions.map ctx.region
  let actions := visible.actions.map ctx.action
  let nodeErrors :=
    ((regions.flatMap RenderRegion.components).flatMap fun c => RenderProperty.errors c.id c.props)
      ++ actions.flatMap fun a => RenderProperty.errors a.id a.config
  let sourceErrors := listed.filterMap fun e => e.2.error? e.1
  { pageId := visible.pageId
    moduleName := visible.moduleName
    route := visible.route
    fingerprint
    regions
    actions
    constants := visible.constants
    sources := OrderedMap.ofList (listed.map fun e => (e.1, e.2.status e.1))
    errors := sortBy EvaluationError.message (nodeErrors ++ sourceErrors)
    degraded := false }

namespace ResolvedPage

/-- The context of a page's properties for a viewer, given what became of the sources. -/
def contextFor (r : ResolvedPage) (gasLimit : Nat) (visible : Page) (results : SourceResults) :
    RenderContext where
  contracts := r.contracts
  results := results
  actionIds := visible.actions.map Action.id
  constants := visible.constants
  gasLimit := gasLimit

/-- Renders a page: loads the sources that its visible part reads, then evaluates that part and goes
through what became of the sources. -/
def evaluateListed {m : Type → Type} [Monad m] (listing : Listing) (config : EvaluatorConfig)
    (ask : DataSource → m Reply) (r : ResolvedPage) (viewer : Viewer) : m RenderModel := do
  let visible := r.page.visibleTo viewer
  let ids := visible.boundSources r.contracts
  let results ← visible.loadSources config ask viewer ids
  let ctx := r.contextFor config.gasLimit visible results
  return .ofResults r.fingerprint visible ctx (listing.list results)

/-- Renders a page with its sources in the order of their ids. -/
def evaluate {m : Type → Type} [Monad m] (config : EvaluatorConfig) (ask : DataSource → m Reply)
    (r : ResolvedPage) (viewer : Viewer) : m RenderModel :=
  r.evaluateListed .byId config ask viewer

end ResolvedPage

end PageLayers
