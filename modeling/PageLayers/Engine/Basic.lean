import PageLayers.Engine.Config
import PageLayers.Registry.Snapshot
import PageLayers.Render.Cache
import PageLayers.Render.Evaluate

/-! The engine: it answers requests from the current snapshot, falls back on the blueprint where
overlays fail, and keeps what it has rendered. -/

namespace PageLayers

inductive EngineError where
  | registry (cause : RegistryError)
  | resolve (cause : ResolveError)
  deriving DecidableEq

def EngineError.message : EngineError → String
  | registry cause => s!"Registry error: {cause.message}"
  | resolve cause => s!"Resolve error: {cause.message}"

/-- A resolved page and the generation it was resolved from. It is degraded when it is the blueprint
alone because the overlays did not apply. -/
structure Resolution where
  page : ResolvedPage
  generation : Nat
  degraded : Bool
  deriving DecidableEq

def RequestLayers.resolution (r : RequestLayers) : Except ResolveError Resolution :=
  match r.resolve with
  | .ok page => .ok ⟨page, r.generation, false⟩
  | .error _ => r.resolveBlueprint.map fun page => ⟨page, r.generation, true⟩

def Snapshot.resolve (s : Snapshot) (ctx : RequestContext) : Except EngineError Resolution := do
  let layers ← (s.layersFor ctx).mapError .registry
  layers.resolution.mapError .resolve

structure PageEngine where
  config : EngineConfig
  snapshot : Snapshot
  cache : RenderCache RenderModel

namespace PageEngine

def ofSnapshot (config : EngineConfig) (s : Snapshot) : PageEngine :=
  ⟨config, s, .empty config.cacheCapacity⟩

/-- Starts an engine from the first snapshot of a store. -/
def load (config : EngineConfig) : Snapshot.Loading PageEngine := do
  return ofSnapshot config (← Snapshot.empty.refresh)

def clearCache (e : PageEngine) : PageEngine := { e with cache := e.cache.clear }

/-- A model with failed sources is not kept. -/
def remember (e : PageEngine) (key : CacheKey) (model : RenderModel) : PageEngine :=
  if model.hasSourceFailures then e else { e with cache := e.cache.insert key model }

/-- Renders the page of a request for a viewer, or takes it from the cache. -/
def renderListed {m : Type → Type} [Monad m] (listing : Listing) (ask : DataSource → m Reply)
    (ctx : RequestContext) (viewer : Viewer) (e : PageEngine) :
    m (Except EngineError RenderModel × PageEngine) :=
  match e.snapshot.resolve ctx with
  | .error cause => pure (.error cause, e)
  | .ok r => do
    let key : CacheKey := ⟨r.page.fingerprint, viewer⟩
    match e.cache.get? key with
    | some model => return (.ok model, e)
    | none =>
      let model ← r.page.evaluateListed listing e.config.evaluator ask viewer
      let model := { model with degraded := r.degraded }
      return (.ok model, e.remember key model)

/-- The same with the sources of each page in the order of their ids. -/
def render {m : Type → Type} [Monad m] (ask : DataSource → m Reply) (ctx : RequestContext)
    (viewer : Viewer) (e : PageEngine) : m (Except EngineError RenderModel × PageEngine) :=
  e.renderListed .byId ask ctx viewer

end PageEngine

end PageLayers
