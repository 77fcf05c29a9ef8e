import PageLayers.Store.Call
import PageLayers.Registry.Request
import PageLayers.Overlay.Resolved
import PageLayers.Ordered.Sort

/-! Snapshots of all live layers. A request is answered from one snapshot, and a refresh makes a
whole new one. -/

namespace PageLayers

inductive RegistryError where
  | layerNotFound (moduleName route : String)
  | danglingPointer (key : LayerKey) (id : String)
  | checksumMismatch (key : LayerKey) (checksum : String)
  | store (cause : StoreError)
  deriving DecidableEq

def RegistryError.message : RegistryError → String
  | layerNotFound moduleName route => s!"No blueprint published for {moduleName}:{route}"
  | danglingPointer key id => s!"Pointer for {key.text} references missing manifest entry {id}"
  | checksumMismatch key checksum =>
    s!"Artifact for {key.text} does not match manifest checksum {checksum}"
  | store cause => s!"Store error: {cause.message}"

/-- A live layer: its record and what was stored. -/
structure Layer where
  entry : ManifestEntry
  artifact : Artifact
  deriving DecidableEq

namespace Layer

def key (l : Layer) : LayerKey := l.entry.layerKey

def input (l : Layer) : LayerInput := ⟨l.artifact.page, l.entry.checksum⟩

end Layer

/-- The layer of each pointer at one time. Later generations were loaded later. -/
structure Snapshot where
  generation : Nat
  manifest : Manifest
  pointers : Pointers
  layers : OrderedMap LayerKey Layer
  deriving DecidableEq

/-- The layers that a request is answered from, overlays in the order of their application. -/
structure RequestLayers where
  generation : Nat
  blueprint : Layer
  overlays : List Layer
  deriving DecidableEq

namespace Snapshot

def empty : Snapshot := ⟨0, .empty, ∅, ∅⟩

/-- Loading a snapshot as a program on a store. -/
abbrev Loading := ExceptT RegistryError StoreProgram

/-- The artifact of a checksum, from those fetched before where it is among them. -/
def fetch (fetched : OrderedMap String Artifact) (checksum : String) : Loading Artifact :=
  match fetched.get? checksum with
  | some a => return a
  | none => StoreCall.perform .store (.get checksum)

/-- The layer that a pointer stands for. -/
def loadLayer (manifest : Manifest) (fetched : OrderedMap String Artifact) (key : LayerKey)
    (id : String) : Loading Layer := do
  match manifest.get? id with
  | none => throw (.danglingPointer key id)
  | some e =>
    let a ← fetch fetched e.artifactRef
    if a.checksum ≠ e.checksum then throw (.checksumMismatch key e.checksum)
    return ⟨e, a⟩

/-- The layers of the pointers in turn; no artifact is fetched twice. -/
def loadLayers (manifest : Manifest) (fetched : OrderedMap String Artifact) :
    List (LayerKey × String) → Loading (List (LayerKey × Layer))
  | [] => return []
  | (key, id) :: rest => do
    let l ← loadLayer manifest fetched key id
    let more ← loadLayers manifest (fetched.insert l.entry.artifactRef l.artifact) rest
    return (key, l) :: more

def load (generation : Nat) : Loading Snapshot := do
  let manifest : Manifest ← StoreCall.perform .store .loadManifest
  let pointers : Pointers ← StoreCall.perform .store .loadPointers
  let layers ← loadLayers manifest ∅ pointers.entries
  return ⟨generation, manifest, pointers, OrderedMap.ofList layers⟩

/-- The snapshot after this one. -/
def refresh (s : Snapshot) : Loading Snapshot := load (s.generation + 1)

def layer? (s : Snapshot) (key : LayerKey) : Option Layer := s.layers.get? key

/-- The blueprint that a request is for, and the overlays that the request matches. -/
def layersFor (s : Snapshot) (ctx : RequestContext) : Except RegistryError RequestLayers :=
  match s.layer? ctx.blueprintKey with
  | none => .error (.layerNotFound ctx.moduleName ctx.route)
  | some blueprint =>
    let overlays := s.layers.values.filter fun l => ctx.covers l.key
    .ok ⟨s.generation, blueprint, sortBy (fun l => l.key.precedence) overlays⟩

end Snapshot

namespace RequestLayers

/-- All layers, the blueprint first. -/
def all (r : RequestLayers) : List Layer := r.blueprint :: r.overlays

def resolve (r : RequestLayers) : Except ResolveError ResolvedPage :=
  ResolvedPage.ofLayers r.blueprint.input (r.overlays.map Layer.input)

def resolveBlueprint (r : RequestLayers) : Except ResolveError ResolvedPage :=
  ResolvedPage.ofLayers r.blueprint.input []

end RequestLayers

end PageLayers
