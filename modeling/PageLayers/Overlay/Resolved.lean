import PageLayers.Overlay.Apply
import PageLayers.Page.Checksum

/-! Resolving: the overlays of a request folded over its blueprint, and what identifies the
result. -/

namespace PageLayers

/-- One of the pages that a page is resolved from, with its recorded checksum. -/
structure LayerInput where
  page : Page
  checksum : String
  deriving DecidableEq

/-- A merged page with the layers it comes from, the blueprint first. -/
structure ResolvedPage where
  page : Page
  fingerprint : String
  contracts : ContractTable
  layers : List LayerKey
  deriving DecidableEq

/-- Why a layer has no place on a blueprint. -/
inductive Misplaced where
  | notBlueprint
  | notOverlay
  | otherRoute (overlayModule overlayRoute baseModule baseRoute : String)
  | otherBase (extended base : Option String)
  deriving DecidableEq

inductive ResolveError where
  | danglingTarget (layer : LayerKey) (target : Target) (id : String)
  | incompletePatch (layer : LayerKey) (cause : PatchError)
  | layerMismatch (layer : LayerKey) (cause : Misplaced)
  | duplicateId (layer : LayerKey) (id : String)
  deriving DecidableEq

def Misplaced.message : Misplaced → String
  | notBlueprint => "base layer is not a blueprint"
  | notOverlay => "layer is not an overlay"
  | otherRoute overlayModule overlayRoute baseModule baseRoute =>
    s!"overlay is for {overlayModule}:{overlayRoute}, blueprint is {baseModule}:{baseRoute}"
  | otherBase extended base =>
    let extended := extended.getD ""
    let base := base.getD ""
    s!"overlay extends `{extended}`, blueprint is `{base}`"

namespace ResolveError

def message : ResolveError → String
  | danglingTarget layer target id =>
    s!"Overlay {layer.text} targets {target.text} `{id}`, which no longer exists"
  | incompletePatch layer cause => s!"Overlay {layer.text} has an incomplete patch: {cause.message}"
  | layerMismatch layer cause =>
    s!"Layer {layer.text} does not belong on this blueprint: {cause.message}"
  | duplicateId layer id => s!"Overlay {layer.text} duplicates component id `{id}`"

def ofPatchError (layer : LayerKey) : PatchError → ResolveError
  | .missingTarget target id => danglingTarget layer target id
  | .duplicateComponent id => duplicateId layer id
  | e => incompletePatch layer e

end ResolveError

namespace ResolvedPage

/-- An overlay is for one module and route and extends one page id. -/
def checkBelongs (base overlay : Page) : Except Misplaced Unit :=
  if overlay.kind ≠ .overlay then .error .notOverlay
  else if overlay.moduleName ≠ base.moduleName ∨ overlay.route ≠ base.route then
    .error (.otherRoute overlay.moduleName overlay.route base.moduleName base.route)
  else if overlay.extendsId ≠ base.pageId then .error (.otherBase overlay.extendsId base.pageId)
  else .ok ()

/-- Applies one overlay to the page merged so far. -/
def applyLayer (base merged overlay : Page) : Except ResolveError Page := do
  (checkBelongs base overlay).mapError (.layerMismatch overlay.layerKey)
  (merged.applyOverlay overlay).mapError (.ofPatchError overlay.layerKey)

/-- The result for a merged page; the layers stand in the order of their application. -/
def ofMerged (merged : Page) (layers : List LayerInput) : ResolvedPage where
  page := merged
  fingerprint := merged.fingerprint (layers.map LayerInput.checksum)
  contracts := merged.contractTable
  layers := layers.map fun l => l.page.layerKey

/-- Folds the overlays over the blueprint in the order given. -/
def ofLayers (blueprint : LayerInput) (overlays : List LayerInput) :
    Except ResolveError ResolvedPage := do
  let base := blueprint.page
  if base.kind ≠ .blueprint then throw (.layerMismatch base.layerKey .notBlueprint)
  let merged ← overlays.foldlM (fun merged o => applyLayer base merged o.page) base
  return ofMerged merged (blueprint :: overlays)

def toJson (r : ResolvedPage) : Json :=
  .obj [("contracts", r.contracts.toJson), ("fingerprint", .str r.fingerprint),
    ("layers", .arr (r.layers.map LayerKey.toJson)), ("page", r.page.toJson)]

end ResolvedPage

end PageLayers
