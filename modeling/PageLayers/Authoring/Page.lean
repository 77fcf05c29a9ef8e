import PageLayers.Authoring.Patch
import PageLayers.Ordered.Sort

/-! A page from its authored document. -/

namespace PageLayers

namespace Authoring

/-- One piece of a page. -/
inductive Piece where
  | region (r : Region)
  | dataSource (s : DataSource)
  | action (a : Action)
  | constant (name : String) (value : Json)
  | patch (p : Patch)

def constant (n : Node) : Read (Option Piece) := do
  match ← require n "name" [] none with
  | none => return none
  | some name =>
    let value ← requireValue n "value" [] name
    return value.map (.constant name)

/-- Blueprints hold regions, sources and actions, overlays hold patches, and both hold constants. -/
def piece (kind : PageKind) (root : String) (n : Node) : Read (Option Piece) := do
  let tag := currentTag n.tag
  let unexpected : Read (Option Piece) :=
    Read.reject .unknownTag (n.getText? ["id"])
      ("unexpected " ++ angle tag ++ " in " ++ angle root)
  if tag = "constant" then constant n
  else
    match kind with
    | .blueprint =>
      if tag = "region" then (·.map .region) <$> region n
      else if tag = "dataSource" then (·.map .dataSource) <$> dataSource n
      else if tag = "action" then (·.map .action) <$> action n
      else unexpected
    | .overlay =>
      if tag = "patch" then (·.map .patch) <$> patch n
      else if ["region", "component", "dataSource", "action"].contains tag then
        Read.reject .malformedNode (n.getText? ["id"])
          ("overlay content " ++ angle n.tag ++ " must be wrapped in a <patch>")
      else unexpected

namespace Piece

def region? : Piece → Option Region
  | region r => some r
  | _ => none

def dataSource? : Piece → Option DataSource
  | dataSource s => some s
  | _ => none

def action? : Piece → Option Action
  | action a => some a
  | _ => none

def constant? : Piece → Option (String × Json)
  | constant name value => some (name, value)
  | _ => none

def patch? : Piece → Option Patch
  | patch p => some p
  | _ => none

end Piece

/-- What an overlay extends must be named; blueprints extend nothing. -/
def extended (kind : PageKind) (root : Node) : Read (Option String) :=
  match kind with
  | .blueprint => return none
  | .overlay => require root "extends" ["page", "blueprint"] none

/-- The order of sources and actions carries no meaning, so they are sorted by id. -/
def pageOf (kind : PageKind) (root : Node) : Read Page := do
  let pageId ← keyPart root "id" ["pageId"] none
  let moduleName ← keyPart root "module" [] pageId
  let route ← keyPart root "route" ["path"] pageId
  if moduleName.isNone then
    let _ ← require root "module" [] pageId
  if route.isNone then
    let _ ← require root "route" ["path"] pageId
  let schemaVersion ← require root "schemaVersion" ["schema"] pageId
  let contentVersion ← require root "contentVersion" ["version"] pageId
  let tenant ← keyPart root "tenant" [] pageId
  let role ← keyPart root "role" [] pageId
  let variant ← keyPart root "variant" [] pageId
  let locale ← keyPart root "locale" [] pageId
  let extendsId ← extended kind root
  let pieces ← Read.collect (piece kind root.tag) (flatten root.children)
  return {
    kind := kind
    schemaVersion := schemaVersion.getD ""
    contentVersion := contentVersion.getD ""
    moduleName := moduleName.getD ""
    route := route.getD ""
    scope := ⟨tenant, role, variant, locale⟩
    pageId := if kind = .blueprint then pageId else none
    extendsId := extendsId
    regions := pieces.filterMap Piece.region?
    dataSources := sortBy DataSource.id (pieces.filterMap Piece.dataSource?)
    actions := sortBy Action.id (pieces.filterMap Piece.action?)
    constants := OrderedMap.ofList (pieces.filterMap Piece.constant?)
    patches := pieces.filterMap Piece.patch? }

end Authoring

/-- A document is accepted when nothing is reported about it. -/
def Page.ofDocument (root : Node) : Except (List Diagnostic) Page :=
  match PageKind.ofText? root.tag with
  | none => .error [⟨.unknownTag, none,
      "root must be <blueprint> or <overlay>, got " ++ Authoring.angle root.tag⟩]
  | some kind =>
    let read := Authoring.pageOf kind root
    if read.reports.isEmpty then .ok read.value else .error read.reports

end PageLayers
