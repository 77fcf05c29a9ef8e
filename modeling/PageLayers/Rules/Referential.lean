import PageLayers.Rules.Basic
import PageLayers.Json.Path

/-! References: patches name what is there, bindings read what is declared, actions exist. -/

namespace PageLayers

def PatchError.reason : PatchError → Reason
  | missingTarget .. => .missingOverlayTarget
  | duplicateComponent _ => .duplicateId
  | incomplete .. | payloadMismatch .. => .incompletePatch

/-- A path must exist in static data. For other data that declares fields, its first segment must be
that of the path of a field. -/
def DataSource.resolves (s : DataSource) (path : String) : Bool :=
  match s.origin with
  | .static data => (data.lookupPath path).isSome
  | _ =>
    s.contract.isEmpty || s.contract.values.any fun p => Text.before '.' p = Text.before '.' path

namespace Rules

def referentialError (reason : Reason) (node : Option String) (message : String) : Violation :=
  .error "referential" reason node message

def sameBlueprint (p base : Page) : List Violation :=
  if p.extendsId = base.pageId ∧ p.moduleName = base.moduleName ∧ p.route = base.route then []
  else
    [referentialError .blueprintMismatch p.extendsId
      (s!"overlay {p.moduleName}:{p.route} extends " ++ "`" ++ p.extendsId.getD "" ++ "`" ++
        s!" but blueprint is {base.moduleName}:{base.route} " ++ "`" ++ base.pageId.getD "" ++ "`")]

/-- The patches that do not apply, each tried on what those before it leave. -/
def patchesApply (tree : Page) : List Patch → List Violation
  | [] => []
  | patch :: rest =>
    match tree.applyPatch patch with
    | .ok next => patchesApply next rest
    | .error e => referentialError e.reason patch.targetId e.message :: patchesApply tree rest

def overlayTargets (p : Page) (ctx : RuleContext) : List Violation :=
  match p.kind, ctx.base with
  | .blueprint, _ => []
  | .overlay, none =>
    [referentialError .missingBlueprint p.extendsId
      "overlay validated without the blueprint it extends"]
  | .overlay, some base =>
    let tree := ctx.additional.foldl (fun tree layer => tree.applyWhatApplies layer.patches) base
    sameBlueprint p base ++ patchesApply tree p.patches

def bindingHolds (tree : Page) (node : String) (b : Binding) : List Violation :=
  match tree.dataSource? b.sourceId with
  | none =>
    [referentialError .unknownDataSource node
      s!"binding reads undeclared data source `{b.sourceId}`"]
  | some source =>
    match b with
    | .contract name =>
      let field := (Text.after? '.' name).getD ""
      if source.contract.contains field then []
      else
        [referentialError .unknownContractField node
          s!"data source `{b.sourceId}` exposes no contract field `{field}`"]
    | .path _ path =>
      if source.resolves path then []
      else
        [referentialError .unresolvedPath node
          s!"path `{path}` does not resolve in data source `{b.sourceId}`"]

def propertyHolds (tree : Page) (owner : String) (p : Property) : List Violation :=
  let node := owner ++ "." ++ p.name
  match p.value with
  | .binding b => bindingHolds tree node b
  | .action id =>
    if (tree.action? id).isSome then []
    else [referentialError .unknownAction node s!"prop references undeclared action `{id}`"]
  | .static _ | .expression _ => []

def referential (p : Page) (ctx : RuleContext) : List Violation :=
  overlayTargets p ctx ++
    match p.effectiveTree? ctx with
    | none => []
    | some tree => tree.propertyLists.flatMap fun (owner, props) =>
        props.flatMap (propertyHolds tree owner)

end Rules

end PageLayers
