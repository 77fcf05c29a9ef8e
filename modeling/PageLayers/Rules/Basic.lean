import PageLayers.Overlay.Apply
import PageLayers.Document.Diagnostic

/-! What the rules find, and what a page is checked against. -/

namespace PageLayers

inductive Severity where
  | error
  | warning
  deriving DecidableEq

structure Violation where
  rule : String
  reason : Reason
  severity : Severity
  node : Option String
  message : String
  deriving DecidableEq

namespace Violation

def error (rule : String) (reason : Reason) (node : Option String) (message : String) : Violation :=
  ⟨rule, reason, .error, node, message⟩

def diagnostic (v : Violation) : Diagnostic := ⟨v.reason, v.node, v.message⟩

def toJson (v : Violation) : Json :=
  .obj [("code", .str v.reason.text), ("message", .str v.message),
    ("node_id", (v.node.map Json.str).getD .null), ("rule", .str v.rule),
    ("severity", .str (if v.severity = .error then "error" else "warning"))]

end Violation

/-- The blueprint that an overlay extends, the overlays applied before it, and the version that is
live under its key. -/
structure RuleContext where
  base : Option Page
  additional : List Page
  priorVersion : Option String

namespace Page

/-- The tree after those of the patches that apply. -/
def applyWhatApplies (p : Page) (patches : List Patch) : Page :=
  patches.foldl (fun tree patch => ((tree.applyPatch patch).toOption).getD tree) p

/-- A layer put on a tree, without the patches that do not apply. -/
def underLayer (p layer : Page) : Page :=
  let tree := p.applyWhatApplies layer.patches
  { tree with constants := tree.constants.extend layer.constants }

/-- The tree that the references of a page are checked in: a blueprint by itself, an overlay on top
of its blueprint and the overlays before it. -/
def effectiveTree? (p : Page) (ctx : RuleContext) : Option Page :=
  match p.kind with
  | .blueprint => some p
  | .overlay => ctx.base.map fun base => (ctx.additional ++ [p]).foldl underLayer base

/-- The owners of properties, components before actions, each with its properties. -/
def propertyLists (p : Page) : List (String × List Property) :=
  p.components.map (fun c => (c.id, c.props)) ++ p.actions.map fun a => (a.id, a.config)

end Page

end PageLayers
