import PageLayers.Rules.Structural
import PageLayers.Rules.Referential
import PageLayers.Rules.Versioning
import PageLayers.Rules.AccessLists
import PageLayers.Rules.Expressions
import PageLayers.Rules.UnusedSources

/-! All rules together. Errors block a page, warnings do not. -/

namespace PageLayers

structure Validation where
  violations : List Violation
  layerKey : String
  contentVersion : String

namespace Validation

def errors (v : Validation) : List Violation := v.violations.filter (·.severity = .error)

def warnings (v : Validation) : List Violation := v.violations.filter (·.severity = .warning)

def valid (v : Validation) : Bool := v.errors.isEmpty

def toJson (v : Validation) : Json :=
  .obj [("content_version", .str v.contentVersion), ("layer_key", .str v.layerKey),
    ("valid", .bool v.valid), ("violations", .arr (v.violations.map Violation.toJson))]

end Validation

namespace Rules

/-- The rules in the order in which they report. -/
def all : List (Page → RuleContext → List Violation) :=
  [structural, referential, versioning, accessControl, expression, unusedDataSource]

end Rules

/-- Every rule looks at the page, whatever the others find. -/
def Page.validate (p : Page) (ctx : RuleContext) : Validation where
  violations := Rules.all.flatMap fun rule => rule p ctx
  layerKey := p.layerKey.text
  contentVersion := p.contentVersion

end PageLayers
