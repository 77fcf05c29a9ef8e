import PageLayers.Page.Encode
import PageLayers.Page.Decode

/-! Requests for pages, which overlays they match, and in which order overlays apply. -/

namespace PageLayers

/-- Who asks for which page. -/
structure RequestContext where
  tenant : String
  moduleName : String
  route : String
  roles : OrderedSet String
  variant : Option String
  locale : Option String
  deriving DecidableEq

namespace RequestContext

/-- A dimension that is not set suits every request. -/
def suits (dimension : Option String) (holds : String → Bool) : Bool := dimension.all holds

/-- A request matches an overlay of its module and route when it has the value of every dimension
that the overlay sets. -/
def covers (ctx : RequestContext) (key : LayerKey) : Bool :=
  key.kind = .overlay && key.moduleName = ctx.moduleName && key.route = ctx.route &&
    suits key.scope.tenant (· = ctx.tenant) && suits key.scope.role ctx.roles.contains &&
    suits key.scope.variant (some · = ctx.variant) && suits key.scope.locale (some · = ctx.locale)

/-- The key of the blueprint that a request is for. -/
def blueprintKey (ctx : RequestContext) : LayerKey := .blueprint ctx.moduleName ctx.route

end RequestContext

/-- Where an overlay stands in the order of application. -/
structure Precedence where
  rank : Nat
  dimensions : Nat
  text : String
  deriving DecidableEq

namespace Precedence

/-- Ranks come first, then counts of dimensions, then texts. -/
instance : Ord Precedence :=
  ⟨compareLex (compareOn rank) (compareLex (compareOn dimensions) (compareOn text))⟩

/-- The place of the last dimension that is set; the first one's where none is. -/
def rankOf (dimensions : List (Option String)) : Nat :=
  ((dimensions.zipIdx.filter fun d => d.1.isSome).map (·.2)).getLastD 0

end Precedence

/-- Later in the order are keys that set a more specific dimension, then those that set more of
them; the text of the key decides between the rest. -/
def LayerKey.precedence (key : LayerKey) : Precedence :=
  ⟨Precedence.rankOf key.scope.dimensions, key.scope.count, key.text⟩

end PageLayers
