import PageLayers.Ordered.Set

/-! Who may see a node: the roles it allows and denies and the entitlements it asks for. -/

namespace PageLayers

/-- A list that is not declared is none; a list that is declared may still be empty. -/
structure AccessRule where
  allow : Option (OrderedSet String)
  deny : Option (OrderedSet String)
  requires : OrderedSet String
  deriving DecidableEq

/-- What a viewer holds. -/
structure Viewer where
  roles : OrderedSet String
  entitlements : OrderedSet String
  deriving DecidableEq

namespace AccessRule

/-- One denied role is enough to be kept out; of the allowed roles one must be held, and of the
entitlements all. -/
def permits (rule : AccessRule) (viewer : Viewer) : Bool :=
  let holdsOne (list : OrderedSet String) := list.members.any viewer.roles.contains
  !(rule.deny.any holdsOne) && rule.allow.all holdsOne &&
    rule.requires.isSubset viewer.entitlements

end AccessRule

/-- A node without a rule is visible to all. -/
def Viewer.sees (viewer : Viewer) (access : Option AccessRule) : Bool :=
  access.all fun rule => rule.permits viewer

end PageLayers
