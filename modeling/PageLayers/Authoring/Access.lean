import PageLayers.Authoring.Read
import PageLayers.Page.Access
import PageLayers.Text.Split

/-! Access rules, from an `access` child or from the attributes of the node itself. -/

namespace PageLayers.Authoring

/-- The entries of a list of roles; one that is no text or is blank spoils the list. -/
def roleItems (owner : String) : List Json → Read (Option (List String))
  | [] => return some []
  | item :: rest =>
    match item.asString?.map Text.trim with
    | some role =>
      if role.isEmpty then badItem item
      else do
        let more ← roleItems owner rest
        return more.map (role :: ·)
    | none => badItem item
where
  badItem (item : Json) : Read (Option (List String)) :=
    Read.reject .invalidValue owner
      ("role list entries must be non-empty strings, got " ++ item.text)

/-- The pieces of a text between commas, without blank ones. -/
def commaRoles (s : String) : List String :=
  (((Text.splitAll ',' s.toList).map Text.trimChars).filter fun r => !r.isEmpty).map String.ofList

def roleList (owner : String) : Json → Read (Option (OrderedSet String))
  | .str s => return some (OrderedSet.ofList (commaRoles s))
  | .arr items => do
    let roles ← roleItems owner items
    return roles.map OrderedSet.ofList
  | j =>
    Read.reject .invalidValue owner
      ("role list must be an array or comma-separated string, got " ++ j.text)

def roleListOf (owner : String) : Option Json → Read (Option (OrderedSet String))
  | some j => roleList owner j
  | none => return none

/-- The rule a node declares, if it declares any of its lists. -/
def accessRule (n : Node) (owner : String) : Read (Option AccessRule) := do
  let directives := n.children.filter fun c => c.tag = "access"
  if 1 < directives.length then
    Read.report .malformedNode owner "at most one <access> directive per node"
  let source := directives.head?.getD n
  if !source.has ["allow", "deny", "requires"] then return none
  let allow ← roleListOf owner (source.get? ["allow"])
  let deny ← roleListOf owner (source.get? ["deny"])
  let requires ← roleListOf owner (source.get? ["requires"])
  return some ⟨allow, deny, requires.getD ∅⟩

end PageLayers.Authoring
