import PageLayers.Rules.Basic

/-! Access rules: no declared list is empty, and no role is on both. -/

namespace PageLayers.Rules

def accessError (reason : Reason) (owner message : String) : Violation :=
  .error "access_control" reason owner message

def listFilled (owner label : String) (list : Option (OrderedSet String)) : List Violation :=
  if list.any OrderedSet.isEmpty then
    [accessError .emptyRoleList owner s!"`{label}` list is declared but empty"]
  else []

def listsDisjoint (owner : String) (rule : AccessRule) : List Violation :=
  match rule.allow, rule.deny with
  | some allow, some deny => (allow.common deny).map fun role =>
      accessError .ambiguousRole owner s!"role `{role}` is both allowed and denied"
  | _, _ => []

def ruleHolds (owner : String) (rule : AccessRule) : List Violation :=
  listFilled owner "allow" rule.allow ++ listFilled owner "deny" rule.deny ++
    listsDisjoint owner rule

def owned (owner : String) (access : Option AccessRule) : List (String × AccessRule) :=
  access.toList.map (owner, ·)

def payloadRules (id : String) : Payload → List (String × AccessRule)
  | .region components => components.flatMap fun c => owned (c.id.getD id) c.access
  | .component patch => owned id patch.access
  | .dataSource patch => owned id patch.access
  | .action patch => owned id patch.access

/-- All access rules of a page and of the payloads of its patches, each with its owner. -/
def accessRules (p : Page) : List (String × AccessRule) :=
  p.components.flatMap (fun c => owned c.id c.access) ++
    p.dataSources.flatMap (fun s => owned s.id s.access) ++
    p.actions.flatMap (fun a => owned a.id a.access) ++
    p.patches.flatMap fun patch => patch.payload.toList.flatMap (payloadRules patch.targetId)

def accessControl (p : Page) (_ : RuleContext) : List Violation :=
  (accessRules p).flatMap fun (owner, rule) => ruleHolds owner rule

end PageLayers.Rules
