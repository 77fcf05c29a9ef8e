import PageLayers.Rules.Basic

/-! Page ids, scopes, and ids that are declared twice. -/

namespace PageLayers.Rules

def structuralError (reason : Reason) (node : Option String) (message : String) : Violation :=
  .error "structural" reason node message

def pageIdPresent (p : Page) : List Violation :=
  if p.kind = .blueprint ∧ p.pageId = none then
    [structuralError .missingPageId none "blueprint has no page id"]
  else []

/-- Blueprints set no dimension and overlays at least one. -/
def scopeFits (p : Page) : List Violation :=
  match p.kind, p.scope.isEmpty with
  | .blueprint, false =>
    [structuralError .unexpectedScope p.pageId
      "blueprints must not set tenant, role, variant or locale"]
  | .overlay, true =>
    [structuralError .missingScope p.extendsId
      "overlays must set at least one of tenant, role, variant, locale"]
  | _, _ => []

/-- One violation for each time an id stands again. -/
def repeatedIds (what : String) (seen : List String) : List String → List Violation
  | [] => []
  | id :: rest =>
    if seen.contains id then
      structuralError .duplicateId id s!"{what} id `{id}` declared more than once" ::
        repeatedIds what seen rest
    else repeatedIds what (id :: seen) rest

def structural (p : Page) (_ : RuleContext) : List Violation :=
  pageIdPresent p ++ scopeFits p ++ repeatedIds "region" [] (p.ids .region) ++
    repeatedIds "component" [] (p.ids .component) ++
    repeatedIds "data source" [] (p.ids .dataSource) ++ repeatedIds "action" [] (p.ids .action)

end PageLayers.Rules
