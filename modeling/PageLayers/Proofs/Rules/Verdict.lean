import PageLayers.Rules.Validation
import PageLayers.Proofs.Overlay.UniqueIds

/-! What it takes for a page to be accepted, rule by rule. -/

namespace PageLayers

variable {p tree : Page} {ctx : RuleContext} {v : Violation}

/-- The lists of a rule are filled where they are declared, and no role is on both. -/
def AccessRule.Clear (rule : AccessRule) : Prop :=
  rule.allow.any OrderedSet.isEmpty = false ∧ rule.deny.any OrderedSet.isEmpty = false ∧
    ∀ allow deny, rule.allow = some allow → rule.deny = some deny → allow.common deny = []

namespace Page

/-- All bindings and actions that the properties of a page name are there. -/
def ReferencesHold (p : Page) : Prop :=
  ∀ l ∈ p.propertyLists, ∀ q ∈ l.2, Rules.propertyHolds p l.1 q = []

/-- All expressions of a page can be read and see only what stands beside them. -/
def ExpressionsHold (p : Page) : Prop := ∀ l ∈ p.propertyLists, Rules.expressionsHold l.1 l.2 = []

/-- All access rules of a page and of the payloads of its patches are clear. -/
def AccessClear (p : Page) : Prop := ∀ r ∈ Rules.accessRules p, r.2.Clear

/-- Both versions of a page are semantic versions. -/
def VersionsRead (p : Page) : Prop :=
  Rules.isVersion "schemaVersion" p.schemaVersion = [] ∧
    Rules.isVersion "contentVersion" p.contentVersion = []

end Page

namespace Rules

theorem repeatedIds_eq_nil {what : String} {seen ids : List String} :
    repeatedIds what seen ids = [] ↔ ids.Nodup ∧ ∀ id ∈ ids, id ∉ seen := by
  induction ids generalizing seen with
  | nil => simp [repeatedIds]
  | cons id rest ih =>
    unfold repeatedIds
    by_cases hid : id ∈ seen
    · simp [hid]
    · simp [hid, ih]
      grind

theorem uniqueIds_iff : p.UniqueIds ↔ repeatedIds "region" [] (p.ids .region) = [] ∧
    repeatedIds "component" [] (p.ids .component) = [] ∧
    repeatedIds "data source" [] (p.ids .dataSource) = [] ∧
    repeatedIds "action" [] (p.ids .action) = [] := by
  simp only [repeatedIds_eq_nil, List.not_mem_nil, not_false_eq_true, implies_true, and_true]
  constructor
  · intro h
    exact ⟨h .region, h .component, h .dataSource, h .action⟩
  · rintro ⟨hr, hc, hs, ha⟩ target
    cases target with
    | region => exact hr
    | component => exact hc
    | dataSource => exact hs
    | action => exact ha

theorem structural_eq_nil (hkind : p.kind = .blueprint) :
    structural p ctx = [] ↔ p.pageId ≠ none ∧ p.scope.isEmpty = true ∧ p.UniqueIds := by
  have hid : pageIdPresent p = [] ↔ p.pageId ≠ none := by simp [pageIdPresent, hkind]
  have hscope : scopeFits p = [] ↔ p.scope.isEmpty = true := by
    cases h : p.scope.isEmpty <;> simp [scopeFits, hkind, h]
  simp only [structural, List.append_eq_nil_iff, hid, hscope, uniqueIds_iff, and_assoc]

theorem referential_eq_nil : referential p ctx = [] ↔ overlayTargets p ctx = [] ∧
    ∀ tree, p.effectiveTree? ctx = some tree → tree.ReferencesHold := by
  unfold referential
  rw [List.append_eq_nil_iff]
  refine and_congr_right fun _ => ?_
  cases p.effectiveTree? ctx <;> simp [Page.ReferencesHold]

theorem expression_eq_nil : expression p ctx = [] ↔
    ∀ tree, p.effectiveTree? ctx = some tree → tree.ExpressionsHold := by
  unfold expression
  cases p.effectiveTree? ctx <;> simp [Page.ExpressionsHold]

theorem versioning_eq_nil : versioning p ctx = [] ↔
    p.VersionsRead ∧ notBehind p.contentVersion ctx.priorVersion = [] := by
  simp [versioning, Page.VersionsRead, and_assoc]

theorem notBehind_none {content : String} : notBehind content none = [] := by
  unfold notBehind
  split <;> simp_all

theorem ruleHolds_eq_nil {owner : String} {rule : AccessRule} :
    ruleHolds owner rule = [] ↔ rule.Clear := by
  have hlist (label : String) (list : Option (OrderedSet String)) :
      listFilled owner label list = [] ↔ list.any OrderedSet.isEmpty = false := by
    cases h : list.any OrderedSet.isEmpty <;> simp [listFilled, h]
  have hdisjoint : listsDisjoint owner rule = [] ↔
      ∀ allow deny, rule.allow = some allow → rule.deny = some deny → allow.common deny = [] := by
    unfold listsDisjoint
    split <;> simp_all
  simp only [ruleHolds, List.append_eq_nil_iff, hlist, hdisjoint, AccessRule.Clear, and_assoc]

theorem accessControl_eq_nil : accessControl p ctx = [] ↔ p.AccessClear := by
  simp [accessControl, ruleHolds_eq_nil, Page.AccessClear]

theorem repeatedIds_blocks {what : String} {seen ids : List String}
    (h : v ∈ repeatedIds what seen ids) : v.severity = .error := by
  induction ids generalizing seen with
  | nil => cases h
  | cons id rest ih =>
    unfold repeatedIds at h
    split at h
    · rcases List.mem_cons.1 h with rfl | h
      · rfl
      · exact ih h
    · exact ih h

theorem structural_blocks (h : v ∈ structural p ctx) : v.severity = .error := by
  simp only [structural, List.mem_append] at h
  rcases h with ((((h | h) | h) | h) | h) | h
  · unfold pageIdPresent at h
    split at h <;> simp_all [structuralError, Violation.error]
  · unfold scopeFits at h
    split at h <;> simp_all [structuralError, Violation.error]
  all_goals exact repeatedIds_blocks h

theorem patchesApply_blocks {patches : List Patch} (h : v ∈ patchesApply tree patches) :
    v.severity = .error := by
  induction patches generalizing tree with
  | nil => cases h
  | cons patch rest ih =>
    unfold patchesApply at h
    split at h
    · exact ih h
    · rcases List.mem_cons.1 h with rfl | h
      · rfl
      · exact ih h

theorem overlayTargets_blocks (h : v ∈ overlayTargets p ctx) : v.severity = .error := by
  unfold overlayTargets at h
  split at h
  · cases h
  · rw [List.mem_singleton.1 h]
    rfl
  · rcases List.mem_append.1 h with h | h
    · unfold sameBlueprint at h
      split at h <;> simp_all [referentialError, Violation.error]
    · exact patchesApply_blocks h

theorem propertyHolds_blocks {owner : String} {q : Property} (h : v ∈ propertyHolds tree owner q) :
    v.severity = .error := by
  unfold propertyHolds bindingHolds at h
  grind [referentialError, Violation.error]

theorem referential_blocks (h : v ∈ referential p ctx) : v.severity = .error := by
  unfold referential at h
  rcases List.mem_append.1 h with h | h
  · exact overlayTargets_blocks h
  · split at h
    · cases h
    · simp only [List.mem_flatMap] at h
      obtain ⟨_, -, q, -, hv⟩ := h
      exact propertyHolds_blocks hv

theorem versioning_blocks (h : v ∈ versioning p ctx) : v.severity = .error := by
  unfold versioning isVersion notBehind at h
  grind [versioningError, Violation.error]

theorem accessControl_blocks (h : v ∈ accessControl p ctx) : v.severity = .error := by
  simp only [accessControl, List.mem_flatMap] at h
  obtain ⟨_, -, hv⟩ := h
  unfold ruleHolds listFilled listsDisjoint at hv
  grind [accessError, Violation.error]

theorem expression_blocks (h : v ∈ expression p ctx) : v.severity = .error := by
  unfold expression at h
  split at h
  · cases h
  · simp only [expressionsHold, List.mem_flatMap] at h
    obtain ⟨_, -, q, -, hv⟩ := h
    unfold expressionHolds at hv
    grind [expressionError, Violation.error]

theorem unusedDataSource_warns (h : v ∈ unusedDataSource p ctx) : v.severity = .warning := by
  unfold unusedDataSource at h
  split at h
  · cases h
  · obtain ⟨s, -, rfl⟩ := List.mem_map.1 h
    rfl

end Rules

namespace Page

open Rules

/-- A page is accepted when no rule but the one on unused data sources finds anything. -/
theorem valid_iff : (p.validate ctx).valid = true ↔ structural p ctx = [] ∧
    referential p ctx = [] ∧ versioning p ctx = [] ∧ accessControl p ctx = [] ∧
    expression p ctx = [] := by
  have hblock {l : List Violation} (h : ∀ v ∈ l, v.severity = .error) :
      l.filter (fun v => v.severity = .error) = l := List.filter_eq_self.2 (by simpa using h)
  have hwarn : (unusedDataSource p ctx).filter (fun v => v.severity = .error) = [] := by
    rw [List.filter_eq_nil_iff]
    intro v hv
    simp [unusedDataSource_warns hv]
  have herrors : (p.validate ctx).errors = structural p ctx ++ referential p ctx ++
      versioning p ctx ++ accessControl p ctx ++ expression p ctx := by
    simp only [Validation.errors, validate, Rules.all, List.flatMap_cons, List.flatMap_nil,
      List.filter_append, hwarn, hblock fun _ => structural_blocks,
      hblock fun _ => referential_blocks, hblock fun _ => versioning_blocks,
      hblock fun _ => accessControl_blocks, hblock fun _ => expression_blocks, List.append_nil,
      List.append_assoc]
  simp [Validation.valid, herrors]

theorem blueprint_valid_iff (hkind : p.kind = .blueprint) : (p.validate ctx).valid = true ↔
    p.pageId ≠ none ∧ p.scope.isEmpty = true ∧ p.UniqueIds ∧ p.ReferencesHold ∧
    (p.VersionsRead ∧ notBehind p.contentVersion ctx.priorVersion = []) ∧ p.AccessClear ∧
    p.ExpressionsHold := by
  have htree : p.effectiveTree? ctx = some p := by simp [effectiveTree?, hkind]
  have htargets : overlayTargets p ctx = [] := by simp [overlayTargets, hkind]
  simp [valid_iff, structural_eq_nil hkind, referential_eq_nil, versioning_eq_nil,
    accessControl_eq_nil, expression_eq_nil, htree, htargets, and_assoc]

end Page

end PageLayers
