import PageLayers.Proofs.Json.Path
import PageLayers.Proofs.Overlay.ClearAccess
import PageLayers.Proofs.Page.ContractTable

/-! The blueprints that the rules let pass, told apart from the rules: the ids of a sound blueprint
are distinct, its properties refer to what is there, its versions can be compared and its access
rules can be met. -/

namespace PageLayers

/-- A path can be asked of a source. In data that is at hand it leads to a value; of other data no
more is known than the declared fields, where there are any. -/
inductive DataSource.Resolves (s : DataSource) (path : String) : Prop where
  | data {data value : Json} (horigin : s.origin = .static data)
      (h : data.Leads (Json.pathSegments path) value)
  | undeclared (horigin : ∀ data, s.origin ≠ .static data) (h : s.contract = ∅)
  | field {name target : String} (horigin : ∀ data, s.origin ≠ .static data)
      (h : s.contract.get? name = some target)
      (hfirst : Text.before '.' target = Text.before '.' path)

/-- A value among the properties of a node that refers to nothing but what is there. -/
inductive PropertyValue.Sound (p : Page) (props : List Property) : PropertyValue → Prop where
  | static {value : Json} : Sound p props (.static value)
  | contract {s : DataSource} {field path : String} (hs : s ∈ p.dataSources)
      (hid : '.' ∉ s.id.toList) (hfield : s.contract.get? field = some path) :
      Sound p props (.binding (.contract (s.id ++ "." ++ field)))
  | path {s : DataSource} {path : String} (hs : s ∈ p.dataSources) (h : s.Resolves path) :
      Sound p props (.binding (.path s.id path))
  | action {a : Action} (ha : a ∈ p.actions) : Sound p props (.action a.id)
  | expression {source : String} {e : Expr} (hparse : Expr.parse source = .ok e)
      (hcalls : ∀ name, e.Calls name → name ∈ Expr.builtins)
      (hread : ∀ name, e.Mentions name →
        (∃ q ∈ props, (∃ b, q.value = .binding b) ∧ q.name = name) ∨ name = "const") :
      Sound p props (.expression source)

/-- A list of roles that is declared has roles, and no role is on both lists. -/
structure AccessRule.Sound (rule : AccessRule) : Prop where
  allow : rule.allow ≠ some ∅
  deny : rule.deny ≠ some ∅
  apart : ∀ allow deny, rule.allow = some allow → rule.deny = some deny →
    ∀ role ∈ allow.members, role ∉ deny.members

namespace Page

/-- An access rule stands at a node of the page or in the payload of a patch. -/
inductive HasRule (p : Page) (rule : AccessRule) : Prop where
  | component {r : Region} {c : Component} (hr : r ∈ p.regions) (hc : c ∈ r.components)
      (h : c.access = some rule)
  | dataSource {s : DataSource} (hs : s ∈ p.dataSources) (h : s.access = some rule)
  | action {a : Action} (ha : a ∈ p.actions) (h : a.access = some rule)
  | regionPayload {patch : Patch} {components : List ComponentPatch} {c : ComponentPatch}
      (hpatch : patch ∈ p.patches) (hpayload : patch.payload = some (.region components))
      (hc : c ∈ components) (h : c.access = some rule)
  | componentPayload {patch : Patch} {given : ComponentPatch} (hpatch : patch ∈ p.patches)
      (hpayload : patch.payload = some (.component given)) (h : given.access = some rule)
  | dataSourcePayload {patch : Patch} {given : DataSourcePatch} (hpatch : patch ∈ p.patches)
      (hpayload : patch.payload = some (.dataSource given)) (h : given.access = some rule)
  | actionPayload {patch : Patch} {given : ActionPatch} (hpatch : patch ∈ p.patches)
      (hpayload : patch.payload = some (.action given)) (h : given.access = some rule)

/-- A blueprint that can take the place of the version that is live, if one is. -/
structure SoundBlueprint (p : Page) (live : Option String) : Prop where
  pageId : ∃ id, p.pageId = some id
  scope : p.scope = .unset
  uniqueIds : p.UniqueIds
  components : ∀ r ∈ p.regions, ∀ c ∈ r.components, ∀ q ∈ c.props, q.value.Sound p c.props
  actions : ∀ a ∈ p.actions, ∀ q ∈ a.config, q.value.Sound p a.config
  schemaVersion : ∃ v, Version.parse p.schemaVersion = .ok v
  contentVersion : ∃ v, Version.parse p.contentVersion = .ok v ∧
    ∀ text old, live = some text → Version.parse text = .ok old → compare v old ≠ .lt
  access : ∀ rule, p.HasRule rule → rule.Sound

end Page

variable {p : Page} {s : DataSource} {q : Property} {props : List Property} {rule : AccessRule}
  {owner path : String} {live : Option String}

/-! ### Properties -/

theorem DataSource.resolves_static {data : Json} (horigin : s.origin = .static data) :
    s.resolves path = true ↔ s.Resolves path := by
  rw [resolves, horigin]
  constructor
  · intro h
    obtain ⟨value, hvalue⟩ := Option.isSome_iff_exists.1 h
    exact .data horigin (Json.follow?_eq_some.1 hvalue)
  · intro h
    cases h with
    | data hdata h =>
      cases horigin.symm.trans hdata
      exact Option.isSome_iff_exists.2 ⟨_, Json.follow?_eq_some.2 h⟩
    | undeclared hother => exact absurd horigin (hother data)
    | field hother => exact absurd horigin (hother data)

theorem DataSource.resolves_other (hother : ∀ data, s.origin ≠ .static data) :
    s.resolves path = true ↔ s.Resolves path := by
  have hdeclared : s.resolves path = (s.contract.isEmpty || s.contract.values.any fun target =>
      Text.before '.' target = Text.before '.' path) := by
    unfold resolves
    split
    · rename_i data hdata
      exact absurd hdata (hother data)
    · rfl
  rw [hdeclared, Bool.or_eq_true, List.any_eq_true]
  constructor
  · rintro (h | ⟨target, htarget, hfirst⟩)
    · exact .undeclared hother (OrderedMap.ext_entries (List.isEmpty_iff.1 h))
    · obtain ⟨⟨name, _⟩, hentry, rfl⟩ := List.mem_map.1 htarget
      exact .field hother (OrderedMap.get?_eq_some.2 hentry) (by simpa using hfirst)
  · intro h
    cases h with
    | data hdata => exact absurd hdata (hother _)
    | undeclared _ h =>
      rw [h]
      exact .inl rfl
    | field _ h hfirst =>
      exact .inr ⟨_, List.mem_map_of_mem (OrderedMap.get?_eq_some.1 h), by simpa using hfirst⟩

theorem DataSource.resolves_iff : s.resolves path = true ↔ s.Resolves path := by
  by_cases h : ∃ data, s.origin = .static data
  · obtain ⟨data, horigin⟩ := h
    exact resolves_static horigin
  · exact resolves_other (not_exists.1 h)

namespace PropertyValue

variable {node name id source : String}

theorem sound_contract (hp : p.UniqueIds) (hnamed : ∃ field, Text.after? '.' name = some field) :
    (binding (.contract name)).Sound p props ↔
      Rules.bindingHolds p node (.contract name) = [] := by
  simp only [Rules.contractHolds_eq_nil, hp.dataSource?_eq_some]
  constructor
  · intro h
    cases h with
    | contract hs hid hfield =>
      obtain ⟨hbefore, hafter⟩ := split_at_dot hid
      refine ⟨_, ⟨hs, hbefore.symm⟩, ?_⟩
      rw [hafter]
      exact Option.isSome_iff_exists.2 ⟨_, hfield⟩
  · rintro ⟨s, ⟨hs, hid⟩, hdeclares⟩
    obtain ⟨field, hafter⟩ := hnamed
    rw [hafter] at hdeclares
    obtain ⟨path, hfield⟩ := Option.isSome_iff_exists.1 hdeclares
    rw [← before_dot_after hafter, ← hid]
    exact .contract hs (hid ▸ not_mem_before_dot) hfield

theorem sound_path (hp : p.UniqueIds) :
    (binding (.path id path)).Sound p props ↔ Rules.bindingHolds p node (.path id path) = [] := by
  simp only [Rules.pathHolds_eq_nil, hp.dataSource?_eq_some, DataSource.resolves_iff]
  constructor
  · intro h
    cases h with
    | path hs h => exact ⟨_, ⟨hs, rfl⟩, h⟩
  · rintro ⟨s, ⟨hs, rfl⟩, h⟩
    exact .path hs h

theorem sound_action : (action id).Sound p props ↔ p.action? id ≠ none := by
  rw [Page.action?, ← Option.isSome_iff_ne_none, List.find?_isSome]
  constructor
  · intro h
    cases h with
    | action ha => exact ⟨_, ha, by simp⟩
  · rintro ⟨a, ha, hid⟩
    obtain rfl : a.id = id := by simpa using hid
    exact .action ha

theorem sound_expression : (expression source).Sound p props ↔
    Expr.Checked (readableNames props) source := by
  simp only [Expr.Checked, Expr.mem_callNames, Rules.mem_readableNames]
  constructor
  · intro h
    cases h with
    | expression hparse hcalls hread => exact ⟨_, hparse, hcalls, hread⟩
  · rintro ⟨e, hparse, hcalls, hread⟩
    exact .expression hparse hcalls hread

end PropertyValue

/-- On a page of distinct ids, a property is sound if neither of the two rules objects to it. -/
theorem Property.sound_iff (hp : p.UniqueIds) (hnamed : q.NamesField) : q.value.Sound p props ↔
    Rules.propertyHolds p owner q = [] ∧
      ∀ source, q.value = .expression source → Expr.Checked (readableNames props) source := by
  unfold Rules.propertyHolds
  cases hvalue : q.value with
  | static value => simpa using .static
  | binding b =>
    cases b with
    | contract name => simpa using PropertyValue.sound_contract hp (hnamed name hvalue)
    | path id path => simpa using PropertyValue.sound_path hp
  | action id => simp [PropertyValue.sound_action]
  | expression source => simp [PropertyValue.sound_expression]

theorem Page.sound_properties_iff (hp : p.UniqueIds) (hnamed : ∀ q ∈ p.properties, q.NamesField) :
    p.ReferencesHold ∧ p.ExpressionsHold ↔
      ∀ l ∈ p.propertyLists, ∀ q ∈ l.2, q.value.Sound p l.2 := by
  have hnames {l : String × List Property} (hl : l ∈ p.propertyLists) {q : Property}
      (hq : q ∈ l.2) : q.NamesField := hnamed q (mem_properties.2 ⟨l, hl, hq⟩)
  constructor
  · rintro ⟨hreferences, hexpressions⟩ l hl q hq
    exact (Property.sound_iff hp (hnames hl hq)).2
      ⟨hreferences l hl q hq, Rules.expressionsHold_eq_nil.1 (hexpressions l hl) q hq⟩
  · intro h
    constructor
    · intro l hl q hq
      exact ((Property.sound_iff hp (hnames hl hq)).1 (h l hl q hq)).1
    · intro l hl
      rw [Rules.expressionsHold_eq_nil]
      intro q hq
      have hholds : Rules.propertyHolds p l.1 q = [] ∧ _ :=
        (Property.sound_iff hp (hnames hl hq)).1 (h l hl q hq)
      exact hholds.2

theorem Page.forall_propertyLists {P : List Property → Prop} :
    (∀ l ∈ p.propertyLists, P l.2) ↔
      (∀ r ∈ p.regions, ∀ c ∈ r.components, P c.props) ∧ ∀ a ∈ p.actions, P a.config := by
  simp only [propertyLists, components, List.forall_mem_append, List.forall_mem_map,
    List.forall_mem_flatMap]

/-! ### Access rules, scopes and versions -/

theorem AccessRule.clear_iff : rule.Clear ↔ rule.Sound := by
  have hempty (roles : OrderedSet String) : roles.isEmpty = true ↔ roles = ∅ := by
    constructor
    · intro h
      exact OrderedSet.ext_members (List.isEmpty_iff.1 h)
    · rintro rfl
      rfl
  have hfilled (list : Option (OrderedSet String)) :
      list.any OrderedSet.isEmpty = false ↔ list ≠ some ∅ := by
    cases list with
    | none => simp
    | some roles => simp [← hempty]
  have hapart (allow deny : OrderedSet String) :
      allow.common deny = [] ↔ ∀ role ∈ allow.members, role ∉ deny.members := by
    simp [OrderedSet.common, OrderedSet.contains, List.filter_eq_nil_iff]
  unfold Clear
  rw [hfilled, hfilled]
  simp only [hapart]
  exact ⟨fun h => ⟨h.1, h.2.1, h.2.2⟩, fun h => ⟨h.allow, h.deny, h.apart⟩⟩

theorem Page.accessClear_iff_sound : p.AccessClear ↔ ∀ rule, p.HasRule rule → rule.Sound := by
  simp only [accessClear_iff, ← AccessRule.clear_iff]
  constructor
  · rintro ⟨hnodes, hpatches⟩ rule h
    cases h with
    | component hr hc h => exact hnodes.components _ hr _ hc rule h
    | dataSource hs h => exact hnodes.dataSources _ hs rule h
    | action ha h => exact hnodes.actions _ ha rule h
    | regionPayload hpatch hpayload hc h => exact hpatches _ hpatch _ hpayload _ hc rule h
    | componentPayload hpatch hpayload h => exact hpatches _ hpatch _ hpayload rule h
    | dataSourcePayload hpatch hpayload h => exact hpatches _ hpatch _ hpayload rule h
    | actionPayload hpatch hpayload h => exact hpatches _ hpatch _ hpayload rule h
  · intro h
    refine ⟨⟨fun _ hr _ hc rule hrule => h rule (.component hr hc hrule),
      fun _ hs rule hrule => h rule (.dataSource hs hrule),
      fun _ ha rule hrule => h rule (.action ha hrule)⟩, ?_⟩
    intro patch hpatch payload hpayload
    cases payload with
    | region components =>
      exact fun _ hc rule hrule => h rule (.regionPayload hpatch hpayload hc hrule)
    | component given => exact fun rule hrule => h rule (.componentPayload hpatch hpayload hrule)
    | dataSource given => exact fun rule hrule => h rule (.dataSourcePayload hpatch hpayload hrule)
    | action given => exact fun rule hrule => h rule (.actionPayload hpatch hpayload hrule)

theorem Scope.isEmpty_iff {scope : Scope} : scope.isEmpty = true ↔ scope = .unset := by
  obtain ⟨tenant, role, variant, locale⟩ := scope
  simp [isEmpty, count, dimensions, unset, List.filter_eq_nil_iff]

theorem Rules.isVersion_eq_nil {field text : String} :
    isVersion field text = [] ↔ ∃ v, Version.parse text = .ok v := by
  unfold isVersion
  cases Version.parse text with
  | error e => simp
  | ok v => simp

/-- A version that was live but cannot be read stands in the way of none. -/
theorem Rules.notBehind_eq_nil {content : String} {v : Version}
    (hv : Version.parse content = .ok v) : notBehind content live = [] ↔
      ∀ text old, live = some text → Version.parse text = .ok old → compare v old ≠ .lt := by
  have hcontent : (Version.parse content).toOption = some v := by rw [hv]; rfl
  unfold notBehind
  rw [hcontent]
  constructor
  · rintro h text old rfl hold
    simpa [hold, Except.toOption, Version.lessThan] using h
  · intro h
    cases hlive : live with
    | none => simp
    | some text =>
      cases hold : Version.parse text with
      | error e => simp [hold, Except.toOption]
      | ok old => simp [hold, Except.toOption, Version.lessThan, h text old hlive hold]

namespace Page

/-- The rules find no error in a blueprint exactly if it is sound, whatever overlays and whatever
blueprint they are given with it. -/
theorem no_errors_iff_soundBlueprint {root : Node} {ctx : RuleContext}
    (hdocument : ofDocument root = .ok p) (hkind : p.kind = .blueprint) :
    (p.validate ctx).errors = [] ↔ p.SoundBlueprint ctx.priorVersion := by
  have hvalid : (p.validate ctx).errors = [] ↔ (p.validate ctx).valid = true :=
    List.isEmpty_iff.symm
  have hnamed : ∀ q ∈ p.properties, q.NamesField := fun _ hq => namesField hdocument hq
  rw [hvalid, blueprint_valid_iff hkind, accessClear_iff_sound, Scope.isEmpty_iff]
  unfold VersionsRead
  rw [Rules.isVersion_eq_nil, Rules.isVersion_eq_nil]
  constructor
  · rintro ⟨hid, hscope, hunique, hreferences, ⟨⟨hschema, v, hv⟩, hbehind⟩, haccess, hexpressions⟩
    have hsound := (sound_properties_iff hunique hnamed).1 ⟨hreferences, hexpressions⟩
    obtain ⟨hcomponents, hactions⟩ := (forall_propertyLists
      (P := fun props => ∀ q ∈ props, q.value.Sound p props)).1 hsound
    exact {
      pageId := Option.ne_none_iff_exists'.1 hid
      scope := hscope
      uniqueIds := hunique
      components := hcomponents
      actions := hactions
      schemaVersion := hschema
      contentVersion := ⟨v, hv, (Rules.notBehind_eq_nil hv).1 hbehind⟩
      access := haccess }
  · intro h
    obtain ⟨v, hv, hbehind⟩ := h.contentVersion
    have hsound := (forall_propertyLists
      (P := fun props => ∀ q ∈ props, q.value.Sound p props)).2 ⟨h.components, h.actions⟩
    obtain ⟨hreferences, hexpressions⟩ := (sound_properties_iff h.uniqueIds hnamed).2 hsound
    exact ⟨Option.ne_none_iff_exists'.2 h.pageId, h.scope, h.uniqueIds, hreferences,
      ⟨⟨h.schemaVersion, v, hv⟩, (Rules.notBehind_eq_nil hv).2 hbehind⟩, h.access, hexpressions⟩

end Page

/-- It may follow a preview of its own version, and not a later version. -/
theorem plain_sound : ∃ p, Page.ofDocument plainDocument = .ok p ∧ p.kind = .blueprint ∧
    p.SoundBlueprint (some "1.0.0-rc.1") ∧ ¬p.SoundBlueprint (some "1.0.1") := by
  have hsound := fun live =>
    @Page.no_errors_iff_soundBlueprint _ plainDocument ⟨none, [], live⟩ rfl rfl
  exact ⟨_, rfl, rfl, (hsound _).1 (by decide), mt (hsound _).2 (by decide)⟩

end PageLayers
