import PageLayers.Proofs.Page.ContractTable
import PageLayers.Proofs.Render.Isolation
import PageLayers.Proofs.Render.Noninterference

/-! References that held in the tree of the last overlay hold when the merged page is rendered: what
properties are bound to is declared and was loaded, whatever the viewer and the collaborators. -/

namespace PageLayers

variable {config : EvaluatorConfig} {viewer : Viewer} {ask : DataSource → Reply} {r : ResolvedPage}
  {p : Page} {q : Property} {b : Binding} {s : DataSource} {id : String} {listing : Listing}

/-- The reasons for no value that lie in a reference which leads nowhere. -/
inductive Unavailable.Dangling : Unavailable → Prop where
  | noContractField (id : String) : Dangling (.noContractField id)
  | notLoaded (id : String) : Dangling (.notLoaded id)
  | undeclared (id : String) : Dangling (.sourceError (.sourceFailed id .undeclared))

/-- What is shown of a binding has no such reason, and static data is shown to those who may see
it. -/
structure Binding.Led (b : Binding) (p : Page) (viewer : Viewer) (shown : RenderValue) : Prop where
  somewhere : ∀ reason, shown = .unavailable reason → ¬reason.Dangling
  static : ∀ s ∈ p.dataSources, ∀ path data, b = .path s.id path → s.origin = .static data →
    viewer.sees s.access → ∃ j, data.lookupPath path = some j ∧ shown = .ready j

namespace Page

theorem mem_properties_of_visibleTo (h : q ∈ (p.visibleTo viewer).properties) :
    q ∈ p.properties := by
  obtain ⟨l, hl, hq⟩ := mem_properties.1 h
  exact mem_properties.2 ⟨l, mem_propertyLists_of_visibleTo hl, hq⟩

/-- The rules hold of a path only if its source is declared and resolves it. -/
theorem ReferencesHold.path {path : String} (h : p.ReferencesHold) (hq : q ∈ p.properties)
    (hpath : q.value = .binding (.path id path)) :
    ∃ s, p.dataSource? id = some s ∧ s.resolves path = true := by
  obtain ⟨l, hl, hql⟩ := mem_properties.1 hq
  have hholds := h l hl q hql
  simp only [Rules.propertyHolds, hpath] at hholds
  exact Rules.pathHolds_eq_nil.1 hholds

/-- What a binding reads is a field or a path of a declared source. The source need not be the one
that was checked, where the id of another begins the name. -/
theorem ReferencesHold.target (h : p.ReferencesHold) (hq : q ∈ p.properties)
    (hnamed : q.NamesField) (hb : q.value = .binding b) :
    ∃ s ∈ p.dataSources, ∃ path, p.contractTable.target? b = some ⟨s.id, path⟩ := by
  cases b with
  | path id path =>
    obtain ⟨s, hs, -⟩ := h.path hq hb
    have hid : s.id = id := by simpa using List.find?_some hs
    exact ⟨s, List.mem_of_find?_eq_some hs, path, by rw [hid]; rfl⟩
  | contract name =>
    obtain ⟨s, hs, path, hid, hpath⟩ := h.field hq hb
    obtain ⟨field, hfield⟩ := hnamed name hb
    rw [hfield] at hpath
    have hspells : s.Spells name path := ⟨field, hpath, hid ▸ before_dot_after hfield⟩
    have hentry : (name, ⟨s.id, path⟩) ∈ p.dataSources.flatMap DataSource.tableEntries :=
      List.mem_flatMap.2 ⟨s, hs, DataSource.mem_tableEntries.2 ⟨path, hspells, rfl⟩⟩
    -- a later source with an entry of this name takes the place, and is declared as well
    obtain ⟨ref, href⟩ := Option.ne_none_iff_exists'.1 (OrderedMap.get?_ofList_ne_none hentry)
    obtain ⟨d, hd, hdentry⟩ := List.mem_flatMap.1 (OrderedMap.mem_of_get?_ofList href)
    obtain ⟨path', -, rfl⟩ := DataSource.mem_tableEntries.1 hdentry
    exact ⟨d, hd, path', href⟩

/-- Static data that the viewer may see is there. -/
theorem loadSource_static {data : Json} (hs : p.dataSource? id = some s)
    (hdata : s.origin = .static data) (hsees : viewer.sees s.access) :
    p.loadSource (m := Id) config ask viewer id = .ready data := by
  simp only [loadSource, hs, hsees, DataSource.load, hdata, if_true]
  rfl

/-- A declared source comes to nothing but data, a denial, or what its collaborator made of it. -/
theorem loadSource_declared (hs : p.dataSource? id = some s) :
    p.loadSource (m := Id) config ask viewer id ≠ .failed .undeclared := by
  simp only [loadSource, hs]
  split
  · unfold DataSource.load
    cases s.origin with
    | static data => exact fun h => nomatch h
    | http request =>
      show (ask s).settle _ ≠ _
      unfold Reply.settle
      grind
    | service handler args timeoutMs =>
      show (ask s).settle _ ≠ _
      unfold Reply.settle
      grind
  · exact fun h => nomatch h

end Page

theorem RenderContext.not_dangling_of_fieldValue {ctx : RenderContext} {target : FieldRef}
    {result : SourceResult} {reason : Unavailable}
    (hresult : ctx.results.get? target.source = some result)
    (hfault : result ≠ .failed .undeclared) (h : ctx.fieldValue target = .unavailable reason) :
    ¬reason.Dangling := by
  unfold fieldValue at h
  rw [hresult] at h
  intro hreason
  cases result with
  | ready data =>
    dsimp only at h
    split at h
    · cases h
    · cases h
      cases hreason
  | denied =>
    cases h
    cases hreason
  | failed fault =>
    cases h
    cases hreason
    exact hfault rfl
  | timedOut afterMs =>
    cases h
    cases hreason

theorem RenderModel.results_of_sourceFailed {fingerprint : String} {ctx : RenderContext}
    {results : SourceResults} {fault : SourceFault} (h : .sourceFailed id fault ∈
      (RenderModel.ofResults fingerprint p ctx (listing.list results)).errors) :
    results.get? id = some (.failed fault) := by
  rcases errors_ofResults h with ⟨node, name, fault, herror⟩ | ⟨⟨id', result⟩, hentry, herror⟩
  · cases herror
  · have hentry' := OrderedMap.get?_eq_some.2 ((listing.perm results).mem_iff.1 hentry)
    cases result <;> cases herror
    exact hentry'

namespace ResolvedPage

/-- What it takes of a resolved page for its references to be good. -/
structure Linked (r : ResolvedPage) : Prop where
  contracts : r.contracts = r.page.contractTable
  uniqueIds : r.page.UniqueIds
  references : r.page.ReferencesHold
  named : ∀ q ∈ r.page.properties, q.NamesField

theorem results_eq_some {result : SourceResult} :
    (r.loadedContext config viewer ask).results.get? id = some result ↔
      id ∈ ((r.page.visibleTo viewer).boundSources r.contracts).members ∧
        (r.page.visibleTo viewer).loadSource (m := Id) config ask viewer id = result :=
  OrderedMap.get?_of_entries_map Page.loadSources_entries

theorem Linked.target (h : r.Linked) (hq : q ∈ (r.page.visibleTo viewer).properties)
    (hb : q.value = .binding b) :
    ∃ s ∈ r.page.dataSources, ∃ path, r.contracts.target? b = some ⟨s.id, path⟩ := by
  have hpage := Page.mem_properties_of_visibleTo hq
  rw [h.contracts]
  exact h.references.target hpage (h.named q hpage) hb

/-- Each source that is loaded for a viewer is declared. -/
theorem Linked.declared (h : r.Linked)
    (hid : id ∈ ((r.page.visibleTo viewer).boundSources r.contracts).members) :
    ∃ s ∈ r.page.dataSources, s.id = id := by
  obtain ⟨q, hq, b, hb, hsource⟩ := mem_boundSources.1 hid
  obtain ⟨s, hs, path, htarget⟩ := h.target hq hb
  refine ⟨s, hs, ?_⟩
  simpa [ContractTable.sourceOf, htarget] using hsource

/-- What a binding that the viewer sees comes to: what became of its source, which is declared. -/
theorem Linked.bindingValue (h : r.Linked) (hq : q ∈ (r.page.visibleTo viewer).properties)
    (hb : q.value = .binding b) :
    ∃ s ∈ r.page.dataSources, ∃ path, r.contracts.target? b = some ⟨s.id, path⟩ ∧
      (r.loadedContext config viewer ask).results.get? s.id =
        some ((r.page.visibleTo viewer).loadSource (m := Id) config ask viewer s.id) ∧
      (r.loadedContext config viewer ask).bindingValue b =
        (r.loadedContext config viewer ask).fieldValue ⟨s.id, path⟩ := by
  obtain ⟨s, hs, path, htarget⟩ := h.target hq hb
  have hbound : s.id ∈ ((r.page.visibleTo viewer).boundSources r.contracts).members :=
    mem_boundSources.2 ⟨q, hq, b, hb, by simp [ContractTable.sourceOf, htarget]⟩
  refine ⟨s, hs, path, htarget, results_eq_some.2 ⟨hbound, rfl⟩, ?_⟩
  have hcontracts : (r.loadedContext config viewer ask).contracts = r.contracts := rfl
  simp only [RenderContext.bindingValue, hcontracts, htarget]

/-- The two sides meet here: the rules checked the path in static data, and the same data is there
when the path is read. -/
theorem Linked.led (h : r.Linked) (hq : q ∈ (r.page.visibleTo viewer).properties)
    (hb : q.value = .binding b) :
    b.Led r.page viewer ((r.loadedContext config viewer ask).bindingValue b) := by
  obtain ⟨s, hs, path, htarget, hresult, hvalue⟩ := h.bindingValue hq hb
  rw [hvalue]
  have hsource : (r.page.visibleTo viewer).dataSource? s.id = some s :=
    h.uniqueIds.dataSource?_eq hs
  constructor
  · intro reason hreason
    refine RenderContext.not_dangling_of_fieldValue hresult ?_ hreason
    exact Page.loadSource_declared hsource
  · rintro d hd path data rfl hdata hsees
    obtain ⟨hid, rfl⟩ := FieldRef.mk.inj (Option.some.inj htarget)
    obtain rfl : d = s := List.inj_on_of_nodup_map (h.uniqueIds .dataSource) hd hs hid
    obtain ⟨d', hd', hresolves⟩ := h.references.path (Page.mem_properties_of_visibleTo hq) hb
    rw [h.uniqueIds.dataSource?_eq hs] at hd'
    obtain rfl := Option.some.inj hd'
    rw [DataSource.resolves, hdata] at hresolves
    obtain ⟨j, hj⟩ := Option.isSome_iff_exists.1 hresolves
    rw [Page.loadSource_static hsource hdata hsees] at hresult
    refine ⟨j, hj, ?_⟩
    simp only [RenderContext.fieldValue, hresult, hj]

/-- Each source that fails for a viewer is declared, and fails for what its collaborator says. -/
theorem Linked.sourceFailed (h : r.Linked) {fault : SourceFault}
    (herror : .sourceFailed id fault ∈ (r.modelFor listing config viewer ask).errors) :
    fault ≠ .undeclared ∧ ∃ s ∈ r.page.dataSources, s.id = id := by
  obtain ⟨hbound, hfailed⟩ := results_eq_some.1 (RenderModel.results_of_sourceFailed herror)
  obtain ⟨s, hs, rfl⟩ := h.declared hbound
  refine ⟨?_, s, hs, rfl⟩
  rintro rfl
  exact Page.loadSource_declared (h.uniqueIds.dataSource?_eq hs) hfailed

end ResolvedPage

section

variable {root : Node} {blueprint : LayerInput} {overlays : List LayerInput} {ctx : RuleContext}

/-- Documents that the rules accept one after another resolve to a page with good references. -/
theorem AcceptedChain.linked
    (hchain : AcceptedChain blueprint.page (overlays.map LayerInput.page))
    (hdocument : Page.ofDocument root = .ok blueprint.page)
    (hkind : blueprint.page.kind = .blueprint)
    (hvalid : (blueprint.page.validate ctx).valid = true)
    (hdocuments : ∀ o ∈ overlays, ∃ root, Page.ofDocument root = .ok o.page) :
    ∃ r, ResolvedPage.ofLayers blueprint overlays = .ok r ∧ r.Linked := by
  obtain ⟨htree, hmerged⟩ := hchain.merges (Page.extends_of_valid hkind hvalid)
  obtain ⟨hreferences, -⟩ := hchain.holds hkind hvalid
  have hnamed : ∀ q ∈ (List.foldl Page.underLayer blueprint.page
      (overlays.map LayerInput.page)).properties, q.NamesField := by
    refine Page.properties_of_underLayers (P := fun v => ∀ name, v = .binding (.contract name) →
      ∃ field, Text.after? '.' name = some field) ?_ fun q hq => Page.namesField hdocument hq
    intro o ho patch hpatch q hq
    obtain ⟨layer, hlayer, rfl⟩ := List.mem_map.1 ho
    obtain ⟨root, hroot⟩ := hdocuments layer hlayer
    exact Page.namesField_patches hroot hpatch hq
  generalize List.foldl Page.underLayer blueprint.page (overlays.map LayerInput.page) = tree at *
  have hresolved : ResolvedPage.ofLayers blueprint overlays =
      .ok (.ofMerged tree (blueprint :: overlays)) := by
    rw [List.foldlM_map] at hmerged
    simp [ResolvedPage.ofLayers, hkind, hmerged]
  exact ⟨_, hresolved, rfl, htree.uniqueIds, hreferences, hnamed⟩

/-- Of documents that the rules accept one after another, the merged page is rendered without a
reference that leads nowhere, for each viewer and whatever collaborators do: each source that is
asked for is declared, each declared field that a property names is found, and the paths into static
data, checked in the tree of the last overlay, end at the values that are shown. -/
theorem accepted_references_led (hdocument : Page.ofDocument root = .ok blueprint.page)
    (hkind : blueprint.page.kind = .blueprint)
    (hvalid : (blueprint.page.validate ctx).valid = true)
    (hdocuments : ∀ o ∈ overlays, ∃ root, Page.ofDocument root = .ok o.page)
    (hchain : AcceptedChain blueprint.page (overlays.map LayerInput.page)) :
    ∃ r, ResolvedPage.ofLayers blueprint overlays = .ok r ∧ ∀ config viewer ask,
      ∃ value : List Property → Property → RenderValue,
        (∀ listing, (r.modelFor listing config viewer ask).Shows (r.page.visibleTo viewer) value) ∧
        (∀ listing id fault,
          .sourceFailed id fault ∈ (r.modelFor listing config viewer ask).errors →
          fault ≠ .undeclared ∧ ∃ s ∈ r.page.dataSources, s.id = id) ∧
        ∀ l ∈ (r.page.visibleTo viewer).propertyLists, ∀ q ∈ l.2, ∀ b, q.value = .binding b →
          b.Led r.page viewer (value l.2 q) := by
  obtain ⟨r, hresolved, hlinked⟩ := hchain.linked hdocument hkind hvalid hdocuments
  refine ⟨r, hresolved, fun config viewer ask => ⟨_, fun _ => ResolvedPage.modelFor_shows,
    fun _ _ _ => hlinked.sourceFailed, ?_⟩⟩
  intro l hl q hq b hb
  simp only [hb]
  exact hlinked.led (Page.mem_properties.2 ⟨l, hl, hq⟩) hb

end

/-- Members are greeted with a text that is looked up by its path, from data of their own. -/
def memberDocument : Node :=
  .mk "overlay"
    (.ofList [("extends", .str "home"), ("module", .str "shop"), ("route", .str "/"),
      ("role", .str "member"), ("schemaVersion", .str "1.0.0"), ("contentVersion", .str "1.0.0")])
    [.mk "patch"
      (.ofList [("id", .str "copy"), ("target", .str "dataSource"), ("op", .str "merge")])
      [.mk "dataSource"
        (.ofList [("kind", .str "static"), ("data", .obj [("title", .str "Hello again")])]) []],
     .mk "patch"
      (.ofList [("id", .str "hero"), ("target", .str "component"), ("op", .str "merge")])
      [.mk "component" ∅
        [.mk "prop"
          (.ofList [("name", .str "title"), ("source", .str "copy"), ("path", .str "title")]) []]]]

theorem member_references_led : ∃ blueprint overlay,
    Page.ofDocument plainDocument = .ok blueprint ∧
    Page.ofDocument memberDocument = .ok overlay ∧
    ∃ r, ResolvedPage.ofLayers ⟨blueprint, "a"⟩ [⟨overlay, "b"⟩] = .ok r ∧
      ∀ config viewer ask, ∃ value : List Property → Property → RenderValue,
        (∀ listing, (r.modelFor listing config viewer ask).Shows (r.page.visibleTo viewer) value) ∧
        (∀ listing id fault,
          .sourceFailed id fault ∈ (r.modelFor listing config viewer ask).errors →
          fault ≠ .undeclared ∧ ∃ s ∈ r.page.dataSources, s.id = id) ∧
        ∀ l ∈ (r.page.visibleTo viewer).propertyLists, ∀ q ∈ l.2, ∀ b, q.value = .binding b →
          b.Led r.page viewer (value l.2 q) := by
  refine ⟨_, _, rfl, rfl, ?_⟩
  refine @accepted_references_led plainDocument ⟨_, "a"⟩ [⟨_, "b"⟩] ⟨none, [], none⟩ rfl rfl
    (by decide) ?_ ?_
  · intro o ho
    obtain rfl := List.mem_singleton.1 ho
    exact ⟨memberDocument, rfl⟩
  · exact @AcceptedChain.snoc _ [] _ none .nil rfl (by decide)

end PageLayers
