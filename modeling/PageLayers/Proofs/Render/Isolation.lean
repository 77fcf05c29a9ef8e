import PageLayers.Proofs.Expression.Scope
import PageLayers.Proofs.Overlay.Accepted
import PageLayers.Proofs.Render.Listing
import Mathlib.Data.List.Find

/-! What becomes of one source shows in the properties that read it, and nowhere else. -/

namespace PageLayers

/-- A property is bound to a field of the source of that id. -/
def Property.BoundTo (table : ContractTable) (id : String) (q : Property) : Prop :=
  ∃ b path, q.value = .binding b ∧ table.target? b = some ⟨id, path⟩

/-- What becomes of a source may show in a property of a node: one that is bound to the source, or
an expression that mentions a property of the node that is. -/
def Property.Depends (table : ContractTable) (id : String) (props : List Property) (q : Property) :
    Prop :=
  q.BoundTo table id ∨ ∃ source e, q.value = .expression source ∧ Expr.parse source = .ok e ∧
    ∃ read ∈ props, read.BoundTo table id ∧ read.name ∈ e.roots.members

/-- A model shows the regions, components and actions of a page, in order, with a value for each
property, which may depend on the other properties of its node. -/
structure RenderModel.Shows (m : RenderModel) (p : Page)
    (value : List Property → Property → RenderValue) : Prop where
  regions : m.regions = p.regions.map fun g => ⟨g.id, g.components.map fun c =>
    ⟨c.id, c.typeName, c.space, c.version, c.props.map fun q => ⟨q.name, value c.props q⟩⟩⟩
  actions : m.actions = p.actions.map fun a =>
    ⟨a.id, a.kind, a.config.map fun q => ⟨q.name, value a.config q⟩⟩

variable {config : EvaluatorConfig} {viewer : Viewer} {r : ResolvedPage} {id name : String}
  {props : List Property} {q : Property} {listing : Listing}

namespace OrderedMap

variable {κ α : Type} [Ord κ] [Std.LawfulEqOrd κ] {k : κ} {v : α}

/-- A map that has an entry for each of some keys. -/
theorem get?_of_entries_map {m : OrderedMap κ α} {f : κ → α} {keys : List κ}
    (h : m.entries = keys.map fun k => (k, f k)) : m.get? k = some v ↔ k ∈ keys ∧ f k = v := by
  rw [get?_eq_some, h]
  simp only [List.mem_map, Prod.mk.injEq]
  constructor
  · rintro ⟨k', hk', rfl, rfl⟩
    exact ⟨hk', rfl⟩
  · rintro ⟨hk, rfl⟩
    exact ⟨k, hk, rfl, rfl⟩

end OrderedMap

namespace RenderContext

variable {ctx ctx' : RenderContext}

/-- A name in scope stands for the last binding of that name that has a value. -/
theorem get?_namesInScope (hconst : name ≠ "const") {bound : List (String × RenderValue)} :
    (ctx.namesInScope bound).get? name =
      ((bound.filter (·.1 = name)).filterMap fun b => b.2.value?).getLast? := by
  unfold namesInScope
  rw [OrderedMap.get?_insert_of_ne hconst]
  induction bound using List.reverseRecOn with
  | nil => rfl
  | append_singleton bound b ih =>
    rw [List.filterMap_append, List.filter_append, List.filterMap_append]
    cases hvalue : b.2.value? with
    | none =>
      have hnone : ([b].filter (·.1 = name)).filterMap (fun b => b.2.value?) = [] := by
        by_cases hname : b.1 = name <;> simp [hname, hvalue]
      simp [hvalue, hnone, ih]
    | some value =>
      have hready : [b].filterMap (fun b => b.2.value?.map (b.1, ·)) = [(b.1, value)] := by
        simp [hvalue]
      rw [hready, OrderedMap.ofList_concat]
      by_cases hname : b.1 = name
      · subst hname
        simp [hvalue]
      · rw [OrderedMap.get?_insert_of_ne (Ne.symm hname), ih]
        simp [hname]

/-- Two contexts that differ in what became of one source at most. -/
structure DifferAt (id : String) (ctx ctx' : RenderContext) : Prop where
  contracts : ctx'.contracts = ctx.contracts
  actionIds : ctx'.actionIds = ctx.actionIds
  constants : ctx'.constants = ctx.constants
  gasLimit : ctx'.gasLimit = ctx.gasLimit
  results : ∀ other, other ≠ id → ctx'.results.get? other = ctx.results.get? other

variable (h : DifferAt id ctx ctx')

include h

theorem DifferAt.bindingValue {b : Binding} (hq : q.value = .binding b)
    (hbound : ¬q.BoundTo ctx.contracts id) : ctx'.bindingValue b = ctx.bindingValue b := by
  unfold RenderContext.bindingValue
  rw [h.contracts]
  cases htarget : ctx.contracts.target? b with
  | none => rfl
  | some target =>
    have hsource : target.source ≠ id := by
      rintro rfl
      exact hbound ⟨b, target.path, hq, htarget⟩
    simp only [fieldValue, h.results _ hsource]

/-- A name that no property bound to the source has stands for the same bindings in both. -/
theorem DifferAt.bindings_named
    (hname : ∀ q ∈ props, q.BoundTo ctx.contracts id → q.name ≠ name) :
    (ctx'.bindings props).filter (·.1 = name) = (ctx.bindings props).filter (·.1 = name) := by
  unfold bindings
  rw [List.filter_filterMap, List.filter_filterMap]
  refine List.filterMap_congr fun q hq => ?_
  cases hvalue : q.value with
  | binding b =>
    by_cases hbound : q.BoundTo ctx.contracts id
    · simp [Option.filter, hname q hq hbound]
    · simp [h.bindingValue hvalue hbound]
  | static _ => rfl
  | expression _ => rfl
  | action _ => rfl

theorem DifferAt.any_bindings {f : RenderValue → Bool}
    (hname : ∀ q ∈ props, q.BoundTo ctx.contracts id → q.name ≠ name) :
    (ctx'.bindings props).any (fun b => b.1 = name && f b.2) =
      (ctx.bindings props).any (fun b => b.1 = name && f b.2) := by
  rw [← List.any_filter, ← List.any_filter, h.bindings_named hname]

theorem DifferAt.namesInScope
    (hname : ∀ q ∈ props, q.BoundTo ctx.contracts id → q.name ≠ name) :
    (ctx'.namesInScope (ctx'.bindings props)).get? name =
      (ctx.namesInScope (ctx.bindings props)).get? name := by
  by_cases hconst : name = "const"
  · subst hconst
    simp only [RenderContext.namesInScope, OrderedMap.get?_insert_self, h.constants]
  · rw [get?_namesInScope hconst, get?_namesInScope hconst, h.bindings_named hname]

theorem DifferAt.expressionValue {source : String} (hq : q.value = .expression source)
    (hdepends : ¬q.Depends ctx.contracts id props) :
    ctx'.expressionValue (ctx'.bindings props) source =
      ctx.expressionValue (ctx.bindings props) source := by
  unfold RenderContext.expressionValue
  cases hparse : Expr.parse source with
  | error e => rfl
  | ok e =>
    have hname : ∀ name ∈ e.roots.members, ∀ q ∈ props, q.BoundTo ctx.contracts id →
        q.name ≠ name := by
      rintro _ hroot read hread hbound rfl
      exact hdepends (.inr ⟨source, e, hq, hparse, read, hread, hbound, hroot⟩)
    have hfind : e.roots.members.find?
          (fun name => (ctx'.bindings props).any fun b => b.1 = name ∧ b.2.value? = none) =
        e.roots.members.find?
          (fun name => (ctx.bindings props).any fun b => b.1 = name ∧ b.2.value? = none) := by
      refine List.find?_congr fun name hroot => ?_
      simpa using h.any_bindings (f := fun v => v.value? = none) (hname name hroot)
    have heval : e.eval (ctx'.namesInScope (ctx'.bindings props)) ctx.gasLimit =
        e.eval (ctx.namesInScope (ctx.bindings props)) ctx.gasLimit :=
      Expr.eval_of_agreeOn_roots fun name hroot => h.namesInScope (hname name hroot)
    simp only [hfind, h.gasLimit, heval]

/-- A property that does not depend on the source has one value in both contexts. -/
theorem DifferAt.value (hdepends : ¬q.Depends ctx.contracts id props) :
    ctx'.value (ctx'.bindings props) q.value = ctx.value (ctx.bindings props) q.value := by
  cases hvalue : q.value with
  | static _ => rfl
  | binding b => exact h.bindingValue hvalue fun hbound => hdepends (.inl hbound)
  | action _ => simp only [RenderContext.value, h.actionIds]
  | expression source => exact h.expressionValue hvalue hdepends

end RenderContext

section

variable {p : Page} {ask ask' : DataSource → Reply} {ids : OrderedSet String} {other : String}

/-- What a viewer sees of a node's properties is all of them. -/
theorem Page.mem_propertyLists_of_visibleTo {l : String × List Property}
    (h : l ∈ (p.visibleTo viewer).propertyLists) : l ∈ p.propertyLists := by
  simp only [propertyLists, visibleTo, components, List.flatMap_map, List.mem_append, List.mem_map,
    List.mem_flatMap, List.mem_filter] at h ⊢
  rcases h with ⟨c, ⟨g, hg, hc, -⟩, rfl⟩ | ⟨a, ⟨ha, -⟩, rfl⟩
  · exact .inl ⟨c, ⟨g, hg, hc⟩, rfl⟩
  · exact .inr ⟨a, ha, rfl⟩

theorem Page.loadSources_entries :
    (p.loadSources (m := Id) config ask viewer ids).entries =
      ids.members.map fun id => (id, p.loadSource (m := Id) config ask viewer id) := by
  have hlist : p.loadSources (m := Id) config ask viewer ids =
      OrderedMap.ofList (ids.members.map fun id =>
        (id, p.loadSource (m := Id) config ask viewer id)) :=
    congrArg OrderedMap.ofList List.idRun_mapM
  rw [hlist]
  refine OrderedMap.ofList_entries ?_
  rw [List.pairwise_map]
  exact ids.ascending

/-- A source that is not the one in question comes to the same. -/
theorem Page.loadSource_congr (h : ∀ s ∈ p.dataSources, s.id ≠ id → ask' s = ask s)
    (hother : other ≠ id) :
    p.loadSource (m := Id) config ask' viewer other =
      p.loadSource (m := Id) config ask viewer other := by
  unfold Page.loadSource
  cases hsource : p.dataSource? other with
  | none => rfl
  | some s =>
    have hid : s.id = other := by simpa using List.find?_some hsource
    have hask : ask' s = ask s := h s (List.mem_of_find?_eq_some hsource) (hid ▸ hother)
    simp only [DataSource.load, hask]

theorem Page.get?_loadSources_congr (h : ∀ s ∈ p.dataSources, s.id ≠ id → ask' s = ask s)
    (hother : other ≠ id) :
    (p.loadSources (m := Id) config ask' viewer ids).get? other =
      (p.loadSources (m := Id) config ask viewer ids).get? other := by
  refine Option.ext fun result => ?_
  rw [OrderedMap.get?_of_entries_map loadSources_entries,
    OrderedMap.get?_of_entries_map loadSources_entries, loadSource_congr h hother]

end

namespace ResolvedPage

/-- The model that a viewer is given where collaborators answer as told for each source. -/
def modelFor (listing : Listing) (config : EvaluatorConfig) (viewer : Viewer)
    (ask : DataSource → Reply) (r : ResolvedPage) : RenderModel :=
  r.evaluateListed (m := Id) listing config ask viewer

/-- What the properties of that model are evaluated against. -/
def loadedContext (config : EvaluatorConfig) (viewer : Viewer) (ask : DataSource → Reply)
    (r : ResolvedPage) : RenderContext :=
  let visible := r.page.visibleTo viewer
  r.contextFor config.gasLimit visible
    (visible.loadSources (m := Id) config ask viewer (visible.boundSources r.contracts))

variable {ask ask' : DataSource → Reply}

theorem modelFor_eq : r.modelFor listing config viewer ask =
    .ofResults r.fingerprint (r.page.visibleTo viewer) (r.loadedContext config viewer ask)
      (listing.list (r.loadedContext config viewer ask).results) :=
  rfl

theorem modelFor_shows : (r.modelFor listing config viewer ask).Shows (r.page.visibleTo viewer)
    (fun props q => (r.loadedContext config viewer ask).value
      ((r.loadedContext config viewer ask).bindings props) q.value) :=
  ⟨rfl, rfl⟩

theorem modelFor_sources_entries : (r.modelFor listing config viewer ask).sources.entries =
    ((r.page.visibleTo viewer).boundSources r.contracts).members.map fun id =>
      (id, ((r.page.visibleTo viewer).loadSource (m := Id) config ask viewer id).status id) := by
  have hresults : (r.loadedContext config viewer ask).results.entries = _ :=
    Page.loadSources_entries
  rw [modelFor_eq, RenderModel.ofResults_sources_entries, hresults, List.map_map]
  rfl

end ResolvedPage

/-- What a collaborator makes of one source, be it a value, an error or no answer in time, is seen
in the status of the source and in the properties that depend on it. Regions, components, actions
and the names of all properties stay as they are, and so do all other values and statuses, in
whatever orders the results of sources are gone through. -/
theorem source_outcome_isolated {ask ask' : DataSource → Reply}
    (h : ∀ s ∈ r.page.dataSources, s.id ≠ id → ask' s = ask s) :
    ∃ value value' : List Property → Property → RenderValue, ∀ listing listing',
      (r.modelFor listing config viewer ask).Shows (r.page.visibleTo viewer) value ∧
      (r.modelFor listing' config viewer ask').Shows (r.page.visibleTo viewer) value' ∧
      (∀ props q, ¬q.Depends r.contracts id props → value' props q = value props q) ∧
      (r.modelFor listing' config viewer ask').sources.keys =
        (r.modelFor listing config viewer ask).sources.keys ∧
      ∀ other, other ≠ id → (r.modelFor listing' config viewer ask').sources.get? other =
        (r.modelFor listing config viewer ask).sources.get? other := by
  have hvisible : ∀ s ∈ (r.page.visibleTo viewer).dataSources, s.id ≠ id → ask' s = ask s := h
  have hdiffer : RenderContext.DifferAt id (r.loadedContext config viewer ask)
      (r.loadedContext config viewer ask') :=
    ⟨rfl, rfl, rfl, rfl, fun _ hother => Page.get?_loadSources_congr hvisible hother⟩
  refine ⟨_, _, fun listing listing' => ⟨ResolvedPage.modelFor_shows, ResolvedPage.modelFor_shows,
    fun _ _ hq => hdiffer.value hq, ?_, ?_⟩⟩
  · simp only [OrderedMap.keys, ResolvedPage.modelFor_sources_entries, List.map_map,
      Function.comp_def]
  · intro other hother
    refine Option.ext fun status => ?_
    rw [OrderedMap.get?_of_entries_map ResolvedPage.modelFor_sources_entries,
      OrderedMap.get?_of_entries_map ResolvedPage.modelFor_sources_entries,
      Page.loadSource_congr hvisible hother]

/-- A page with a property bound to each of two sources and an expression over each of them. -/
def greeting : ResolvedPage := .ofMerged
  { welcome with
    regions := [⟨"main", [⟨"hero", "Banner", "ui", none,
      [⟨"title", .binding (.path "copy" "title")⟩, ⟨"count", .binding (.path "stock" "count")⟩,
       ⟨"heading", .expression "upper(title)"⟩, ⟨"low", .expression "count < 3"⟩], none⟩]⟩]
    dataSources := [⟨"copy", .service "texts" .null none, ∅, none⟩,
      ⟨"stock", .service "stock" .null none, ∅, none⟩] } []

/-- Two pieces are in stock; the texts come with the given reply. -/
def repliesWith (reply : Reply) (s : DataSource) : Reply :=
  if s.id = "copy" then reply else .after 1 (.ok (.obj [("count", .num (.int 2))]))

theorem greeting_isolated : ∃ value value' : List Property → Property → RenderValue,
    ∀ listing listing',
    (greeting.modelFor listing .default ⟨∅, ∅⟩ (repliesWith (.after 0 (.ok (.obj []))))).Shows
      (greeting.page.visibleTo ⟨∅, ∅⟩) value ∧
    (greeting.modelFor listing' .default ⟨∅, ∅⟩ (repliesWith .never)).Shows
      (greeting.page.visibleTo ⟨∅, ∅⟩) value' ∧
    (∀ props q, ¬q.Depends greeting.contracts "copy" props → value' props q = value props q) ∧
    (greeting.modelFor listing' .default ⟨∅, ∅⟩ (repliesWith .never)).sources.keys =
      (greeting.modelFor listing .default ⟨∅, ∅⟩
        (repliesWith (.after 0 (.ok (.obj []))))).sources.keys ∧
    ∀ other, other ≠ "copy" →
      (greeting.modelFor listing' .default ⟨∅, ∅⟩ (repliesWith .never)).sources.get? other =
        (greeting.modelFor listing .default ⟨∅, ∅⟩
          (repliesWith (.after 0 (.ok (.obj []))))).sources.get? other := by
  refine source_outcome_isolated fun s _ hs => ?_
  simp [repliesWith, hs]

end PageLayers
