import PageLayers.Proofs.Render.Isolation
import PageLayers.Proofs.Render.Requests
import Mathlib.Data.List.Forall2

/-! What a viewer is given mirrors what the viewer may see of a page, and for each of its bindings
says what became of the source. -/

namespace PageLayers

variable {σ : Type} {config : EvaluatorConfig} {viewer : Viewer} {r : ResolvedPage} {p : Page}
  {m : RenderModel} {ctx : RenderContext} {fingerprint id : String} {q : Property}
  {listing : Listing}

/-- Some source failed or was not there in time. -/
inductive SourceStatus.Failing : SourceStatus → Prop where
  | failed (message : String) : Failing (.failed message)
  | timedOut (afterMs : Nat) : Failing (.timedOut afterMs)

/-- A property is shown under its name. A binding is ready only if its source is, and an action that
is shown is one of the model. -/
structure Property.ShownAs (q : Property) (table : ContractTable) (m : RenderModel)
    (shown : RenderProperty) : Prop where
  name : shown.name = q.name
  ready : ∀ b j, q.value = .binding b → shown.value = .ready j →
    m.sources.get? (table.sourceOf b) = some .ready
  action : ∀ id, shown.value = .action id → ∃ a ∈ m.actions, a.id = id

structure Component.ShownAs (c : Component) (table : ContractTable) (m : RenderModel)
    (shown : RenderComponent) : Prop where
  id : shown.id = c.id
  typeName : shown.typeName = c.typeName
  space : shown.space = c.space
  version : shown.version = c.version
  props : List.Forall₂ (fun q => q.ShownAs table m) c.props shown.props

/-- Of the components of a region those are shown that the viewer may see. -/
structure Region.ShownAs (g : Region) (viewer : Viewer) (table : ContractTable) (m : RenderModel)
    (shown : RenderRegion) : Prop where
  id : shown.id = g.id
  components : List.Forall₂ (fun c => c.ShownAs table m)
    (g.components.filter fun c => viewer.sees c.access) shown.components

structure Action.ShownAs (a : Action) (table : ContractTable) (m : RenderModel)
    (shown : RenderAction) : Prop where
  id : shown.id = a.id
  kind : shown.kind = a.kind
  config : List.Forall₂ (fun q => q.ShownAs table m) a.config shown.config

/-- A model shows a viewer the regions of a page in order, with the components and the actions that
the viewer may see, and has a status for each source that these read, and for no other. -/
structure RenderModel.Mirrors (m : RenderModel) (r : ResolvedPage) (viewer : Viewer) : Prop where
  regions : List.Forall₂ (fun g => g.ShownAs viewer r.contracts m) r.page.regions m.regions
  actions : List.Forall₂ (fun a => a.ShownAs r.contracts m)
    (r.page.actions.filter fun a => viewer.sees a.access) m.actions
  sources : ∀ id, id ∈ m.sources.keys ↔ r.Reads viewer id
  failures : m.hasSourceFailures = true ↔
    ∃ id status, m.sources.get? id = some status ∧ status.Failing

namespace RenderContext

theorem expressionValue_ne_action {bound : List (String × RenderValue)} {source : String} :
    ctx.expressionValue bound source ≠ .action id := by
  unfold expressionValue
  split
  · rintro ⟨⟩
  · dsimp only
    split
    · rintro ⟨⟩
    · split <;> rintro ⟨⟩

theorem fieldValue_ne_action {target : FieldRef} : ctx.fieldValue target ≠ .action id := by
  unfold fieldValue
  split
  · split <;> rintro ⟨⟩
  all_goals rintro ⟨⟩

/-- An action that is shown is one that the context knows. -/
theorem mem_actionIds_of_value {bound : List (String × RenderValue)} {v : PropertyValue}
    (h : ctx.value bound v = .action id) : id ∈ ctx.actionIds := by
  cases v with
  | static value => cases h
  | binding b =>
    simp only [value, bindingValue] at h
    split at h
    · exact absurd h fieldValue_ne_action
    · cases h
  | action id' =>
    simp only [value] at h
    split at h
    · rename_i hknown
      cases h
      exact List.contains_iff_mem.1 hknown
    · cases h
  | expression source => exact absurd h expressionValue_ne_action

/-- A binding that is ready reads a source whose data is there. -/
theorem results_of_bindingValue {b : Binding} {j : Json} (h : ctx.bindingValue b = .ready j) :
    ∃ data, ctx.results.get? (ctx.contracts.sourceOf b) = some (.ready data) := by
  unfold bindingValue at h
  unfold ContractTable.sourceOf
  cases htarget : ctx.contracts.target? b with
  | none =>
    rw [htarget] at h
    cases h
  | some target =>
    rw [htarget] at h
    dsimp only [fieldValue] at h ⊢
    split at h
    · rename_i data hresult
      exact ⟨data, hresult⟩
    all_goals cases h

end RenderContext

theorem SourceResult.failing_status {result : SourceResult} :
    (result.status id).Failing ↔ (result.error? id).isSome := by
  cases result with
  | ready data => constructor <;> rintro ⟨⟩
  | denied => constructor <;> rintro ⟨⟩
  | failed fault => exact ⟨fun _ => rfl, fun _ => .failed _⟩
  | timedOut afterMs => exact ⟨fun _ => rfl, fun _ => .timedOut afterMs⟩

theorem RenderModel.hasSourceFailures_iff_get? {results : SourceResults} :
    (ofResults fingerprint p ctx (listing.list results)).hasSourceFailures = true ↔
      ∃ id result, results.get? id = some result ∧ (result.error? id).isSome := by
  simp only [ofResults_hasSourceFailures, (listing.perm results).mem_iff, Prod.exists,
    OrderedMap.get?_eq_some]

namespace ResolvedPage

/-- What is loaded for a viewer is what the nodes that it may see read. -/
theorem mem_boundSources_visibleTo :
    id ∈ ((r.page.visibleTo viewer).boundSources r.contracts).members ↔ r.Reads viewer id := by
  refine ⟨reads_of_boundSources, fun h => mem_boundSources.2 ?_⟩
  rcases h with ⟨g, hg, c, hc, hsees, q, hq, hreads⟩ | ⟨a, ha, hsees, q, hq, hreads⟩
  · refine ⟨q, List.mem_append_left _ (List.mem_flatMap.2 ⟨c, ?_, hq⟩), hreads⟩
    refine List.mem_flatMap.2 ⟨_, List.mem_map_of_mem hg, List.mem_filter.2 ⟨hc, hsees⟩⟩
  · refine ⟨q, List.mem_append_right _ (List.mem_flatMap.2 ⟨a, ?_, hq⟩), hreads⟩
    exact List.mem_filter.2 ⟨ha, hsees⟩

end ResolvedPage

namespace RenderContext

variable (h : ctx.actionIds = m.actions.map RenderAction.id)
  (hready : ∀ id data, ctx.results.get? id = some (.ready data) → m.sources.get? id = some .ready)

include h hready

theorem properties_shownAs {props : List Property} :
    List.Forall₂ (fun q => q.ShownAs ctx.contracts m) props (ctx.properties props) := by
  refine List.forall₂_map_right_iff.2 (List.forall₂_same.2 fun q _ => ⟨rfl, ?_, ?_⟩)
  · intro b j hb hvalue
    rw [hb] at hvalue
    obtain ⟨data, hdata⟩ := results_of_bindingValue hvalue
    exact hready _ data hdata
  · intro id hvalue
    have hmem := mem_actionIds_of_value hvalue
    rw [h] at hmem
    exact List.mem_map.1 hmem

theorem region_shownAs {g : Region} : g.ShownAs viewer ctx.contracts m
    (ctx.region ⟨g.id, g.components.filter fun c => viewer.sees c.access⟩) := by
  refine ⟨rfl, List.forall₂_map_right_iff.2 (List.forall₂_same.2 fun c _ => ?_)⟩
  exact ⟨rfl, rfl, rfl, rfl, properties_shownAs h hready⟩

end RenderContext

/-- A model mirrors its page if what the page reads has been loaded. -/
theorem ResolvedPage.ofResults_mirrors {gasLimit : Nat} {results : SourceResults}
    (h : results.keys = ((r.page.visibleTo viewer).boundSources r.contracts).members) :
    (RenderModel.ofResults fingerprint (r.page.visibleTo viewer)
      (r.contextFor gasLimit (r.page.visibleTo viewer) results)
      (listing.list results)).Mirrors r viewer := by
  have hactions : (r.contextFor gasLimit (r.page.visibleTo viewer) results).actionIds =
      (RenderModel.ofResults fingerprint (r.page.visibleTo viewer)
        (r.contextFor gasLimit (r.page.visibleTo viewer) results)
        (listing.list results)).actions.map RenderAction.id := by
    simp [contextFor, RenderModel.ofResults, RenderContext.action, Function.comp_def]
  have hready : ∀ id data, results.get? id = some (.ready data) →
      (RenderModel.ofResults fingerprint (r.page.visibleTo viewer)
        (r.contextFor gasLimit (r.page.visibleTo viewer) results)
        (listing.list results)).sources.get? id = some .ready :=
    fun id data hdata => RenderModel.ofResults_sources_get?.2 ⟨.ready data, hdata, rfl⟩
  constructor
  · refine List.forall₂_map_right_iff.2 (List.forall₂_map_right_iff.2 (List.forall₂_same.2 ?_))
    exact fun g _ => RenderContext.region_shownAs hactions hready
  · refine List.forall₂_map_right_iff.2 (List.forall₂_same.2 fun a _ => ⟨rfl, rfl, ?_⟩)
    exact RenderContext.properties_shownAs hactions hready
  · intro id
    rw [RenderModel.ofResults_sources_keys, ← mem_boundSources_visibleTo, ← h]
  · rw [RenderModel.hasSourceFailures_iff_get?]
    refine exists_congr fun id => ⟨?_, ?_⟩
    · rintro ⟨result, hresult, herror⟩
      exact ⟨_, RenderModel.ofResults_sources_get?.2 ⟨result, hresult, rfl⟩,
        SourceResult.failing_status.2 herror⟩
    · rintro ⟨status, hstatus, hfailing⟩
      obtain ⟨result, hresult, rfl⟩ := RenderModel.ofResults_sources_get?.1 hstatus
      exact ⟨result, hresult, SourceResult.failing_status.1 hfailing⟩

section

variable {α β τ : Type} {f : β → StateM τ α} {t : τ} {ask : DataSource → StateM τ Reply}

/-- Whatever collaborators do, each of the ids comes to something. -/
theorem Page.keys_loadSources {ids : OrderedSet String} :
    ((p.loadSources config ask viewer ids).run t).1.keys = ids.members := by
  have hkeys : ((ids.members.mapM fun id => do
      return (id, ← p.loadSource config ask viewer id)).run t).1.map Prod.fst = ids.members :=
    map_fst_run_mapM
  have hentries := OrderedMap.ofList_entries (List.pairwise_map.1 (hkeys ▸ ids.ascending))
  exact (congrArg (List.map Prod.fst) hentries).trans hkeys

end

theorem ResolvedPage.asks_evaluateListed {collaborator : DataRequest → StateM σ Reply} :
    Asks (r.evaluateListed listing config (DataSource.askWith (recording collaborator)) viewer)
      ((r.page.remoteSources viewer
        ((r.page.visibleTo viewer).boundSources r.contracts).members).filterMap
          fun s => s.origin.request?) :=
  Page.asks_loadSources.map

/-- A viewer is given a mirror of what it may see of the page, whatever collaborators do and in
whatever order the results of sources are gone through, and they are asked once for each remote
source of it that the page declares and the viewer may read. -/
theorem model_mirrors_page (h : r.page.UniqueIds) (listing : Listing)
    (collaborator : DataRequest → StateM σ Reply) (s : σ) :
    let run := (r.evaluateListed listing config (DataSource.askWith (recording collaborator))
      viewer).run ([], s)
    run.1.Mirrors r viewer ∧ ∃ fetched : List DataSource, fetched.Nodup ∧
      (∀ d, d ∈ fetched ↔ d ∈ r.page.dataSources ∧ d.origin.request?.isSome = true ∧
        viewer.sees d.access = true ∧ r.Reads viewer d.id) ∧
      run.2.1 = fetched.filterMap fun d => d.origin.request? := by
  refine ⟨ResolvedPage.ofResults_mirrors Page.keys_loadSources, _,
    Page.nodup_remoteSources h OrderedSet.nodup_members, fun d => ?_,
    ResolvedPage.asks_evaluateListed [] s⟩
  rw [Page.mem_remoteSources h, ResolvedPage.mem_boundSources_visibleTo]

/-- A collaborator that answers every other request. -/
def everyOther (_ : DataRequest) : StateM Bool Reply := fun answers =>
  (if answers then .after 10 (.ok (.obj [("rows", .null)])) else .never, !answers)

/-- An admin is shown the log in two places, for one request. -/
theorem audited_mirrored : audited.page.UniqueIds ∧ ∀ listing,
    let admin : Viewer := ⟨.ofList ["admin"], ∅⟩
    let run := (audited.evaluateListed listing .default
      (DataSource.askWith (recording everyOther)) admin).run ([], true)
    run.1.Mirrors audited admin ∧ ∃ fetched : List DataSource, fetched.Nodup ∧
      (∀ d, d ∈ fetched ↔ d ∈ audited.page.dataSources ∧ d.origin.request?.isSome = true ∧
        admin.sees d.access = true ∧ audited.Reads admin d.id) ∧
      run.2.1 = fetched.filterMap fun d => d.origin.request? := by
  have hunique : audited.page.UniqueIds := by
    intro target
    cases target <;> decide
  exact ⟨hunique, fun listing => model_mirrors_page hunique listing everyOther true⟩

end PageLayers
