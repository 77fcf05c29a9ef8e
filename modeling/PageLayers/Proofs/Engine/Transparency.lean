import PageLayers.Engine.Basic
import PageLayers.Artifact.Compile
import PageLayers.Proofs.Overlay.Accepted
import PageLayers.Proofs.Render.Listing
import PageLayers.Proofs.Render.OldestFirst

/-! When an engine that keeps what it renders answers as one that keeps nothing. -/

namespace PageLayers

/-- A request for a viewer, and how the results of sources are gone through if its page has to be
rendered. -/
structure Call where
  ctx : RequestContext
  viewer : Viewer
  listing : Listing

/-- What is asked for. -/
def Call.request (call : Call) : RequestContext × Viewer := (call.ctx, call.viewer)

variable {config : EngineConfig} {collaborator : DataRequest → Reply} {s : Snapshot}
  {e : PageEngine} {ctx ctx' : RequestContext} {viewer : Viewer} {listing listing' : Listing}
  {r r' : Resolution} {call call' : Call} {calls calls' : List Call}

namespace Resolution

/-- The model of a resolution where the collaborators answer each request in one way. -/
def model (config : EngineConfig) (collaborator : DataRequest → Reply) (listing : Listing)
    (viewer : Viewer) (r : Resolution) : RenderModel :=
  { (r.page.evaluateListed (m := Id) listing config.evaluator (DataSource.askWith collaborator)
      viewer).run with
    degraded := r.degraded }

theorem model_upToTies : (r.model config collaborator listing viewer).upToTies =
    (r.model config collaborator listing' viewer).upToTies := by
  have hevaluated : (r.page.evaluateListed (m := Id) listing config.evaluator
        (DataSource.askWith collaborator) viewer).run.upToTies =
      (r.page.evaluateListed (m := Id) listing' config.evaluator
        (DataSource.askWith collaborator) viewer).run.upToTies :=
    ResolvedPage.evaluateListed_upToTies (m := Id)
  exact congrArg (fun view => ({ view.1 with degraded := r.degraded }, view.2)) hevaluated

/-- Where no source failed there is one model. -/
theorem model_eq_of_listing
    (h : (r.model config collaborator listing viewer).hasSourceFailures = false) :
    r.model config collaborator listing viewer = r.model config collaborator listing' viewer :=
  congrArg (fun m => { m with degraded := r.degraded })
    (RenderModel.ofResults_eq_of_perm Listing.perm_list Listing.nodup_keys h)

end Resolution

namespace Snapshot

/-- The answer to one call when nothing was rendered before. -/
def renderAnew (config : EngineConfig) (collaborator : DataRequest → Reply) (s : Snapshot)
    (call : Call) : Except EngineError RenderModel :=
  (s.resolve call.ctx).map fun r => r.model config collaborator call.listing call.viewer

theorem renderAnew_congr {β : Type}
    {view : RenderModel × List String × Multiset EvaluationError → β}
    (h : call.request = call'.request) :
    (s.renderAnew config collaborator call).map (fun m => view m.upToTies) =
      (s.renderAnew config collaborator call').map fun m => view m.upToTies := by
  obtain ⟨hctx, hviewer⟩ := Prod.mk.inj h
  unfold renderAnew
  rw [hctx, hviewer]
  cases s.resolve call'.ctx with
  | error cause => rfl
  | ok r => exact congrArg (fun v => Except.ok (view v)) Resolution.model_upToTies

end Snapshot

namespace PageEngine

/-- The answer to a call, and the engine after it. -/
def answer (collaborator : DataRequest → Reply) (e : PageEngine) (call : Call) :
    Except EngineError RenderModel × PageEngine :=
  (e.renderListed (m := Id) call.listing (DataSource.askWith collaborator) call.ctx
    call.viewer).run

/-- The answers to calls that come one after another. -/
def answers (collaborator : DataRequest → Reply) (e : PageEngine) :
    List Call → List (Except EngineError RenderModel)
  | [] => []
  | call :: rest =>
    let (answer, e) := e.answer collaborator call
    answer :: e.answers collaborator rest

theorem answers_cons {rest : List Call} : e.answers collaborator (call :: rest) =
    (e.answer collaborator call).1 :: (e.answer collaborator call).2.answers collaborator rest :=
  rfl

/-- An engine on a snapshot, with nothing kept yet and room for so many pages. -/
def withCapacity (config : EngineConfig) (s : Snapshot) (capacity : Nat) : PageEngine :=
  ofSnapshot { config with cacheCapacity := capacity } s

/-- The engine works on a snapshot, with given settings but for its capacity. -/
structure WorksOn (config : EngineConfig) (s : Snapshot) (e : PageEngine) : Prop where
  snapshot : e.snapshot = s
  evaluator : e.config.evaluator = config.evaluator

/-- What can come of one call. -/
inductive Rendered (config : EngineConfig) (collaborator : DataRequest → Reply) (s : Snapshot)
    (e : PageEngine) (call : Call) : Except EngineError RenderModel × PageEngine → Prop where
  | failed {cause : EngineError} (hr : s.resolve call.ctx = .error cause) :
      Rendered config collaborator s e call (.error cause, e)
  | kept {r : Resolution} {model : RenderModel} (hr : s.resolve call.ctx = .ok r)
      (hkept : e.cache.get? ⟨r.page.fingerprint, call.viewer⟩ = some model) :
      Rendered config collaborator s e call (.ok model, e)
  | made {r : Resolution} (hr : s.resolve call.ctx = .ok r)
      (hnew : e.cache.get? ⟨r.page.fingerprint, call.viewer⟩ = none) :
      Rendered config collaborator s e call
        (.ok (r.model config collaborator call.listing call.viewer),
          e.remember ⟨r.page.fingerprint, call.viewer⟩
            (r.model config collaborator call.listing call.viewer))

theorem rendered (he : e.WorksOn config s) :
    Rendered config collaborator s e call (e.answer collaborator call) := by
  unfold answer renderListed
  rw [he.snapshot]
  cases hr : s.resolve call.ctx with
  | error cause => exact .failed hr
  | ok r =>
    dsimp only
    cases hkept : e.cache.get? ⟨r.page.fingerprint, call.viewer⟩ with
    | some model => exact .kept hr hkept
    | none =>
      rw [he.evaluator]
      exact .made hr hkept

/-- Each page that an engine keeps was rendered without failures for a request with the same
fingerprint. -/
def Remembers (config : EngineConfig) (collaborator : DataRequest → Reply) (s : Snapshot)
    (e : PageEngine) : Prop :=
  ∀ key model, e.cache.get? key = some model → ∃ ctx r, s.resolve ctx = .ok r ∧
    r.page.fingerprint = key.fingerprint ∧ model.hasSourceFailures = false ∧
    ∀ listing, model = r.model config collaborator listing key.viewer

variable {next : Except EngineError RenderModel × PageEngine}

theorem Rendered.worksOn (h : Rendered config collaborator s e call next)
    (he : e.WorksOn config s) : next.2.WorksOn config s := by
  cases h with
  | failed hr => exact he
  | kept hr hkept => exact he
  | made hr hnew =>
    dsimp only
    unfold remember
    split
    · exact he
    · exact ⟨he.snapshot, he.evaluator⟩

theorem Rendered.remembers (h : Rendered config collaborator s e call next)
    (he : e.Remembers config collaborator s) : next.2.Remembers config collaborator s := by
  cases h with
  | failed hr => exact he
  | kept hr hkept => exact he
  | made hr hnew =>
    dsimp only
    unfold remember
    split
    · exact he
    · rename_i r hfailures
      rw [Bool.not_eq_true] at hfailures
      intro key model hmodel
      rcases RenderCache.get?_insert_cases hmodel with ⟨rfl, rfl⟩ | hold
      · exact ⟨call.ctx, r, hr, rfl, hfailures,
          fun _ => Resolution.model_eq_of_listing hfailures⟩
      · exact he key model hold

/-- Resolutions of one fingerprint look the same through a function, unless their sources fail. -/
def AgreeThrough {β : Type} (view : RenderModel → β) (config : EngineConfig)
    (collaborator : DataRequest → Reply) (s : Snapshot) : Prop :=
  ∀ ctx ctx' viewer listing r r', s.resolve ctx = .ok r → s.resolve ctx' = .ok r' →
    r.page.fingerprint = r'.page.fingerprint →
    (r.model config collaborator listing viewer).hasSourceFailures = false →
    view (r.model config collaborator listing viewer) =
      view (r'.model config collaborator listing viewer)

variable {β : Type} {view : RenderModel → β}

theorem Rendered.answer_eq (h : Rendered config collaborator s e call next)
    (hview : AgreeThrough view config collaborator s)
    (he : e.Remembers config collaborator s) :
    next.1.map view = (s.renderAnew config collaborator call).map view := by
  unfold Snapshot.renderAnew
  cases h with
  | failed hr =>
    rw [hr]
    rfl
  | kept hr hkept =>
    rename_i r model
    obtain ⟨ctx', r', hr', hfingerprint, hfailures, hmodel⟩ := he _ _ hkept
    obtain rfl := hmodel call.listing
    rw [hr]
    exact congrArg Except.ok
      (hview ctx' call.ctx call.viewer call.listing r' r hr' hr hfingerprint hfailures)
  | made hr hnew =>
    rw [hr]
    rfl

/-- Seen through such a function, the answers are those of an engine that keeps nothing. -/
theorem answers_eq (hview : AgreeThrough view config collaborator s)
    (hworks : e.WorksOn config s) (he : e.Remembers config collaborator s) :
    (e.answers collaborator calls).map (Except.map view) =
      calls.map fun call => (s.renderAnew config collaborator call).map view := by
  induction calls generalizing e with
  | nil => rfl
  | cons call rest ih =>
    have h : Rendered config collaborator s e call _ := rendered hworks
    rw [answers_cons, List.map_cons, h.answer_eq hview he, ih (h.worksOn hworks) (h.remembers he)]
    rfl

theorem worksOn_withCapacity (capacity : Nat) :
    (withCapacity config s capacity).WorksOn config s := ⟨rfl, rfl⟩

theorem remembers_withCapacity (capacity : Nat) :
    (withCapacity config s capacity).Remembers config collaborator s :=
  fun _ _ h => nomatch h

theorem Rendered.of_kept {model : RenderModel} (h : Rendered config collaborator s e call next)
    (hr : s.resolve call.ctx = .ok r)
    (hkept : e.cache.get? ⟨r.page.fingerprint, call.viewer⟩ = some model) :
    next.1 = .ok model := by
  cases h with
  | failed hr' => simp [hr] at hr'
  | kept hr' hkept' =>
    obtain rfl := Except.ok.inj (hr.symm.trans hr')
    exact congrArg Except.ok (Option.some.inj (hkept'.symm.trans hkept))
  | made hr' hnew =>
    obtain rfl := Except.ok.inj (hr.symm.trans hr')
    simp [hnew] at hkept

theorem Rendered.of_new (h : Rendered config collaborator s e call next)
    (hr : s.resolve call.ctx = .ok r)
    (hnew : e.cache.get? ⟨r.page.fingerprint, call.viewer⟩ = none) :
    next = (.ok (r.model config collaborator call.listing call.viewer),
      e.remember ⟨r.page.fingerprint, call.viewer⟩
        (r.model config collaborator call.listing call.viewer)) := by
  cases h with
  | failed hr' => simp [hr] at hr'
  | kept hr' hkept =>
    obtain rfl := Except.ok.inj (hr.symm.trans hr')
    simp [hnew] at hkept
  | made hr' hnew' =>
    obtain rfl := Except.ok.inj (hr.symm.trans hr')
    rfl

/-- An engine without room renders each page anew. -/
theorem Rendered.of_no_capacity (h : Rendered config collaborator s e call next)
    (hcapacity : e.cache.capacity = 0) (hempty : ∀ key, e.cache.get? key = none) :
    next = (s.renderAnew config collaborator call, e) := by
  unfold Snapshot.renderAnew
  cases h with
  | failed hr =>
    rw [hr]
    rfl
  | kept hr hkept => simp [hempty] at hkept
  | made hr hnew =>
    rw [hr, remember, RenderCache.insert_of_no_capacity hcapacity]
    exact congrArg (Prod.mk _) (ite_self e)

theorem answers_of_no_capacity (hworks : e.WorksOn config s) (hcapacity : e.cache.capacity = 0)
    (hempty : ∀ key, e.cache.get? key = none) :
    e.answers collaborator calls = calls.map (s.renderAnew config collaborator) := by
  induction calls with
  | nil => rfl
  | cons call rest ih =>
    have h : Rendered config collaborator s e call _ := rendered hworks
    rw [answers_cons, h.of_no_capacity hcapacity hempty, ih]
    rfl

theorem answers_withCapacity_zero : (withCapacity config s 0).answers collaborator calls =
    calls.map (s.renderAnew config collaborator) :=
  answers_of_no_capacity (worksOn_withCapacity 0) rfl fun _ => rfl

/-- The second of two requests with one fingerprint gets what was rendered for the first. -/
theorem answers_pair (hr : s.resolve ctx = .ok r) (hr' : s.resolve ctx' = .ok r')
    (hfingerprint : r.page.fingerprint = r'.page.fingerprint)
    (hfailures : (r.model config collaborator listing viewer).hasSourceFailures = false) :
    (withCapacity config s 1).answers collaborator
        [⟨ctx, viewer, listing⟩, ⟨ctx', viewer, listing'⟩] =
      [.ok (r.model config collaborator listing viewer),
        .ok (r.model config collaborator listing viewer)] := by
  have hworks : (withCapacity config s 1).WorksOn config s := worksOn_withCapacity 1
  have hfirst : Rendered config collaborator s (withCapacity config s 1) ⟨ctx, viewer, listing⟩ _ :=
    rendered hworks
  have hmade := hfirst.of_new hr rfl
  have hkept : (withCapacity config s 1).remember ⟨r.page.fingerprint, viewer⟩
      (r.model config collaborator listing viewer) = { withCapacity config s 1 with
        cache := (RenderCache.empty 1).insert ⟨r.page.fingerprint, viewer⟩
          (r.model config collaborator listing viewer) } := by
    rw [remember, hfailures]
    rfl
  have hsecond : Rendered config collaborator s _ ⟨ctx', viewer, listing'⟩ _ :=
    rendered (hfirst.worksOn hworks)
  have hagain := hsecond.of_kept hr' (by
    rw [hmade, hkept, ← hfingerprint]
    exact RenderCache.get?_insert_empty)
  rw [answers_cons, answers_cons, hagain, hmade]
  rfl

theorem transparent_iff_agree :
    (∀ capacity calls, (withCapacity config s capacity).answers collaborator calls =
      (withCapacity config s 0).answers collaborator calls) ↔
    AgreeThrough id config collaborator s := by
  constructor
  · intro h ctx ctx' viewer listing r r' hr hr' hfingerprint hfailures
    have hpair := h 1 [⟨ctx, viewer, listing⟩, ⟨ctx', viewer, listing⟩]
    rw [answers_pair hr hr' hfingerprint hfailures, answers_withCapacity_zero] at hpair
    have hsecond := (List.cons.inj (List.cons.inj hpair).2).1
    rw [Snapshot.renderAnew, hr'] at hsecond
    exact Except.ok.inj hsecond
  · intro h capacity calls
    have hanswers : ((withCapacity config s capacity).answers collaborator calls).map
        (Except.map id) = calls.map fun call => (s.renderAnew config collaborator call).map id :=
      answers_eq h (worksOn_withCapacity capacity) (remembers_withCapacity capacity)
    rw [answers_withCapacity_zero]
    simpa [Except.map_id] using hanswers

/-- The order in which results are gone through may differ from engine to engine where ties are left
out of view. -/
theorem answers_eq_of_requests (view : RenderModel × List String × Multiset EvaluationError → β)
    (hview : AgreeThrough (fun m => view m.upToTies) config collaborator s)
    (h : calls.map Call.request = calls'.map Call.request) (capacity : Nat) :
    ((withCapacity config s capacity).answers collaborator calls).map
        (Except.map fun m => view m.upToTies) =
      ((withCapacity config s 0).answers collaborator calls').map
        (Except.map fun m => view m.upToTies) := by
  have hrequests (calls : List Call) :
      (calls.map fun call =>
        (s.renderAnew config collaborator call).map fun m => view m.upToTies) =
      (calls.map Call.request).map fun request =>
        (s.renderAnew config collaborator ⟨request.1, request.2, .byId⟩).map fun m =>
          view m.upToTies := by
    rw [List.map_map]
    exact List.map_congr_left fun call _ => Snapshot.renderAnew_congr rfl
  rw [answers_eq hview (worksOn_withCapacity capacity) (remembers_withCapacity capacity),
    answers_eq hview (worksOn_withCapacity 0) (remembers_withCapacity 0), hrequests, h, hrequests]

theorem transparent_upToTies_iff_agree :
    (∀ capacity calls calls', calls.map Call.request = calls'.map Call.request →
      ((withCapacity config s capacity).answers collaborator calls).map
          (Except.map RenderModel.upToTies) =
        ((withCapacity config s 0).answers collaborator calls').map
          (Except.map RenderModel.upToTies)) ↔
    AgreeThrough RenderModel.upToTies config collaborator s := by
  constructor
  · intro h ctx ctx' viewer listing r r' hr hr' hfingerprint hfailures
    have hpair := h 1 [⟨ctx, viewer, listing⟩, ⟨ctx', viewer, listing⟩] _ rfl
    rw [answers_pair hr hr' hfingerprint hfailures, answers_withCapacity_zero] at hpair
    have hsecond := (List.cons.inj (List.cons.inj hpair).2).1
    rw [Snapshot.renderAnew, hr'] at hsecond
    exact Except.ok.inj hsecond
  · intro hview capacity calls calls' h
    exact answers_eq_of_requests id hview h capacity

end PageEngine

/-- The model of a page that is not degraded. -/
def RenderModel.undegraded (m : RenderModel) : RenderModel := { m with degraded := false }

/-- No two pages that a snapshot gives have the same fingerprint. -/
def Snapshot.FingerprintsIdentify (s : Snapshot) : Prop :=
  ∀ ctx ctx' r r', s.resolve ctx = .ok r → s.resolve ctx' = .ok r' →
    r.page.fingerprint = r'.page.fingerprint → r.page.page = r'.page.page

theorem ResolvedPage.contracts_of_ofLayers {blueprint : LayerInput} {overlays : List LayerInput}
    {p : ResolvedPage} (h : ofLayers blueprint overlays = .ok p) :
    p.contracts = p.page.contractTable := by
  unfold ofLayers at h
  simp only at h
  split at h
  · cases h
  · cases hmerged : overlays.foldlM (fun merged o => applyLayer blueprint.page merged o.page)
      blueprint.page with
    | error e =>
      rw [hmerged] at h
      cases h
    | ok merged =>
      rw [hmerged] at h
      cases h
      rfl

theorem RequestLayers.contracts_of_resolution {layers : RequestLayers}
    (h : layers.resolution = .ok r) : r.page.contracts = r.page.page.contractTable := by
  unfold resolution at h
  split at h
  · rename_i p hp
    cases h
    exact ResolvedPage.contracts_of_ofLayers hp
  · obtain ⟨p, hp, rfl⟩ := except_map_eq_ok.1 h
    exact ResolvedPage.contracts_of_ofLayers hp

theorem Snapshot.contracts_of_resolve (h : s.resolve ctx = .ok r) :
    r.page.contracts = r.page.page.contractTable := by
  unfold Snapshot.resolve at h
  obtain ⟨layers, -, hresolution⟩ := except_bind_eq_ok.1 h
  cases hlayers : layers.resolution with
  | error cause =>
    rw [hlayers] at hresolution
    cases hresolution
  | ok r' =>
    rw [hlayers] at hresolution
    cases hresolution
    exact RequestLayers.contracts_of_resolution hlayers

theorem Resolution.undegraded_model (hfingerprint : r.page.fingerprint = r'.page.fingerprint)
    (hpage : r.page.page = r'.page.page) (hcontracts : r.page.contracts = r'.page.contracts) :
    (r.model config collaborator listing viewer).undegraded =
      (r'.model config collaborator listing viewer).undegraded := by
  obtain ⟨⟨page, fingerprint, contracts, layers⟩, generation, degraded⟩ := r
  obtain ⟨⟨page', fingerprint', contracts', layers'⟩, generation', degraded'⟩ := r'
  obtain rfl : fingerprint = fingerprint' := hfingerprint
  obtain rfl : page = page' := hpage
  obtain rfl : contracts = contracts' := hcontracts
  rfl

theorem RenderModel.eq_of_undegraded {m m' : RenderModel} (h : m.undegraded = m'.undegraded)
    (hdegraded : m.degraded = m'.degraded) : m = m' :=
  calc
    m = { m.undegraded with degraded := m.degraded } := rfl
    _ = { m'.undegraded with degraded := m'.degraded } := by rw [h, hdegraded]
    _ = m' := rfl

/-- With fingerprints that identify pages, models of one fingerprint differ at most in whether they
are degraded. -/
theorem Snapshot.FingerprintsIdentify.undegraded_model (hs : s.FingerprintsIdentify)
    (hr : s.resolve ctx = .ok r) (hr' : s.resolve ctx' = .ok r')
    (hfingerprint : r.page.fingerprint = r'.page.fingerprint) :
    (r.model config collaborator listing viewer).undegraded =
      (r'.model config collaborator listing viewer).undegraded := by
  have hpage := hs ctx ctx' r r' hr hr' hfingerprint
  refine Resolution.undegraded_model hfingerprint hpage ?_
  rw [contracts_of_resolve hr, contracts_of_resolve hr', hpage]

open PageEngine

/-- Whatever its capacity, an engine answers all calls as one that keeps nothing exactly when
resolutions of one fingerprint have one model, unless their sources fail. If the two go through the
results of sources in orders of their own, the same holds but for ties between errors. With
fingerprints that identify pages the answers differ at most in whether they are degraded, and they
differ exactly when a degraded page has the fingerprint of one that is not. -/
theorem render_transparent_iff (config : EngineConfig) (collaborator : DataRequest → Reply)
    (s : Snapshot) :
    ((∀ capacity calls, (withCapacity config s capacity).answers collaborator calls =
        (withCapacity config s 0).answers collaborator calls) ↔
      ∀ ctx ctx' viewer listing r r', s.resolve ctx = .ok r → s.resolve ctx' = .ok r' →
        r.page.fingerprint = r'.page.fingerprint →
        (r.model config collaborator listing viewer).hasSourceFailures = false →
        r.model config collaborator listing viewer =
          r'.model config collaborator listing viewer) ∧
    ((∀ capacity calls calls', calls.map Call.request = calls'.map Call.request →
        ((withCapacity config s capacity).answers collaborator calls).map
            (Except.map RenderModel.upToTies) =
          ((withCapacity config s 0).answers collaborator calls').map
            (Except.map RenderModel.upToTies)) ↔
      ∀ ctx ctx' viewer listing r r', s.resolve ctx = .ok r → s.resolve ctx' = .ok r' →
        r.page.fingerprint = r'.page.fingerprint →
        (r.model config collaborator listing viewer).hasSourceFailures = false →
        (r.model config collaborator listing viewer).upToTies =
          (r'.model config collaborator listing viewer).upToTies) ∧
    (s.FingerprintsIdentify →
      (∀ capacity calls,
        ((withCapacity config s capacity).answers collaborator calls).map
            (Except.map RenderModel.undegraded) =
          ((withCapacity config s 0).answers collaborator calls).map
            (Except.map RenderModel.undegraded)) ∧
      (∀ capacity calls calls', calls.map Call.request = calls'.map Call.request →
        ((withCapacity config s capacity).answers collaborator calls).map
            (Except.map fun m => m.undegraded.upToTies) =
          ((withCapacity config s 0).answers collaborator calls').map
            (Except.map fun m => m.undegraded.upToTies)) ∧
      ((∀ capacity calls, (withCapacity config s capacity).answers collaborator calls =
          (withCapacity config s 0).answers collaborator calls) ↔
        ∀ ctx ctx' viewer listing r r', s.resolve ctx = .ok r → s.resolve ctx' = .ok r' →
          r.page.fingerprint = r'.page.fingerprint →
          (r.model config collaborator listing viewer).hasSourceFailures = false →
          r.degraded = r'.degraded)) := by
  refine ⟨transparent_iff_agree, transparent_upToTies_iff_agree, fun hs => ⟨?_, ?_, ?_⟩⟩
  · intro capacity calls
    have hagree : AgreeThrough RenderModel.undegraded config collaborator s :=
      fun _ _ _ _ _ _ hr hr' hfingerprint _ => hs.undegraded_model hr hr' hfingerprint
    rw [answers_eq hagree (worksOn_withCapacity capacity) (remembers_withCapacity capacity),
      answers_eq hagree (worksOn_withCapacity 0) (remembers_withCapacity 0)]
  · intro capacity calls calls' h
    have hagree : AgreeThrough (fun m => (m.upToTies.1.undegraded, m.upToTies.2)) config
        collaborator s := fun _ _ _ _ _ _ hr hr' hfingerprint _ =>
      congrArg RenderModel.upToTies (hs.undegraded_model hr hr' hfingerprint)
    exact answers_eq_of_requests (fun v => (v.1.undegraded, v.2)) hagree h capacity
  · rw [transparent_iff_agree]
    constructor
    · intro h ctx ctx' viewer listing r r' hr hr' hfingerprint hfailures
      exact congrArg RenderModel.degraded
        (h ctx ctx' viewer listing r r' hr hr' hfingerprint hfailures)
    · intro h ctx ctx' viewer listing r r' hr hr' hfingerprint hfailures
      exact RenderModel.eq_of_undegraded (hs.undegraded_model hr hr' hfingerprint)
        (h ctx ctx' viewer listing r r' hr hr' hfingerprint hfailures)

/-- The layer of a page that is live under an entry of the given id. -/
def Layer.ofPage (p : Page) (id : String) : Layer :=
  ⟨.ofArtifact (.ofPage p .epoch) id .epoch, .ofPage p .epoch⟩

/-- The snapshot of a store in which some pages are live, each under an entry of its id. -/
def Snapshot.ofPages (pages : List (String × Page)) : Snapshot where
  generation := 1
  manifest := ⟨pages.map fun p => (Layer.ofPage p.2 p.1).entry⟩
  pointers := OrderedMap.ofList (pages.map fun p => (p.2.layerKey, p.1))
  layers := OrderedMap.ofList (pages.map fun p => (p.2.layerKey, Layer.ofPage p.2 p.1))

theorem resolve_welcome (h : (Snapshot.ofPages [("1", welcome)]).resolve ctx = .ok r) :
    r = ⟨.ofMerged welcome [(Layer.ofPage welcome "1").input], 1, false⟩ := by
  unfold Snapshot.resolve at h
  obtain ⟨layers, hlayers, hresolution⟩ := except_bind_eq_ok.1 h
  have hall : layers = ⟨1, Layer.ofPage welcome "1", []⟩ := by
    unfold Snapshot.layersFor at hlayers
    split at hlayers
    · cases hlayers
    · rename_i blueprint hblueprint
      have hmem := OrderedMap.get?_eq_some.1 hblueprint
      obtain rfl : blueprint = Layer.ofPage welcome "1" :=
        congrArg Prod.snd (List.mem_singleton.1 hmem)
      exact (Except.ok.inj hlayers).symm
  rw [hall] at hresolution
  exact (Except.ok.inj hresolution).symm

theorem welcome_render_transparent :
    (Snapshot.ofPages [("1", welcome)]).FingerprintsIdentify ∧
    ∀ capacity calls,
      (withCapacity .default (.ofPages [("1", welcome)]) capacity).answers
          DataRequest.offlineReply calls =
        (withCapacity .default (.ofPages [("1", welcome)]) 0).answers
          DataRequest.offlineReply calls := by
  have hidentify : (Snapshot.ofPages [("1", welcome)]).FingerprintsIdentify := by
    intro ctx ctx' r r' hr hr' _
    rw [resolve_welcome hr, resolve_welcome hr']
  refine ⟨hidentify, ((render_transparent_iff _ _ _).2.2 hidentify).2.2.2 ?_⟩
  intro ctx ctx' viewer listing r r' hr hr' _ _
  rw [resolve_welcome hr, resolve_welcome hr']

/-- Takes all from the page that another overlay changes. -/
def welcomeEmptied : Page := { welcomeBack with
  scope := { Scope.unset with tenant := some "acme" }
  patches := [⟨.component, "hero", .remove, none⟩, ⟨.dataSource, "copy", .remove, none⟩] }

/-- Both overlays are accepted on the blueprint, but they do not apply together. -/
def shop : Snapshot := .ofPages [("1", welcome), ("2", welcomeBack), ("3", welcomeEmptied)]

def memberOfAcme : RequestContext := ⟨"acme", "shop", "/", .ofList ["member"], none, none⟩

def guest : RequestContext := ⟨"other", "shop", "/", ∅, none, none⟩

theorem resolve_memberOfAcme : shop.resolve memberOfAcme =
    .ok ⟨.ofMerged welcome [(Layer.ofPage welcome "1").input], 1, true⟩ := rfl

theorem resolve_guest : shop.resolve guest =
    .ok ⟨.ofMerged welcome [(Layer.ofPage welcome "1").input], 1, false⟩ := rfl

/-- A guest whose page is not degraded gets the degraded one that was kept. -/
theorem shop_render_differs :
    (withCapacity .default shop 1).answers DataRequest.offlineReply
        [⟨memberOfAcme, ⟨∅, ∅⟩, .byId⟩, ⟨guest, ⟨∅, ∅⟩, .byId⟩] ≠
      (withCapacity .default shop 0).answers DataRequest.offlineReply
        [⟨memberOfAcme, ⟨∅, ∅⟩, .byId⟩, ⟨guest, ⟨∅, ∅⟩, .byId⟩] := by
  intro h
  rw [answers_pair resolve_memberOfAcme resolve_guest rfl (by decide),
    answers_withCapacity_zero] at h
  have hguest := (List.cons.inj (List.cons.inj h).2).1
  rw [Snapshot.renderAnew, resolve_guest] at hguest
  have hdegraded := congrArg RenderModel.degraded (Except.ok.inj hguest)
  cases hdegraded

end PageLayers
