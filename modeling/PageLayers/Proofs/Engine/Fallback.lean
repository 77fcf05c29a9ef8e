import PageLayers.Proofs.Authoring.Scope
import PageLayers.Proofs.Engine.Matching
import PageLayers.Proofs.Overlay.Applied
import PageLayers.Proofs.Registry.Live
import PageLayers.Proofs.Store.Monotone

/-! What the engine answers from a store of compiled pages: the blueprint with the overlays of the
request, or where one of them has no place on it the blueprint alone. -/

namespace PageLayers

open MemoryStore Program

variable {merged : Page} {artifacts : Set Artifact} {S : Publisher} {snap : Snapshot}
  {ctx : RequestContext} {l : Layer}

namespace RequestLayers

variable {r : RequestLayers}

/-- The overlays of a request, one after another, make this page of its blueprint. -/
def Make (r : RequestLayers) (merged : Page) : Prop :=
  Applied r.blueprint.artifact.page r.blueprint.artifact.page
    (r.overlays.map fun l => l.artifact.page) merged

theorem resolve_eq_ok (hkind : r.blueprint.artifact.page.kind = .blueprint) {page : ResolvedPage} :
    r.resolve = .ok page ↔
      ∃ merged, r.Make merged ∧ page = .ofMerged merged (r.all.map Layer.input) := by
  have hmake : ∀ merged, r.Make merged ↔ r.overlays.foldlM (fun merged l =>
      ResolvedPage.applyLayer r.blueprint.artifact.page merged l.artifact.page)
        r.blueprint.artifact.page = .ok merged := by
    intro merged
    rw [Make, ← foldlM_applyLayer_eq_ok, List.foldlM_map]
  have hresolve : r.resolve = (r.overlays.foldlM (fun merged l =>
      ResolvedPage.applyLayer r.blueprint.artifact.page merged l.artifact.page)
        r.blueprint.artifact.page).map fun merged => .ofMerged merged (r.all.map Layer.input) := by
    rw [resolve, ofLayers_eq_map hkind, List.foldlM_map]
    rfl
  rw [hresolve, except_map_eq_ok]
  simp only [hmake, eq_comm]

/-- Where all overlays apply, the answer is made of them. -/
theorem resolution_of_make (hkind : r.blueprint.artifact.page.kind = .blueprint)
    (hkeys : ∀ l ∈ r.all, l.artifact.page.layerKey = l.key) (h : r.Make merged) :
    ∃ page : ResolvedPage, r.resolution = .ok ⟨page, r.generation, false⟩ ∧ page.page = merged ∧
      page.layers = r.blueprint.key :: r.overlays.map Layer.key := by
  refine ⟨.ofMerged merged (r.all.map Layer.input), ?_, rfl, ?_⟩
  · simp only [resolution, (resolve_eq_ok hkind).2 ⟨merged, h, rfl⟩]
  · show (r.all.map Layer.input).map (fun i => i.page.layerKey) = r.all.map Layer.key
    rw [List.map_map]
    exact List.map_congr_left hkeys

/-- Where one of them does not, the blueprint is left, which always resolves. -/
theorem resolution_of_not_make (hkind : r.blueprint.artifact.page.kind = .blueprint)
    (hkey : r.blueprint.artifact.page.layerKey = r.blueprint.key)
    (h : ∀ merged, ¬r.Make merged) :
    ∃ page : ResolvedPage, r.resolution = .ok ⟨page, r.generation, true⟩ ∧
      page.page = r.blueprint.artifact.page ∧ page.layers = [r.blueprint.key] := by
  have hblueprint : r.resolveBlueprint =
      .ok (.ofMerged r.blueprint.artifact.page [r.blueprint.input]) := ofLayers_eq_map hkind
  refine ⟨.ofMerged r.blueprint.artifact.page [r.blueprint.input], ?_, rfl,
    congrArg (fun k => [k]) hkey⟩
  cases hresolve : r.resolve with
  | ok page =>
    obtain ⟨merged, hmake, -⟩ := (resolve_eq_ok hkind).1 hresolve
    exact absurd hmake (h merged)
  | error e =>
    simp only [resolution, hresolve, hblueprint]
    rfl

/-- Whether the overlays apply or not, there is a resolution. -/
theorem exists_resolution (hkind : r.blueprint.artifact.page.kind = .blueprint)
    (hkeys : ∀ l ∈ r.all, l.artifact.page.layerKey = l.key) : ∃ x, r.resolution = .ok x := by
  by_cases hmake : ∃ merged, r.Make merged
  · obtain ⟨merged, hmake⟩ := hmake
    obtain ⟨page, hok, -⟩ := resolution_of_make hkind hkeys hmake
    exact ⟨_, hok⟩
  · have hkey := hkeys r.blueprint List.mem_cons_self
    obtain ⟨page, hok, -⟩ := resolution_of_not_make hkind hkey (not_exists.1 hmake)
    exact ⟨_, hok⟩

/-- The layers are what is live for a request: the blueprint, and the overlays that the request
matches, in the order of their precedence. -/
structure LiveFor (r : RequestLayers) (s : MemoryStore) (ctx : RequestContext) : Prop where
  key : r.blueprint.key = ctx.blueprintKey
  serves : s.Serves r.blueprint
  overlays : ∀ l, l ∈ r.overlays ↔ ctx.covers l.key = true ∧ s.Serves l
  ordered : r.overlays.Pairwise fun l m => compare l.key.precedence m.key.precedence = .lt

end RequestLayers

theorem Snapshot.LoadedFrom.mem_matching {s : MemoryStore} (h : snap.LoadedFrom s) (hs : s.Intact) :
    l ∈ snap.matching ctx ↔ ctx.covers l.key = true ∧ s.Serves l := by
  rw [matching, List.mem_filter, h.mem_values hs, and_comm]

theorem Artifact.Compiled.layerKey_eq {a : Artifact} (h : a.Compiled) :
    a.layerKey = a.page.layerKey := by
  obtain ⟨now, h⟩ := h.eq_ofPage
  rw [h]
  rfl

theorem Artifact.Compiled.plain {a : Artifact} (h : a.Compiled) : a.page.scope.Plain := by
  obtain ⟨document, ctx, now, h⟩ := h
  obtain ⟨p, hdocument, hp⟩ := compile_eq_ok h
  obtain ⟨-, -, rfl⟩ := compilePage_eq_ok.1 hp
  exact Page.plain_of_ofDocument hdocument

section

variable (hcompiled : ∀ a ∈ artifacts, a.Compiled)
  (hsame : ∀ a ∈ artifacts, ∀ b ∈ artifacts, a.checksum = b.checksum → a.page = b.page)

include hcompiled hsame

/-- What is stored for a live layer is the page that was published under its key. -/
theorem Publisher.StepsWith.serves (hS : Publisher.StepsWith artifacts .initial S)
    (h : S.store.Serves l) : l.artifact.page.layerKey = l.key ∧ l.key.scope.Plain := by
  have horderly := hS.orderly
  obtain ⟨hlive, hartifact⟩ := h
  obtain ⟨a, ha, id, now, hentry⟩ := horderly.records.source _ (mem_of_live hlive)
  have hkey : l.key = a.page.layerKey := by
    rw [← (hcompiled a ha).layerKey_eq, Layer.key, hentry]
    rfl
  have hchecksum : l.artifact.checksum = a.checksum := by
    rw [(horderly.sound.intact.artifacts _ _ hartifact).1, hentry]
    rfl
  rw [hkey, hsame _ (hS.storesOnly _ _ hartifact) a ha hchecksum]
  exact ⟨rfl, (hcompiled a ha).plain⟩

/-- In a snapshot of such a store no request meets two overlays that it could not tell apart. -/
theorem Publisher.StepsWith.distinct (hS : Publisher.StepsWith artifacts .initial S)
    (h : snap.LoadedFrom S.store) : snap.Distinct ctx := by
  have hintact := hS.orderly.sound.intact
  constructor
  · exact (h.nodup_keys hintact).sublist (List.filter_sublist.map _)
  · intro l hl
    exact (hS.serves hcompiled hsame ((h.mem_matching hintact).1 hl).2).2

end

namespace Snapshot

theorem resolve_of_missing (h : snap.layer? ctx.blueprintKey = none) :
    snap.resolve ctx = .error (.registry (.layerNotFound ctx.moduleName ctx.route)) := by
  unfold resolve layersFor
  rw [h]
  rfl

theorem resolve_of_layer (h : snap.layer? ctx.blueprintKey = some l) :
    snap.resolve ctx = (RequestLayers.resolution ⟨snap.generation, l,
      sortBy (fun l => l.key.precedence) (snap.matching ctx)⟩).mapError .resolve := by
  unfold resolve layersFor
  rw [h]
  rfl

/-- What a request is answered with, as told by what is live in a store: nothing but that there is
no blueprint for it, or the blueprint with the overlays that the request matches, in the order of
their precedence, or the blueprint alone. -/
structure Answers (s : MemoryStore) (ctx : RequestContext) (snap : Snapshot) : Prop where
  error : ∀ e, snap.resolve ctx = .error e →
    e = .registry (.layerNotFound ctx.moduleName ctx.route)
  missing : (∃ e, snap.resolve ctx = .error e) ↔ s.live ctx.blueprintKey = none
  found : s.live ctx.blueprintKey ≠ none → ∃ r : RequestLayers, r.LiveFor s ctx ∧
    (∀ merged, r.Make merged → ∃ page : ResolvedPage,
      snap.resolve ctx = .ok ⟨page, snap.generation, false⟩ ∧ page.page = merged ∧
      page.layers = ctx.blueprintKey :: r.overlays.map Layer.key) ∧
    ((∀ merged, ¬r.Make merged) → ∃ page : ResolvedPage,
      snap.resolve ctx = .ok ⟨page, snap.generation, true⟩ ∧
      page.page = r.blueprint.artifact.page ∧ page.layers = [ctx.blueprintKey])

end Snapshot

section

variable (hcompiled : ∀ a ∈ artifacts, a.Compiled)
  (hsame : ∀ a ∈ artifacts, ∀ b ∈ artifacts, a.checksum = b.checksum → a.page = b.page)

include hcompiled hsame

/-- Where a blueprint is live, a request is answered from what is live for it, all of them pages for
their keys. -/
theorem Snapshot.LoadedFrom.exists_layers (hS : Publisher.StepsWith artifacts .initial S)
    (h : snap.LoadedFrom S.store) (hlayer : snap.layer? ctx.blueprintKey = some l) :
    ∃ r : RequestLayers, snap.resolve ctx = r.resolution.mapError .resolve ∧
      r.generation = snap.generation ∧ r.LiveFor S.store ctx ∧
      ∀ m ∈ r.all, m.artifact.page.layerKey = m.key := by
  have hintact := hS.orderly.sound.intact
  have hdistinct : snap.Distinct ctx := hS.distinct hcompiled hsame h
  obtain ⟨hkey, hserves⟩ := (h.get?_eq_some hintact).1 hlayer
  have hmem : ∀ m, m ∈ sortBy (fun l => l.key.precedence) (snap.matching ctx) ↔
      ctx.covers m.key = true ∧ S.store.Serves m := fun m =>
    mem_sortBy.trans (h.mem_matching hintact)
  refine ⟨_, resolve_of_layer hlayer, rfl, ⟨hkey, hserves, hmem, hdistinct.strict⟩, ?_⟩
  intro m hm
  rcases List.mem_cons.1 hm with rfl | hm
  · exact (hS.serves hcompiled hsame hserves).1
  · exact (hS.serves hcompiled hsame ((hmem m).1 hm).2).1

theorem Snapshot.LoadedFrom.answers (hS : Publisher.StepsWith artifacts .initial S)
    (h : snap.LoadedFrom S.store) : snap.Answers S.store ctx := by
  have hintact := hS.orderly.sound.intact
  cases hlayer : snap.layer? ctx.blueprintKey with
  | none =>
    have hlive := (h.layer?_eq_none hintact).1 hlayer
    have hresolve := resolve_of_missing hlayer
    constructor
    · intro e he
      exact (Except.error.inj (hresolve.symm.trans he)).symm
    · exact iff_of_true ⟨_, hresolve⟩ hlive
    · exact fun hsome => absurd hlive hsome
  | some l =>
    obtain ⟨r, hresolve, hgeneration, hr, hkeys⟩ := h.exists_layers hcompiled hsame hS hlayer
    have hpage := hkeys r.blueprint List.mem_cons_self
    have hkind : r.blueprint.artifact.page.kind = .blueprint :=
      congrArg LayerKey.kind (hpage.trans hr.key)
    have hlive : S.store.live ctx.blueprintKey ≠ none := by
      rw [← hr.key, hr.serves.1]
      exact Option.some_ne_none _
    obtain ⟨x, hx⟩ := RequestLayers.exists_resolution hkind hkeys
    have hok : ∀ e, snap.resolve ctx ≠ .error e := by
      intro e he
      rw [hresolve, hx] at he
      cases he
    refine ⟨fun e he => absurd he (hok e), iff_of_false (not_exists.2 hok) hlive, fun _ => ?_⟩
    rw [hresolve, ← hgeneration, ← hr.key]
    refine ⟨r, hr, ?_, ?_⟩
    · intro merged hmake
      obtain ⟨page, hresolution, hmade⟩ := RequestLayers.resolution_of_make hkind hkeys hmake
      rw [hresolution]
      exact ⟨page, rfl, hmade⟩
    · intro hnone
      obtain ⟨page, hresolution, hmade⟩ :=
        RequestLayers.resolution_of_not_make hkind hpage hnone
      rw [hresolution]
      exact ⟨page, rfl, hmade⟩

end

/-- However publishes of compiled pages interleave, and whatever calls fail: the store can be
loaded, and what was loaded has an answer for each request. The one error is that no blueprint is
live for it, and where the overlays conflict the live blueprint is the answer. -/
theorem engine_always_answers (hcompiled : ∀ a ∈ artifacts, a.Compiled)
    (hsame : ∀ a ∈ artifacts, ∀ b ∈ artifacts, a.checksum = b.checksum → a.page = b.page)
    (hS : Publisher.StepsWith artifacts .initial S) :
    ∀ generation, ∃ snap : Snapshot,
      Program.runOn (I := storeInterface) answer (Snapshot.load generation).run S.store =
        (.ok snap, S.store) ∧
      snap.generation = generation ∧ ∀ ctx, snap.Answers S.store ctx := by
  intro generation
  obtain ⟨snap, hrun, hgeneration, hmanifest, hpointers, hcomplete⟩ :=
    Snapshot.load_runOn hS.orderly.sound.intact
  have hloaded : snap.LoadedFrom S.store := ⟨hmanifest, hpointers, hcomplete⟩
  exact ⟨snap, hrun, hgeneration, fun ctx => hloaded.answers hcompiled hsame hS⟩

/-- The notice is live, and a request for it is answered with it. -/
theorem notice_answered : ∃ S e, ∃ snap : Snapshot,
    Publisher.StepsWith {.ofPage (notice "home" "1.0.0") .epoch} .initial S ∧
      S.store.live (notice "home" "1.0.0").layerKey = some e ∧
      Program.runOn (I := storeInterface) answer (Snapshot.load 1).run S.store =
        (.ok snap, S.store) ∧
      snap.generation = 1 ∧ ∀ ctx, snap.Answers S.store ctx := by
  let a := Artifact.ofPage (notice "home" "1.0.0") .epoch
  let S : Publisher := ⟨Publisher.firstStore a "1" .epoch, fun _ => none, ["1"]⟩
  have hS : Publisher.StepsWith {a} .initial S := Publisher.stepsWith_first_publish rfl rfl
  have hcompiled : ∀ b ∈ ({a} : Set Artifact), b.Compiled := by
    rintro _ rfl
    exact ⟨noticeDocument "home" "1.0.0", .empty, .epoch, compile_notice List.mem_cons_self⟩
  have hsame : ∀ b ∈ ({a} : Set Artifact), ∀ b' ∈ ({a} : Set Artifact),
      b.checksum = b'.checksum → b.page = b'.page := by
    rintro _ rfl _ rfl _
    rfl
  obtain ⟨snap, hanswers⟩ := engine_always_answers hcompiled hsame hS 1
  exact ⟨S, _, snap, hS, Publisher.live_firstStore, hanswers⟩

end PageLayers
