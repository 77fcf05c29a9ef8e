import PageLayers.Proofs.Engine.Transparency
import PageLayers.Proofs.Ordered.Sort
import PageLayers.Proofs.Registry.Precedence

/-! The answer to a request comes of the layers that it matches. Layers for others do not show in
it, nor does the order in which layers were published or in which a snapshot goes through them. -/

namespace PageLayers

variable {ctx : RequestContext} {s s' : Snapshot} {listed listed' : List Layer}
  {r r' : RequestLayers}

namespace Layer

/-- What a layer is without its record: its key, and its page with the checksum. -/
def content (l : Layer) : LayerKey × LayerInput := (l.key, l.input)

end Layer

namespace Resolution

/-- The page of a resolution with all that comes with it, and whether it is degraded. -/
def answer (r : Resolution) : ResolvedPage × Bool := (r.page, r.degraded)

end Resolution

namespace RequestLayers

/-- An answer is made of the pages and checksums of the layers, the overlays in their order. -/
theorem answer_congr (hblueprint : r.blueprint.input = r'.blueprint.input)
    (hoverlays : r.overlays.map Layer.input = r'.overlays.map Layer.input) :
    (r.resolution.mapError EngineError.resolve).map Resolution.answer =
      (r'.resolution.mapError EngineError.resolve).map Resolution.answer := by
  unfold resolution resolve resolveBlueprint
  rw [hblueprint, hoverlays]
  cases ResolvedPage.ofLayers r'.blueprint.input (r'.overlays.map Layer.input) with
  | ok page => rfl
  | error e => cases ResolvedPage.ofLayers r'.blueprint.input [] <;> rfl

end RequestLayers

namespace Snapshot

/-- The overlays of a snapshot that a request matches. -/
def matching (s : Snapshot) (ctx : RequestContext) : List Layer :=
  s.layers.values.filter fun l => ctx.covers l.key

/-- The layers for a request where a snapshot goes through its layers as they are listed. -/
def layersListed (s : Snapshot) (listed : List Layer) (ctx : RequestContext) :
    Except RegistryError RequestLayers :=
  match s.layer? ctx.blueprintKey with
  | none => .error (.layerNotFound ctx.moduleName ctx.route)
  | some blueprint =>
    let overlays := listed.filter fun l => ctx.covers l.key
    .ok ⟨s.generation, blueprint, sortBy (fun l => l.key.precedence) overlays⟩

def resolveListed (s : Snapshot) (listed : List Layer) (ctx : RequestContext) :
    Except EngineError Resolution := do
  let layers ← (s.layersListed listed ctx).mapError .registry
  layers.resolution.mapError .resolve

/-- A snapshot itself goes through its layers in the order of their keys. -/
theorem resolveListed_values : s.resolveListed s.layers.values ctx = s.resolve ctx := rfl

/-- The overlays that a request matches, each once and with dimensions that its text shows. -/
structure Distinct (s : Snapshot) (ctx : RequestContext) : Prop where
  keys : ((s.matching ctx).map Layer.key).Nodup
  plain : ∀ l ∈ s.matching ctx, l.key.scope.Plain

/-- What two snapshots have in common for a request. -/
structure AlikeFor (ctx : RequestContext) (s s' : Snapshot) : Prop where
  blueprint : (s.layer? ctx.blueprintKey).map Layer.input =
    (s'.layer? ctx.blueprintKey).map Layer.input
  overlays : ∀ content, content ∈ (s.matching ctx).map Layer.content ↔
    content ∈ (s'.matching ctx).map Layer.content

/-- The overlays of a request have one order. -/
theorem Distinct.strict (h : s.Distinct ctx) :
    (sortBy (fun l => l.key.precedence) (s.matching ctx)).Pairwise fun l m =>
      compare l.key.precedence m.key.precedence = .lt := by
  have hsorted : (sortBy (fun l => l.key.precedence) (s.matching ctx)).Perm (s.matching ctx) :=
    perm_sortBy
  have hkeys : (sortBy (fun l => l.key.precedence) (s.matching ctx)).Pairwise fun l m =>
      l.key ≠ m.key := (hsorted.pairwise_iff Ne.symm).2 (List.pairwise_map.1 h.keys)
  refine (pairwise_sortBy.and hkeys).imp_of_mem ?_
  rintro l m hl hm ⟨hle, hne⟩
  have hl' := hsorted.mem_iff.1 hl
  have hm' := hsorted.mem_iff.1 hm
  cases hcompare : compare l.key.precedence m.key.precedence with
  | lt => rfl
  | eq =>
    refine absurd ?_ hne
    exact RequestContext.eq_of_precedence_eq (List.mem_filter.1 hl').2 (List.mem_filter.1 hm').2
      (h.plain l hl') (h.plain m hm') (Std.LawfulEqOrd.eq_of_compare hcompare)
  | gt =>
    rw [hcompare] at hle
    cases hle

theorem Distinct.nodup (h : s.Distinct ctx) : ((s.matching ctx).map Layer.content).Nodup := by
  refine List.Nodup.of_map Prod.fst ?_
  rw [List.map_map]
  exact h.keys

/-- The overlays as they are put in order, by their contents alone. -/
theorem map_input_sortBy {l : List Layer} :
    (sortBy (fun l => l.key.precedence) l).map Layer.input =
      (sortBy (fun c : LayerKey × LayerInput => c.1.precedence) (l.map Layer.content)).map
        Prod.snd := by
  rw [← map_sortBy (f := Layer.content), List.map_map]
  rfl

/-- The same overlays come into the same order, whatever the order in which each snapshot lists
them. -/
theorem AlikeFor.sorted (h : AlikeFor ctx s s') (hs : s.Distinct ctx) (hs' : s'.Distinct ctx)
    (hlisted : listed.Perm s.layers.values) (hlisted' : listed'.Perm s'.layers.values) :
    (sortBy (fun l => l.key.precedence) (listed.filter fun l => ctx.covers l.key)).map Layer.input =
      (sortBy (fun l => l.key.precedence) (listed'.filter fun l => ctx.covers l.key)).map
        Layer.input := by
  have hperm : ((listed.filter fun l => ctx.covers l.key).map Layer.content).Perm
      ((s.matching ctx).map Layer.content) := (hlisted.filter _).map _
  have hperm' : ((s'.matching ctx).map Layer.content).Perm
      ((listed'.filter fun l => ctx.covers l.key).map Layer.content) :=
    ((hlisted'.filter _).map _).symm
  have hsame := (List.perm_ext_iff_of_nodup hs.nodup hs'.nodup).2 h.overlays
  have hmem : ∀ c ∈ (listed.filter fun l => ctx.covers l.key).map Layer.content,
      ∃ l ∈ s.matching ctx, l.content = c := fun c hc => List.mem_map.1 (hperm.mem_iff.1 hc)
  rw [map_input_sortBy, map_input_sortBy,
    sortBy_eq_of_perm (hperm.trans (hsame.trans hperm')) ?_]
  intro c hc d hd hprecedence
  obtain ⟨l, hl, rfl⟩ := hmem c hc
  obtain ⟨m, hm, rfl⟩ := hmem d hd
  have hkey : l.key = m.key := RequestContext.eq_of_precedence_eq (List.mem_filter.1 hl).2
    (List.mem_filter.1 hm).2 (hs.plain l hl) (hs.plain m hm) hprecedence
  rw [List.inj_on_of_nodup_map hs.keys hl hm hkey]

theorem AlikeFor.refl (ctx : RequestContext) (s : Snapshot) : AlikeFor ctx s s :=
  ⟨rfl, fun _ => Iff.rfl⟩

theorem AlikeFor.resolveListed (h : AlikeFor ctx s s') (hs : s.Distinct ctx) (hs' : s'.Distinct ctx)
    (hlisted : listed.Perm s.layers.values) (hlisted' : listed'.Perm s'.layers.values) :
    (s.resolveListed listed ctx).map Resolution.answer =
      (s'.resolveListed listed' ctx).map Resolution.answer := by
  have hoverlays := h.sorted hs hs' hlisted hlisted'
  have hblueprint := h.blueprint
  unfold Snapshot.resolveListed layersListed
  cases hlayer : s.layer? ctx.blueprintKey with
  | none =>
    rw [hlayer] at hblueprint
    have hlayer' : s'.layer? ctx.blueprintKey = none := by simpa using hblueprint.symm
    rw [hlayer']
  | some blueprint =>
    rw [hlayer] at hblueprint
    obtain ⟨blueprint', hlayer', hinput⟩ := Option.map_eq_some_iff.1 hblueprint.symm
    rw [hlayer']
    exact RequestLayers.answer_congr hinput.symm hoverlays

end Snapshot

open Snapshot

/-- Two snapshots with the same blueprint for a request and the same overlays that the request
matches give it the same answer, or find no blueprint alike, in whatever order each of them goes
through its layers: the page, its fingerprint and contracts, the list of its layers, and whether it
is degraded. All other layers may differ, as may the records of these. -/
theorem resolve_of_matching (hs : s.Distinct ctx) (hs' : s'.Distinct ctx) (h : AlikeFor ctx s s')
    (hlisted : listed.Perm s.layers.values) (hlisted' : listed'.Perm s'.layers.values) :
    (s.resolveListed listed ctx).map Resolution.answer = (s.resolve ctx).map Resolution.answer ∧
      (s'.resolveListed listed' ctx).map Resolution.answer =
        (s.resolve ctx).map Resolution.answer := by
  have hvalues : s.layers.values.Perm s.layers.values := List.Perm.refl _
  rw [← resolveListed_values]
  exact ⟨(AlikeFor.refl ctx s).resolveListed hs hs hlisted hvalues,
    (h.resolveListed hs hs' hvalues hlisted').symm⟩

/-- The same two pages under other records, without the overlay for `acme`. -/
def otherShop : Snapshot := .ofPages [("7", welcomeBack), ("8", welcome)]

def memberElsewhere : RequestContext := ⟨"other", "shop", "/", .ofList ["member"], none, none⟩

theorem shops_resolve_alike :
    (shop.resolveListed shop.layers.values.reverse memberElsewhere).map Resolution.answer =
        (shop.resolve memberElsewhere).map Resolution.answer ∧
      (otherShop.resolveListed otherShop.layers.values memberElsewhere).map Resolution.answer =
        (shop.resolve memberElsewhere).map Resolution.answer := by
  have hmatching : shop.matching memberElsewhere = [Layer.ofPage welcomeBack "2"] := rfl
  have hmatching' : otherShop.matching memberElsewhere = [Layer.ofPage welcomeBack "7"] := rfl
  have hplain : welcomeBack.scope.Plain := by
    intro d hd
    obtain rfl : d = "member" := by simpa [welcomeBack, Scope.dimensions, Scope.unset] using hd
    decide
  have hdistinct : shop.Distinct memberElsewhere := by
    constructor
    · simp [hmatching]
    · rw [hmatching]
      exact List.forall_mem_singleton.2 hplain
  have hdistinct' : otherShop.Distinct memberElsewhere := by
    constructor
    · simp [hmatching']
    · rw [hmatching']
      exact List.forall_mem_singleton.2 hplain
  have halike : AlikeFor memberElsewhere shop otherShop := by
    constructor
    · rfl
    · intro content
      rw [hmatching, hmatching']
      rfl
  exact resolve_of_matching hdistinct hdistinct' halike (List.reverse_perm _) (List.Perm.refl _)

end PageLayers
