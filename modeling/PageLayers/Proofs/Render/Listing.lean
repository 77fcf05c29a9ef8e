import PageLayers.Render.Evaluate
import PageLayers.Proofs.Ordered.Map
import PageLayers.Proofs.Ordered.Sort
import Mathlib.Data.Multiset.Defs

/-! What the order in which the results of sources are gone through decides of a rendered page:
where sources failed, the order of errors with the same text, and nothing else. -/

namespace PageLayers

variable {fingerprint id : String} {p : Page} {ctx : RenderContext}
  {listed listed' : List (String × SourceResult)} {listing listing' : Listing}

namespace Listing

variable {results : SourceResults}

theorem perm_list : (listing.list results).Perm (listing'.list results) :=
  (listing.perm results).trans (listing'.perm results).symm

theorem nodup_keys : ((listing.list results).map Prod.fst).Nodup :=
  ((listing.perm results).map Prod.fst).nodup_iff.2 OrderedMap.nodup_keys

end Listing

namespace RenderModel

/-- All of a model but the order of errors with the same text: the rest of it, the texts of its
errors in their order, and the errors in none. -/
def upToTies (m : RenderModel) : RenderModel × List String × Multiset EvaluationError :=
  ({ m with errors := [] }, m.errors.map EvaluationError.message, m.errors)

/-- Sources of two ids may fail with one text. -/
example : (EvaluationError.sourceFailed "a" (.worded "b` failed: c")).message =
    (EvaluationError.sourceFailed "a` failed: b" (.worded "c")).message := by decide

/-- The errors of nodes are those of expressions, so that all others come from sources. -/
theorem errors_ofResults {e : EvaluationError}
    (h : e ∈ (ofResults fingerprint p ctx listed).errors) :
    (∃ node name fault, e = .expression node name fault) ∨
      ∃ entry ∈ listed, entry.2.error? entry.1 = some e := by
  have hnode {node : String} {props : List RenderProperty}
      (he : e ∈ RenderProperty.errors node props) :
      ∃ node name fault, e = .expression node name fault := by
    obtain ⟨q, -, hq⟩ := List.mem_filterMap.1 he
    split at hq <;> cases hq
    exact ⟨_, _, _, rfl⟩
  rcases List.mem_append.1 (mem_sortBy.1 h) with h | h
  · rcases List.mem_append.1 h with h | h
    · obtain ⟨c, -, hc⟩ := List.mem_flatMap.1 h
      exact .inl (hnode hc)
    · obtain ⟨a, -, ha⟩ := List.mem_flatMap.1 h
      exact .inl (hnode ha)
  · exact .inr (List.mem_filterMap.1 h)

theorem errors_of_listed {e : EvaluationError} {entry : String × SourceResult}
    (hentry : entry ∈ listed) (he : entry.2.error? entry.1 = some e) :
    e ∈ (ofResults fingerprint p ctx listed).errors :=
  mem_sortBy.2 (List.mem_append_right _ (List.mem_filterMap.2 ⟨entry, hentry, he⟩))

theorem ofResults_hasSourceFailures :
    (ofResults fingerprint p ctx listed).hasSourceFailures = true ↔
      ∃ entry ∈ listed, (entry.2.error? entry.1).isSome := by
  rw [hasSourceFailures, List.any_eq_true]
  constructor
  · rintro ⟨e, he, hsource⟩
    rcases errors_ofResults he with ⟨node, name, fault, rfl⟩ | ⟨entry, hentry, he⟩
    · cases hsource
    · exact ⟨entry, hentry, Option.isSome_of_eq_some he⟩
  · rintro ⟨entry, hentry, herror⟩
    obtain ⟨e, he⟩ := Option.isSome_iff_exists.1 herror
    refine ⟨e, errors_of_listed hentry he, ?_⟩
    obtain ⟨id, result⟩ := entry
    cases result <;> cases he <;> rfl

section

variable (h : listed.Perm listed') (hkeys : (listed.map Prod.fst).Nodup)

include h hkeys

theorem ofResults_sources_of_perm : (ofResults fingerprint p ctx listed).sources =
    (ofResults fingerprint p ctx listed').sources := by
  refine OrderedMap.ofList_eq_of_perm (h.map _) ?_
  rwa [List.map_map]

/-- The texts of all errors are sorted, and equal texts cannot be told apart. -/
theorem ofResults_upToTies_of_perm : (ofResults fingerprint p ctx listed).upToTies =
    (ofResults fingerprint p ctx listed').upToTies := by
  have hrest : { ofResults fingerprint p ctx listed with errors := [] } =
      { ofResults fingerprint p ctx listed' with errors := [] } :=
    congrArg (fun sources =>
      { ofResults fingerprint p ctx listed with errors := [], sources := sources })
      (ofResults_sources_of_perm h hkeys)
  have htexts : (ofResults fingerprint p ctx listed).errors.map EvaluationError.message =
      (ofResults fingerprint p ctx listed').errors.map EvaluationError.message :=
    map_sortBy_of_perm ((h.filterMap _).append_left _)
  have herrors : (ofResults fingerprint p ctx listed).errors.Perm
      (ofResults fingerprint p ctx listed').errors :=
    perm_sortBy.trans (((h.filterMap _).append_left _).trans perm_sortBy.symm)
  exact Prod.ext hrest (Prod.ext htexts (Multiset.coe_eq_coe.2 herrors))

/-- Where no source failed there are no ties but between errors of nodes, which have an order. -/
theorem ofResults_eq_of_perm
    (hfailures : (ofResults fingerprint p ctx listed).hasSourceFailures = false) :
    ofResults fingerprint p ctx listed = ofResults fingerprint p ctx listed' := by
  have hnone : ∀ entry ∈ listed, entry.2.error? entry.1 = none := by
    intro entry hentry
    cases herror : entry.2.error? entry.1 with
    | none => rfl
    | some e =>
      have hfailed : (ofResults fingerprint p ctx listed).hasSourceFailures = true :=
        ofResults_hasSourceFailures.2 ⟨entry, hentry, Option.isSome_of_eq_some herror⟩
      rw [hfailures] at hfailed
      cases hfailed
  have hlisted : (listed.filterMap fun e => e.2.error? e.1) = [] :=
    List.filterMap_eq_nil_iff.2 hnone
  have hlisted' : (listed'.filterMap fun e => e.2.error? e.1) = [] :=
    List.filterMap_eq_nil_iff.2 fun entry hentry => hnone entry (h.mem_iff.2 hentry)
  have hsources : (ofResults fingerprint p ctx listed).sources =
      (ofResults fingerprint p ctx listed').sources := ofResults_sources_of_perm h hkeys
  simp only [ofResults] at hsources ⊢
  rw [hlisted, hlisted', hsources]

end

variable {results : SourceResults} {status : SourceStatus}

theorem ofResults_sources_entries :
    (ofResults fingerprint p ctx (listing.list results)).sources.entries =
      results.entries.map fun e => (e.1, e.2.status e.1) := by
  rw [ofResults_sources_of_perm (listing.perm results) Listing.nodup_keys]
  refine OrderedMap.ofList_entries ?_
  rw [List.pairwise_map]
  exact results.ascending

theorem ofResults_sources_get? :
    (ofResults fingerprint p ctx (listing.list results)).sources.get? id = some status ↔
      ∃ result, results.get? id = some result ∧ result.status id = status := by
  simp only [OrderedMap.get?_eq_some, ofResults_sources_entries, List.mem_map, Prod.mk.injEq]
  constructor
  · rintro ⟨⟨id', result⟩, hentry, rfl, rfl⟩
    exact ⟨result, hentry, rfl⟩
  · rintro ⟨result, hentry, rfl⟩
    exact ⟨(id, result), hentry, rfl, rfl⟩

theorem ofResults_sources_keys :
    (ofResults fingerprint p ctx (listing.list results)).sources.keys = results.keys := by
  simp [OrderedMap.keys, ofResults_sources_entries]

end RenderModel

/-- Evaluations that go through the results in two ways come to the same but for ties. -/
theorem ResolvedPage.evaluateListed_upToTies {m : Type → Type} [Monad m] [LawfulMonad m]
    {config : EvaluatorConfig} {ask : DataSource → m Reply} {r : ResolvedPage} {viewer : Viewer} :
    RenderModel.upToTies <$> r.evaluateListed listing config ask viewer =
      RenderModel.upToTies <$> r.evaluateListed listing' config ask viewer := by
  unfold evaluateListed
  simp only [map_bind, map_pure]
  refine bind_congr fun results => congrArg pure ?_
  exact RenderModel.ofResults_upToTies_of_perm Listing.perm_list Listing.nodup_keys

end PageLayers
