import PageLayers.Overlay.Resolved
import PageLayers.Proofs.Outcome

/-! Which overlays a blueprint resolves with: those that belong to it and apply one after
another. -/

namespace PageLayers

variable {base merged result o : Page} {overlays : List Page}

/-- An overlay is for a blueprint when it is one for its module and route and extends its page. -/
structure Page.BelongsTo (o base : Page) : Prop where
  kind : o.kind = .overlay
  moduleName : o.moduleName = base.moduleName
  route : o.route = base.route
  extendsId : o.extendsId = base.pageId

/-- Overlays that belong to a blueprint, each applied to what those before it have made. -/
inductive Applied (base : Page) : Page → List Page → Page → Prop where
  | nil {merged : Page} : Applied base merged [] merged
  | cons {merged next o result : Page} {rest : List Page} (hbelongs : o.BelongsTo base)
      (happly : merged.applyOverlay o = .ok next) (hrest : Applied base next rest result) :
      Applied base merged (o :: rest) result

theorem checkBelongs_eq_ok :
    ResolvedPage.checkBelongs base o = .ok () ↔ o.BelongsTo base := by
  unfold ResolvedPage.checkBelongs
  constructor
  · intro h
    split at h
    · cases h
    · split at h
      · cases h
      · split at h
        · cases h
        · rename_i hkind hroute hextends
          simp only [ne_eq, not_or, Decidable.not_not] at hkind hroute hextends
          exact ⟨hkind, hroute.1, hroute.2, hextends⟩
  · rintro ⟨hkind, hmodule, hroute, hextends⟩
    simp [hkind, hmodule, hroute, hextends]

theorem applyLayer_eq_ok {next : Page} : ResolvedPage.applyLayer base merged o = .ok next ↔
    o.BelongsTo base ∧ merged.applyOverlay o = .ok next := by
  unfold ResolvedPage.applyLayer
  simp only [except_bind_eq_ok, except_mapError_eq_ok]
  constructor
  · rintro ⟨_, hbelongs, happly⟩
    exact ⟨checkBelongs_eq_ok.1 hbelongs, happly⟩
  · rintro ⟨hbelongs, happly⟩
    exact ⟨(), checkBelongs_eq_ok.2 hbelongs, happly⟩

theorem foldlM_applyLayer_eq_ok :
    overlays.foldlM (ResolvedPage.applyLayer base) merged = .ok result ↔
      Applied base merged overlays result := by
  induction overlays generalizing merged with
  | nil =>
    constructor
    · rintro ⟨⟩
      exact .nil
    · rintro ⟨⟩
      rfl
  | cons o rest ih =>
    rw [List.foldlM_cons, except_bind_eq_ok]
    simp only [applyLayer_eq_ok, ih]
    constructor
    · rintro ⟨next, ⟨hbelongs, happly⟩, hrest⟩
      exact .cons hbelongs happly hrest
    · intro h
      cases h with
      | cons hbelongs happly hrest => exact ⟨_, ⟨hbelongs, happly⟩, hrest⟩

theorem ofLayers_eq_map {blueprint : LayerInput} {overlays : List LayerInput}
    (hkind : blueprint.page.kind = .blueprint) :
    ResolvedPage.ofLayers blueprint overlays =
      (overlays.foldlM (fun merged o => ResolvedPage.applyLayer blueprint.page merged o.page)
        blueprint.page).map fun merged => .ofMerged merged (blueprint :: overlays) := by
  unfold ResolvedPage.ofLayers
  simp only [hkind, ne_eq, not_true_eq_false, if_false]
  rfl

end PageLayers
