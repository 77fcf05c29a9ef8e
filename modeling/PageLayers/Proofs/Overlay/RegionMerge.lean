import PageLayers.Proofs.Overlay.Frame

/-! Merging components into a region, all at once or one after another, and by patches aimed at the
components themselves: the ways to make the same edit agree. -/

namespace PageLayers

variable {id : String} {p : Page} {given : List ComponentPatch} {r : Region} {c : Component}

/-! ### Merging patches -/

namespace Patch

def mergeRegion (id : String) (given : List ComponentPatch) : Patch :=
  ⟨.region, id, .merge, some (.region given)⟩

def mergeComponent (id : String) (given : ComponentPatch) : Patch :=
  ⟨.component, id, .merge, some (.component given)⟩

end Patch

def ComponentPatch.withId (given : ComponentPatch) (id : String) : ComponentPatch :=
  { given with id := some id }

namespace Page

theorem applyPatch_mergeRegion : p.applyPatch (.mergeRegion id given) =
    (updateId .region Region.id id
      (patchRegion (componentsElsewhere id p.regions) .merge given) p.regions).map
        fun regions => { p with regions } :=
  rfl

theorem applyPatch_mergeComponent {patch : ComponentPatch} :
    p.applyPatch (.mergeComponent id patch) =
      (updateComponent id (fun c => .ok (some (c.merge patch))) p.regions).map
        fun regions => { p with regions } :=
  rfl

theorem mergeRegion_of_missing (h : ∀ r ∈ p.regions, r.id ≠ id) :
    p.applyPatch (.mergeRegion id given) = .error (.missingTarget .region id) := by
  rw [applyPatch_mergeRegion, updateId_of_missing h]
  rfl

/-- The payload is placed one component after another, beside the same other regions. -/
theorem mergeRegion_eq {before after : List Region} (hregions : p.regions = before ++ r :: after)
    (hbefore : ∀ x ∈ before, x.id ≠ r.id) : p.applyPatch (.mergeRegion r.id given) =
      (given.foldlM (placeComponent r.id
        (before.flatMap Region.components ++ after.flatMap Region.components)) r.components).map
          fun cs => { p with regions := before ++ ⟨r.id, cs⟩ :: after } := by
  rw [applyPatch_mergeRegion, hregions, updateId_append hbefore rfl,
    componentsElsewhere_append hbefore]
  unfold patchRegion
  cases hcs : given.foldlM (placeComponent r.id
      (before.flatMap Region.components ++ after.flatMap Region.components)) r.components with
  | error e => simp [hcs, Except.map]
  | ok cs => simp [hcs, Except.map]

theorem exists_first_region (h : ∃ r ∈ p.regions, r.id = id) : ∃ before r after,
    p.regions = before ++ r :: after ∧ (∀ x ∈ before, x.id ≠ id) ∧ r.id = id := by
  have hfound : (p.regions.find? (·.id = id)).isSome = true := by simpa using h
  obtain ⟨r, hr⟩ := Option.isSome_iff_exists.1 hfound
  obtain ⟨hid, before, after, hregions, hbefore⟩ := List.find?_eq_some_iff_append.1 hr
  exact ⟨before, r, after, hregions, by simpa using hbefore, by simpa using hid⟩

/-- The first part of a payload changes nothing outside of its region, so the second part meets what
it would have met in one payload with the first. -/
theorem mergeRegion_append {more : List ComponentPatch} :
    p.applyPatch (.mergeRegion id (given ++ more)) =
      p.applyPatch (.mergeRegion id given) >>= fun next =>
        next.applyPatch (.mergeRegion id more) := by
  by_cases h : ∃ r ∈ p.regions, r.id = id
  · obtain ⟨before, r, after, hregions, hbefore, rfl⟩ := exists_first_region h
    rw [mergeRegion_eq hregions hbefore, mergeRegion_eq hregions hbefore, List.foldlM_append]
    cases given.foldlM (placeComponent r.id
        (before.flatMap Region.components ++ after.flatMap Region.components)) r.components with
    | error e => rfl
    | ok cs =>
      -- the region has the same id and the same regions around it as before
      have hnext := @mergeRegion_eq { p with regions := before ++ ⟨r.id, cs⟩ :: after } more
        ⟨r.id, cs⟩ before after rfl hbefore
      exact hnext.symm
  · have hmissing : ∀ r ∈ p.regions, r.id ≠ id := by simpa using h
    rw [mergeRegion_of_missing hmissing, mergeRegion_of_missing hmissing]
    rfl

end Page

/-! ### One component -/

/-- Where a component is the first of its id, in a region that is the first of its own. -/
structure Page.Place (p : Page) where
  before : List Region
  region : Region
  after : List Region
  left : List Component
  component : Component
  right : List Component
  regions_eq : p.regions = before ++ region :: after
  components_eq : region.components = left ++ component :: right
  region_new : ∀ x ∈ before, x.id ≠ region.id
  component_new : ∀ d ∈ before.flatMap Region.components ++ left, d.id ≠ component.id

namespace Page

variable {patch : ComponentPatch}

theorem exists_place (hregions : (p.ids .region).Nodup) (hcomponents : (p.ids .component).Nodup)
    (hr : r ∈ p.regions) (hc : c ∈ r.components) :
    ∃ place : p.Place, place.region = r ∧ place.component = c := by
  obtain ⟨before, after, hplace⟩ := List.append_of_mem hr
  obtain ⟨left, right, hcs⟩ := List.append_of_mem hc
  have hall : p.components = (before.flatMap Region.components ++ left) ++
      c :: (right ++ after.flatMap Region.components) := by
    simp [components, hplace, hcs]
  rw [ids, hplace] at hregions
  rw [ids, hall] at hcomponents
  refine ⟨⟨before, r, after, left, c, right, hplace, hcs, ?_, ?_⟩, rfl, rfl⟩
  · intro x hx
    exact ne_of_nodup_map hregions (List.mem_append_left _ hx)
  · intro d hd
    exact ne_of_nodup_map hcomponents (List.mem_append_left _ hd)

namespace Place

variable (place : p.Place)

/-- The page with the component merged at its place. -/
def merged (patch : ComponentPatch) : Page :=
  { p with regions := place.before ++
      ⟨place.region.id, place.left ++ place.component.merge patch :: place.right⟩ :: place.after }

theorem mergeComponent :
    p.applyPatch (.mergeComponent place.component.id patch) = .ok (place.merged patch) := by
  obtain ⟨hbefore, hleft⟩ := List.forall_mem_append.1 place.component_new
  have hothers : ∀ x ∈ place.before, ∀ d ∈ x.components, d.id ≠ place.component.id := by
    intro x hx d hd
    exact hbefore d (List.mem_flatMap.2 ⟨x, hx, hd⟩)
  rw [applyPatch_mergeComponent, place.regions_eq,
    updateComponent_append hothers place.components_eq hleft]
  simp [Except.map, merged]

theorem mergeRegion : p.applyPatch (.mergeRegion place.region.id
    [patch.withId place.component.id]) = .ok (place.merged patch) := by
  have hleft := (List.forall_mem_append.1 place.component_new).2
  rw [mergeRegion_eq place.regions_eq place.region_new, place.components_eq, List.foldlM_cons,
    placeComponent]
  simp only [ComponentPatch.withId]
  rw [updateFirst?_append (by simpa using hleft) (by simp)]
  simp [Except.map, merged, Component.merge]

theorem outline_merged :
    (place.merged patch).regions.map Region.outline = p.regions.map Region.outline := by
  simp [merged, place.regions_eq, Region.outline, place.components_eq, Component.merge]

end Place

/-- Which regions and components a page has is read off its outlines. -/
theorem ids_of_outlines {next : Page}
    (h : next.regions.map Region.outline = p.regions.map Region.outline) :
    next.ids .region = p.ids .region ∧ next.ids .component = p.ids .component := by
  have hregion (q : Page) : q.ids .region = (q.regions.map Region.outline).map Prod.fst := by
    simp [ids, Region.outline]
  have hcomponent (q : Page) :
      q.ids .component = (q.regions.map Region.outline).flatMap Prod.snd := by
    simp [ids, components, Region.outline, List.map_flatMap, List.flatMap_map]
  rw [hregion, hregion, hcomponent, hcomponent, h]
  exact ⟨rfl, rfl⟩

/-- On a page of unique ids, a component is merged alike through its region and by itself. -/
theorem mergeRegion_single (hregions : (p.ids .region).Nodup)
    (hcomponents : (p.ids .component).Nodup) (hr : r ∈ p.regions) (hc : c ∈ r.components)
    (patch : ComponentPatch) : ∃ next, p.applyPatch (.mergeComponent c.id patch) = .ok next ∧
      p.applyPatch (.mergeRegion r.id [patch.withId c.id]) = .ok next ∧
      next.regions.map Region.outline = p.regions.map Region.outline := by
  obtain ⟨place, rfl, rfl⟩ := exists_place hregions hcomponents hr hc
  exact ⟨place.merged patch, place.mergeComponent, place.mergeRegion, place.outline_merged⟩

theorem mergeRegion_nil (h : ∃ r ∈ p.regions, r.id = id) :
    p.applyPatch (.mergeRegion id []) = .ok p := by
  obtain ⟨before, r, after, hregions, hbefore, rfl⟩ := exists_first_region h
  rw [mergeRegion_eq hregions hbefore]
  show Except.ok { p with regions := before ++ r :: after } = _
  rw [← hregions]

/-- Induction on the payload: each step leaves the same components in the same regions. -/
theorem mergeRegion_eq_foldlM {named : List (String × ComponentPatch)} {held : List String}
    (hregions : (p.ids .region).Nodup) (hcomponents : (p.ids .component).Nodup)
    (hr : (id, held) ∈ p.regions.map Region.outline) (hnamed : ∀ e ∈ named, e.1 ∈ held) :
    p.applyPatch (.mergeRegion id (named.map fun e => e.2.withId e.1)) =
      named.foldlM (fun q e => q.applyPatch (.mergeComponent e.1 e.2)) p := by
  induction named generalizing p with
  | nil =>
    obtain ⟨r, hmem, hout⟩ := List.mem_map.1 hr
    exact mergeRegion_nil ⟨r, hmem, congrArg Prod.fst hout⟩
  | cons e named ih =>
    obtain ⟨hhead, hrest⟩ := List.forall_mem_cons.1 hnamed
    obtain ⟨r, hmem, hout⟩ := List.mem_map.1 hr
    cases hout
    obtain ⟨c, hc, hid⟩ := List.mem_map.1 hhead
    obtain ⟨next, hone, hregion, hsame⟩ :=
      mergeRegion_single hregions hcomponents hmem hc e.2
    obtain ⟨hids, hcids⟩ := ids_of_outlines hsame
    rw [hid] at hone hregion
    have hstep : p.applyPatch (.mergeRegion r.id
        ([e.2.withId e.1] ++ named.map fun e => e.2.withId e.1)) = _ := mergeRegion_append
    rw [hregion] at hstep
    rw [List.map_cons, List.foldlM_cons, hone]
    exact hstep.trans (ih (hids ▸ hregions) (hcids ▸ hcomponents) (hsame ▸ hr) hrest)

/-- A region is merged component by component: a payload can be given in two parts, in whatever way
it ends, and on a page of unique ids each component can as well be merged by itself. -/
theorem region_merge_is_fold (p : Page) :
    (∀ id given more, p.applyPatch (.mergeRegion id (given ++ more)) =
      p.applyPatch (.mergeRegion id given) >>= fun next =>
        next.applyPatch (.mergeRegion id more)) ∧
    ((p.ids .region).Nodup → (p.ids .component).Nodup → ∀ r ∈ p.regions,
      (∀ c ∈ r.components, ∀ patch, ∃ next,
        p.applyPatch (.mergeComponent c.id patch) = .ok next ∧
        p.applyPatch (.mergeRegion r.id [patch.withId c.id]) = .ok next) ∧
      ∀ named : List (String × ComponentPatch),
        (∀ e ∈ named, e.1 ∈ r.components.map Component.id) →
        p.applyPatch (.mergeRegion r.id (named.map fun e => e.2.withId e.1)) =
          named.foldlM (fun q e => q.applyPatch (.mergeComponent e.1 e.2)) p) := by
  refine ⟨fun _ _ _ => mergeRegion_append, ?_⟩
  intro hregions hcomponents r hr
  constructor
  · intro c hc patch
    obtain ⟨next, hone, hregion, -⟩ := mergeRegion_single hregions hcomponents hr hc patch
    exact ⟨next, hone, hregion⟩
  · intro named hnamed
    exact mergeRegion_eq_foldlM hregions hcomponents (List.mem_map_of_mem hr) hnamed

end Page

/-- A second version of the banner, in a payload that carries the id of another component. -/
def secondBanner : ComponentPatch := ⟨some "menu", none, none, some "2", [], none⟩

/-- The banner takes its second version by itself as through its region. -/
theorem banner_merged_either_way :
    gallery.UniqueIds ∧
    (∃ next, gallery.applyPatch (.mergeComponent "hero" secondBanner) = .ok next ∧
      gallery.applyPatch (.mergeRegion "main" [secondBanner.withId "hero"]) = .ok next) ∧
    [("hero", secondBanner)].foldlM
      (fun q e => Page.applyPatch q (.mergeComponent e.1 e.2)) gallery =
        gallery.applyPatch (.mergeRegion "main" [secondBanner.withId "hero"]) := by
  obtain ⟨-, hunique⟩ := Page.region_merge_is_fold gallery
  have hmain : (⟨"main", [⟨"hero", "Banner", "ui", none, [], none⟩]⟩ : Region) ∈
      gallery.regions := List.mem_cons_self
  obtain ⟨hsingle, hfold⟩ :=
    hunique (gallery_uniqueIds .region) (gallery_uniqueIds .component) _ hmain
  exact ⟨gallery_uniqueIds, hsingle _ List.mem_cons_self _,
    (hfold [("hero", secondBanner)] (by decide)).symm⟩

end PageLayers
