import PageLayers.Proofs.Overlay.PropertyMerge
import PageLayers.Proofs.Overlay.Target
import PageLayers.Proofs.Overlay.UniqueIds

/-! What a patch leaves as it is: on a page of unique ids it touches the node that it is aimed at
and nothing else. -/

namespace PageLayers

variable {α : Type} {idOf : α → String} {id : String} {operation : Operation} {target : Target}
  {l l' : List α} {p next : Page} {patch : Patch}

/-- What an update of one node leaves of a list of nodes. -/
structure NodesFrame (idOf : α → String) (id : String) (operation : Operation) (l l' : List α) :
    Prop where
  mem : id ∈ l.map idOf
  others : l'.filter (idOf · ≠ id) = l.filter (idOf · ≠ id)
  removed : operation = .remove → l' = l.filter (idOf · ≠ id)
  ids : operation ≠ .remove → l'.map idOf = l.map idOf

theorem nodesFrame_of_updateId {f : α → Except PatchError (Option α)} (hl : (l.map idOf).Nodup)
    (hf : ∀ a b, idOf a = id → f a = .ok b → Patch.Leaves idOf id operation b)
    (h : updateId target idOf id f l = .ok l') : NodesFrame idOf id operation l l' := by
  obtain ⟨before, a, after, b, rfl, hbefore, ha, hb, rfl⟩ := updateId_eq_ok.1 h
  have hafter : ∀ x ∈ after, idOf x ≠ id := by
    intro x hx
    rw [← ha]
    exact ne_of_nodup_map hl (List.mem_append_right before hx)
  have hwithout (mid : List α) (hmid : ∀ x ∈ mid, idOf x = id) :
      (before ++ mid ++ after).filter (idOf · ≠ id) = before ++ after := by
    have hnone : mid.filter (idOf · ≠ id) = [] := by simpa using hmid
    rw [List.filter_append, List.filter_append, hnone, List.append_nil,
      List.filter_eq_self.2 (by simpa using hbefore), List.filter_eq_self.2 (by simpa using hafter)]
  have hold : (before ++ a :: after).filter (idOf · ≠ id) = before ++ after := by
    simpa using hwithout [a] (by simpa using ha)
  have hmem : id ∈ (before ++ a :: after).map idOf := List.mem_map.2 ⟨a, by simp, ha⟩
  cases hf a b ha hb with
  | nothing =>
    refine ⟨hmem, ?_, ?_, fun h => absurd rfl h⟩
    · rw [hold]
      exact hwithout [] (by simp)
    · intro _
      rw [hold]
      simp
  | @node _ a' hkept ha' =>
    refine ⟨hmem, ?_, fun h => absurd h hkept, fun _ => ?_⟩
    · rw [hold]
      exact hwithout [a'] (by simpa using ha')
    · simp [ha, ha']

namespace Region

/-- A region without the component of an id. -/
def without (id : String) (r : Region) : Region := ⟨r.id, r.components.filter (·.id ≠ id)⟩

/-- Which components stand in a region, in order. -/
def outline (r : Region) : String × List String := (r.id, r.components.map Component.id)

end Region

/-- What an update of one component leaves of the regions. -/
structure ComponentsFrame (id : String) (operation : Operation) (l l' : List Region) : Prop where
  mem : id ∈ (l.flatMap Region.components).map Component.id
  others : l'.map (Region.without id) = l.map (Region.without id)
  removed : operation = .remove → l' = l.map (Region.without id)
  outlines : operation ≠ .remove → l'.map Region.outline = l.map Region.outline

theorem componentsFrame_of_updateComponent {f : Component → Except PatchError (Option Component)}
    {l l' : List Region} (hl : ((l.flatMap Region.components).map Component.id).Nodup)
    (hf : ∀ c b, c.id = id → f c = .ok b → Patch.Leaves Component.id id operation b)
    (h : updateComponent id f l = .ok l') : ComponentsFrame id operation l l' := by
  obtain ⟨before, r, after, cs, rfl, -, hcs, rfl⟩ := updateComponent_eq_ok h
  rw [List.flatMap_append, List.flatMap_cons, List.map_append, List.map_append] at hl
  obtain ⟨-, hrest, hbefore⟩ := List.nodup_append.1 hl
  obtain ⟨hr, -, hafter⟩ := List.nodup_append.1 hrest
  have hframe := nodesFrame_of_updateId hr hf hcs
  have hkeep : ∀ x ∈ before ++ after, x.without id = x := by
    intro x hx
    have hne : ∀ c ∈ x.components, c.id ≠ id := by
      rintro c hc rfl
      have hcomponent {l : List Region} (hl : x ∈ l) :
          c.id ∈ (l.flatMap Region.components).map Component.id :=
        List.mem_map_of_mem (List.mem_flatMap.2 ⟨x, hl, hc⟩)
      rcases List.mem_append.1 hx with hx | hx
      · exact hbefore _ (hcomponent hx) _ (List.mem_append_left _ hframe.mem) rfl
      · exact hafter _ hframe.mem _ (hcomponent hx) rfl
    rw [Region.without, List.filter_eq_self.2 (by simpa using hne)]
  rw [List.forall_mem_append] at hkeep
  constructor
  · simp only [List.flatMap_append, List.flatMap_cons, List.map_append, List.mem_append]
    exact .inr (.inl hframe.mem)
  · have hsame : Region.without id ⟨r.id, cs⟩ = r.without id := by
      rw [Region.without, Region.without, hframe.others]
    simp [hsame]
  · intro hremove
    rw [List.map_append, List.map_cons, List.map_congr_left hkeep.1, List.map_congr_left hkeep.2,
      List.map_id', List.map_id', Region.without, hframe.removed hremove]
  · intro hkept
    simp [Region.outline, hframe.ids hkept]

namespace Page

/-- A page without the node of an id. -/
def without (p : Page) (id : String) : Target → Page
  | .region => { p with regions := p.regions.filter (·.id ≠ id) }
  | .component => { p with regions := p.regions.map (Region.without id) }
  | .dataSource => { p with dataSources := p.dataSources.filter (·.id ≠ id) }
  | .action => { p with actions := p.actions.filter (·.id ≠ id) }

/-- What a patch leaves of a page. Apart from its target the page stays as it is, in the same order,
and the target keeps its place unless it is removed. -/
structure Frame (p : Page) (patch : Patch) (next : Page) : Prop where
  header : next = { p with
    regions := next.regions, dataSources := next.dataSources, actions := next.actions }
  mem : patch.targetId ∈ p.ids patch.target
  others : next.without patch.targetId patch.target = p.without patch.targetId patch.target
  removed : patch.operation = .remove → next = p.without patch.targetId patch.target
  ids : ∀ target, target ≠ .component → next.ids target =
    if patch.operation = .remove ∧ patch.target = target
      then (p.ids target).filter (· ≠ patch.targetId) else p.ids target
  outlines : patch.operation ≠ .remove → patch.target ≠ .region →
    next.regions.map Region.outline = p.regions.map Region.outline

/-- Where the target is not a component, the rest of the page is that of a page with other nodes of
the kind of the target. -/
theorem frame_of_nodesFrame {s : List α → Page} (htarget : patch.target = target)
    (hframe : NodesFrame idOf patch.targetId patch.operation l l')
    (hheader : s l' = { s l with
      regions := (s l').regions, dataSources := (s l').dataSources, actions := (s l').actions })
    (hwithout : ∀ l, (s l).without patch.targetId target = s (l.filter (idOf · ≠ patch.targetId)))
    (hids : ∀ l, (s l).ids target = l.map idOf)
    (hothers : ∀ other, target ≠ other → other ≠ .component → (s l').ids other = (s l).ids other)
    (hregions : target ≠ .region → (s l').regions = (s l).regions) :
    (s l).Frame patch (s l') := by
  subst htarget
  constructor
  · exact hheader
  · rw [hids]
    exact hframe.mem
  · rw [hwithout, hwithout, hframe.others]
  · intro hremove
    rw [hwithout, ← hframe.removed hremove]
  · intro target hnode
    by_cases hsame : patch.target = target
    · subst hsame
      rw [hids, hids]
      by_cases hremove : patch.operation = .remove
      · rw [if_pos ⟨hremove, rfl⟩, hframe.removed hremove, List.filter_map]
        rfl
      · rw [if_neg fun h => hremove h.1, hframe.ids hremove]
    · rw [if_neg fun h => hsame h.2, hothers target hsame hnode]
  · intro _ hkind
    rw [hregions hkind]

/-- Where the target is a component, it stands in one of the regions, which all stay. -/
theorem frame_of_componentsFrame {regions : List Region} (htarget : patch.target = .component)
    (hframe : ComponentsFrame patch.targetId patch.operation p.regions regions) :
    p.Frame patch { p with regions } := by
  have hids : regions.map Region.id = p.regions.map Region.id := by
    have hothers := congrArg (List.map Region.id) hframe.others
    rwa [List.map_map, List.map_map] at hothers
  constructor
  · rfl
  · rw [htarget]
    exact hframe.mem
  · rw [htarget]
    exact congrArg (fun regions => { p with regions }) hframe.others
  · intro hremove
    rw [htarget]
    exact congrArg (fun regions => { p with regions }) (hframe.removed hremove)
  · intro other hnode
    rw [if_neg fun h => hnode (htarget.symm.trans h.2).symm]
    cases other with
    | region => exact hids
    | component => exact absurd rfl hnode
    | dataSource => rfl
    | action => rfl
  · exact fun hkept _ => hframe.outlines hkept

theorem frame_of_applyPatch (hp : p.UniqueIds) (h : p.applyPatch patch = .ok next) :
    p.Frame patch next := by
  rw [applyPatch_eq, except_bind_eq_ok] at h
  obtain ⟨_, -, h⟩ := h
  cases htarget : patch.target with
  | region =>
    simp only [htarget, except_bind_eq_ok] at h
    obtain ⟨regions, hregions, hnext⟩ := h
    cases hnext
    have hframe := nodesFrame_of_updateId (hp .region)
      (fun _ _ => Patch.leaves_of_changeRegion) hregions
    refine frame_of_nodesFrame (s := fun regions => { p with regions }) htarget hframe rfl
      (fun _ => rfl) (fun _ => rfl) ?_ (absurd rfl)
    intro other hne hnode
    cases other <;> first | rfl | contradiction
  | component =>
    simp only [htarget, except_bind_eq_ok] at h
    obtain ⟨regions, hregions, hnext⟩ := h
    cases hnext
    exact frame_of_componentsFrame htarget (componentsFrame_of_updateComponent (hp .component)
      (f := patch.change Payload.component? Component.merge Component.complete)
      (fun _ _ => Patch.leaves_of_change (fun _ _ => rfl) Component.complete_id) hregions)
  | dataSource =>
    simp only [htarget, except_bind_eq_ok] at h
    obtain ⟨dataSources, hdataSources, hnext⟩ := h
    cases hnext
    have hframe := nodesFrame_of_updateId (hp .dataSource)
      (f := patch.change Payload.dataSource? DataSource.merge DataSource.complete)
      (fun _ _ => Patch.leaves_of_change (fun _ _ => rfl) DataSource.complete_id) hdataSources
    refine frame_of_nodesFrame (s := fun dataSources => { p with dataSources }) htarget hframe rfl
      (fun _ => rfl) (fun _ => rfl) ?_ (fun _ => rfl)
    intro other hne hnode
    cases other <;> first | rfl | contradiction
  | action =>
    simp only [htarget, except_bind_eq_ok] at h
    obtain ⟨actions, hactions, hnext⟩ := h
    cases hnext
    have hframe := nodesFrame_of_updateId (hp .action)
      (f := patch.change Payload.action? Action.merge Action.complete)
      (fun _ _ => Patch.leaves_of_change (fun _ _ => rfl) Action.complete_id) hactions
    refine frame_of_nodesFrame (s := fun actions => { p with actions }) htarget hframe rfl
      (fun _ => rfl) (fun _ => rfl) ?_ (fun _ => rfl)
    intro other hne hnode
    cases other <;> first | rfl | contradiction

end Page

/-! ### The components of a merged region -/

theorem PlacedAfter.map_id {elsewhere cs cs' : List Component} {payload : ComponentPatch}
    (h : PlacedAfter elsewhere payload cs cs') : ∃ id, payload.id = some id ∧
      cs'.map Component.id =
        if id ∈ cs.map Component.id then cs.map Component.id else cs.map Component.id ++ [id] := by
  cases h with
  | merged hid hcs hbefore =>
    refine ⟨_, hid, ?_⟩
    rw [if_pos (by simp [hcs])]
    simp [hcs]
  | added hid hc hfresh helsewhere =>
    refine ⟨_, hid, ?_⟩
    rw [if_neg (by simpa using hfresh)]
    simp

/-- Ids that are put at the end unless they are there already. -/
theorem map_id_of_foldlM_placeComponent {regionId : String} {elsewhere start cs : List Component}
    {payload : List ComponentPatch}
    (h : payload.foldlM (placeComponent regionId elsewhere) start = .ok cs) :
    cs.map Component.id = start.map Component.id ++
      ((payload.filterMap ComponentPatch.id).filter (· ∉ start.map Component.id)).eraseDups := by
  induction payload generalizing start with
  | nil =>
    cases h
    simp
  | cons c rest ih =>
    rw [List.foldlM_cons, except_bind_eq_ok] at h
    obtain ⟨next, hnext, hrest⟩ := h
    obtain ⟨id, hid, hids⟩ := (placedAfter_of_placeComponent hnext).map_id
    rw [ih hrest, hids, List.filterMap_cons_some hid, append_eraseDups_cons]

namespace Page

theorem target_of_checkPayload {payload : Payload} (hpayload : patch.payload = some payload)
    (h : checkPayload patch = .ok ()) : patch.target = payload.target := by
  unfold checkPayload at h
  simp only [hpayload] at h
  split at h
  · rename_i htarget
    exact htarget.symm
  · cases h

theorem region?_eq_some {before after : List Region} {r : Region}
    (hregions : p.regions = before ++ r :: after) (hbefore : ∀ x ∈ before, x.id ≠ id)
    (hr : r.id = id) : p.region? id = some r := by
  have hnone : before.find? (·.id = id) = none := by simpa using hbefore
  rw [region?, hregions, List.find?_append, hnone, List.find?_cons_of_pos (by simpa using hr)]
  rfl

theorem merged_region {payload : List ComponentPatch} (hoperation : patch.operation = .merge)
    (hpayload : patch.payload = some (.region payload)) (h : p.applyPatch patch = .ok next) :
    ∃ r r', p.region? patch.targetId = some r ∧ next.region? patch.targetId = some r' ∧
      r'.components.map Component.id = r.components.map Component.id ++
        ((payload.filterMap ComponentPatch.id).filter
          (· ∉ r.components.map Component.id)).eraseDups := by
  rw [applyPatch_eq, except_bind_eq_ok] at h
  obtain ⟨_, hcheck, h⟩ := h
  have htarget : patch.target = .region := target_of_checkPayload hpayload hcheck
  simp only [htarget, except_bind_eq_ok] at h
  obtain ⟨regions, hregions, hnext⟩ := h
  cases hnext
  obtain ⟨before, r, after, b, hl, hbefore, hr, hb, rfl⟩ := updateId_eq_ok.1 hregions
  have hchange : patch.changeRegion (componentsElsewhere patch.targetId p.regions) r =
      patchRegion (componentsElsewhere patch.targetId p.regions) .merge payload r := by
    unfold Patch.changeRegion
    rw [hoperation, hpayload]
    rfl
  rw [hchange] at hb
  obtain ⟨cs, hcs, rfl⟩ := except_map_eq_ok.1 hb
  exact ⟨r, ⟨r.id, cs⟩, region?_eq_some hl hbefore hr, region?_eq_some (by simp; rfl) hbefore hr,
    map_id_of_foldlM_placeComponent hcs⟩

/-- A patch touches nothing but the node that it is aimed at, and a region that it merges keeps its
components before the new ones, which stand in the order in which the payload names them first. -/
theorem applyPatch_touches_target (hp : p.UniqueIds) (h : p.applyPatch patch = .ok next) :
    p.Frame patch next ∧
    ∀ payload, patch.operation = .merge → patch.payload = some (.region payload) →
      ∃ r r', p.region? patch.targetId = some r ∧ next.region? patch.targetId = some r' ∧
        r'.components.map Component.id = r.components.map Component.id ++
          ((payload.filterMap ComponentPatch.id).filter
            (· ∉ r.components.map Component.id)).eraseDups :=
  ⟨frame_of_applyPatch hp h, fun _ hoperation hpayload => merged_region hoperation hpayload h⟩

end Page

/-- The card comes after the component that was there, although the payload names it before. -/
theorem cardPatch_touches_main :
    gallery.UniqueIds ∧ gallery.applyPatch cardPatch = .ok galleryWithCard ∧
    gallery.Frame cardPatch galleryWithCard ∧
    ∃ r r', gallery.region? "main" = some r ∧ galleryWithCard.region? "main" = some r' ∧
      r'.components.map Component.id = r.components.map Component.id ++
        ((["card", "hero", "card"]).filter (· ∉ r.components.map Component.id)).eraseDups := by
  have happly : gallery.applyPatch cardPatch = .ok galleryWithCard := by decide
  obtain ⟨hframe, hmerged⟩ := Page.applyPatch_touches_target gallery_uniqueIds happly
  exact ⟨gallery_uniqueIds, happly, hframe, hmerged _ rfl rfl⟩

end PageLayers
