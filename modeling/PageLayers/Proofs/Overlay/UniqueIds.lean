import PageLayers.Proofs.Lists
import PageLayers.Proofs.Overlay.Nodes

/-! Patches keep ids unique: regions, components of all regions together, data sources and
actions. -/

namespace PageLayers

variable {α : Type} {p next : Page} {patch : Patch}

/-- No two nodes of one kind have the same id. -/
def Page.UniqueIds (p : Page) : Prop := ∀ target, (p.ids target).Nodup

theorem ne_of_nodup_map {idOf : α → String} {before after : List α} {a : α}
    (h : ((before ++ a :: after).map idOf).Nodup) {x : α} (hx : x ∈ before ++ after) :
    idOf x ≠ idOf a := by
  rw [List.map_append, List.map_cons, List.nodup_middle, List.nodup_cons, ← List.map_append] at h
  intro hid
  exact h.1 (hid ▸ List.mem_map_of_mem hx)

theorem NodesAfter.map_sublist {idOf : α → String} {id : String} {New : α → α → Prop}
    {l l' : List α} (h : NodesAfter idOf id New l l')
    (hnew : ∀ a b, New a b → idOf a = id → idOf b = id) :
    (l'.map idOf).Sublist (l.map idOf) := by
  cases h with
  | same => exact List.Sublist.refl _
  | removed hl hbefore ha => simp [hl]
  | changed hl hbefore ha hb => simp [hl, ha, hnew _ _ hb ha]

namespace Patch

theorem newComponent_id {c c' : Component} (h : patch.NewComponent c c')
    (hc : c.id = patch.targetId) : c'.id = patch.targetId := by
  obtain ⟨payload, -, rfl | hcomplete⟩ := h
  · exact hc
  · exact Component.complete_id hcomplete

theorem newDataSource_id {s s' : DataSource} (h : patch.NewDataSource s s')
    (hs : s.id = patch.targetId) : s'.id = patch.targetId := by
  obtain ⟨payload, -, rfl | hcomplete⟩ := h
  · exact hs
  · exact DataSource.complete_id hcomplete

theorem newAction_id {a a' : Action} (h : patch.NewAction a a')
    (ha : a.id = patch.targetId) : a'.id = patch.targetId := by
  obtain ⟨payload, -, rfl | hcomplete⟩ := h
  · exact ha
  · exact Action.complete_id hcomplete

end Patch

/-- A payload's component takes an id that stood in the list before, or one that stands nowhere. -/
theorem PlacedAfter.nodup {elsewhere l l' : List Component} {patch : ComponentPatch}
    (h : PlacedAfter elsewhere patch l l') (hl : ((l ++ elsewhere).map Component.id).Nodup) :
    ((l' ++ elsewhere).map Component.id).Nodup := by
  cases h with
  | merged hid hl' hbefore => simpa [hl'] using hl
  | added hid hc hfresh helse =>
    rename_i c
    have hnot : c.id ∉ (l ++ elsewhere).map Component.id := by
      simp only [List.map_append, List.mem_append, List.mem_map, not_or, not_exists, not_and]
      exact ⟨hfresh, helse⟩
    have hcons := List.Nodup.cons hnot hl
    simpa [List.nodup_middle] using hcons

theorem foldlM_placeComponent_nodup {regionId : String} {elsewhere start cs : List Component}
    {payload : List ComponentPatch} (hstart : ((start ++ elsewhere).map Component.id).Nodup)
    (h : payload.foldlM (placeComponent regionId elsewhere) start = .ok cs) :
    ((cs ++ elsewhere).map Component.id).Nodup :=
  foldlM_keeps (P := fun l => ((l ++ elsewhere).map Component.id).Nodup)
    (fun _ _ _ _ hl hstep => (placedAfter_of_placeComponent hstep).nodup hl) hstart h

namespace RegionsAfter

variable {l l' : List Region}

theorem map_id_sublist (h : RegionsAfter patch l l') :
    (l'.map Region.id).Sublist (l.map Region.id) := by
  cases h with
  | same => exact List.Sublist.refl _
  | removed hl hbefore hr => simp [hl]
  | filled hl hbefore hr hpayload hcs => simp [hl]
  | within hl hbefore hcs => simp [hl]

/-- The components of one region brought to the front of all others. -/
theorem flatMap_perm (before after : List Region) (id : String) (cs : List Component) :
    ((before ++ ⟨id, cs⟩ :: after).flatMap Region.components).Perm
      (cs ++ (before.flatMap Region.components ++ after.flatMap Region.components)) := by
  rw [List.flatMap_append, List.flatMap_cons]
  exact List.perm_append_comm_assoc _ _ _

theorem components_nodup (h : RegionsAfter patch l l')
    (hl : ((l.flatMap Region.components).map Component.id).Nodup) :
    ((l'.flatMap Region.components).map Component.id).Nodup := by
  cases h with
  | same => exact hl
  | removed hl' hbefore hr =>
    rename_i before r after
    subst hl'
    refine hl.sublist ?_
    simp only [List.flatMap_append, List.flatMap_cons, List.map_append]
    exact (List.Sublist.refl _).append (List.sublist_append_right _ _)
  | filled hl' hbefore hr hpayload hcs =>
    rename_i before r after payload cs
    subst hl'
    rw [((flatMap_perm before after r.id cs).map Component.id).nodup_iff]
    rw [((flatMap_perm before after r.id r.components).map Component.id).nodup_iff] at hl
    refine foldlM_placeComponent_nodup ?_ hcs
    split
    · rw [List.map_append] at hl
      exact hl.of_append_right
    · exact hl
  | within hl' hbefore hcs =>
    rename_i before r after cs
    subst hl'
    have hsub := hcs.map_sublist fun a b => Patch.newComponent_id
    refine hl.sublist ?_
    simp only [List.flatMap_append, List.flatMap_cons, List.map_append]
    exact (List.Sublist.refl _).append (hsub.append (List.Sublist.refl _))

end RegionsAfter

namespace Page

theorem uniqueIds_of_applyPatch (h : p.applyPatch patch = .ok next) (hp : p.UniqueIds) :
    next.UniqueIds := by
  obtain ⟨regions, dataSources, actions, hr, hs, ha, rfl⟩ := applyPatch_eq_ok h
  intro target
  cases target with
  | region => exact (hp .region).sublist hr.map_id_sublist
  | component => exact hr.components_nodup (hp .component)
  | dataSource => exact (hp .dataSource).sublist (hs.map_sublist fun _ _ => Patch.newDataSource_id)
  | action => exact (hp .action).sublist (ha.map_sublist fun _ _ => Patch.newAction_id)

theorem UniqueIds.dataSource?_eq (h : p.UniqueIds) {s : DataSource} (hs : s ∈ p.dataSources) :
    p.dataSource? s.id = some s := by
  have hfound : (p.dataSource? s.id).isSome := List.find?_isSome.2 ⟨s, hs, by simp⟩
  obtain ⟨d, hd⟩ := Option.isSome_iff_exists.1 hfound
  have hid : d.id = s.id := by simpa using List.find?_some hd
  rw [hd, List.inj_on_of_nodup_map (h .dataSource) (List.mem_of_find?_eq_some hd) hs hid]

theorem UniqueIds.dataSource?_eq_some {s : DataSource} {id : String} (h : p.UniqueIds) :
    p.dataSource? id = some s ↔ s ∈ p.dataSources ∧ s.id = id := by
  constructor
  · intro hs
    exact ⟨List.mem_of_find?_eq_some hs, by simpa using List.find?_some hs⟩
  · rintro ⟨hs, rfl⟩
    exact h.dataSource?_eq hs

theorem firstRepeated?_eq_none {seen ids : List String} :
    firstRepeated? seen ids = none ↔ ids.Nodup ∧ ∀ id ∈ ids, id ∉ seen := by
  induction ids generalizing seen with
  | nil => simp [firstRepeated?]
  | cons id rest ih =>
    unfold firstRepeated?
    by_cases hid : id ∈ seen
    · simp [hid]
    · simp [hid, ih]
      grind

theorem checkUnique_eq_ok : p.checkUnique = .ok () ↔ (p.ids .component).Nodup := by
  unfold checkUnique
  split
  · rename_i id hid
    have hrep : ¬ firstRepeated? [] (p.ids .component) = none := by simp [hid]
    rw [firstRepeated?_eq_none] at hrep
    simpa using hrep
  · rename_i hid
    rw [firstRepeated?_eq_none] at hid
    simpa using hid

theorem uniqueIds_of_applyPatches {patches : List Patch}
    (h : patches.foldlM applyPatch p = .ok next) (hp : p.UniqueIds) : next.UniqueIds :=
  foldlM_keeps (fun _ _ _ _ htree hstep => uniqueIds_of_applyPatch hstep htree) hp h

/-- An overlay fails only where one of its patches does. -/
theorem applyOverlay_eq_map {overlay : Page} (hp : p.UniqueIds) : p.applyOverlay overlay =
    (overlay.patches.foldlM applyPatch p).map fun tree =>
      { tree with constants := tree.constants.extend overlay.constants } := by
  unfold applyOverlay
  cases htree : overlay.patches.foldlM applyPatch p with
  | error e => rfl
  | ok tree =>
    have hunique : checkUnique { tree with
        constants := tree.constants.extend overlay.constants } = .ok () :=
      checkUnique_eq_ok.2 (uniqueIds_of_applyPatches htree hp .component)
    show (checkUnique _ >>= fun _ => _) = _
    rw [hunique]
    rfl

/-- Whatever the payloads of patches repeat, no id of the page they are applied to comes to stand
twice, and what is checked in the end always holds. -/
theorem patches_keep_ids_unique (hp : p.UniqueIds) :
    (∀ patch next, p.applyPatch patch = .ok next → next.UniqueIds) ∧
    (∀ (patches : List Patch) tree, patches.foldlM applyPatch p = .ok tree →
      tree.UniqueIds ∧ tree.checkUnique = .ok ()) ∧
    ∀ overlay, p.applyOverlay overlay = (overlay.patches.foldlM applyPatch p).map fun tree =>
      { tree with constants := tree.constants.extend overlay.constants } := by
  refine ⟨fun _ _ h => uniqueIds_of_applyPatch h hp, ?_, fun _ => applyOverlay_eq_map hp⟩
  intro patches tree h
  have htree := uniqueIds_of_applyPatches h hp
  exact ⟨htree, checkUnique_eq_ok.2 (htree .component)⟩

end Page

/-- A page with a node of each kind, on which the components of two regions can meet. -/
def gallery : Page where
  kind := .blueprint
  schemaVersion := "1.0.0"
  contentVersion := "1.0.0"
  moduleName := "shop"
  route := "/gallery"
  scope := .unset
  pageId := "gallery"
  extendsId := none
  regions := [⟨"main", [⟨"hero", "Banner", "ui", none, [], none⟩]⟩,
    ⟨"side", [⟨"menu", "Menu", "ui", none, [], none⟩]⟩]
  dataSources := [⟨"copy", .static (.obj []), ∅, none⟩]
  actions := [⟨"send", "submit", [], none⟩]
  constants := ∅
  patches := []

/-- Adds a card, and changes it further down. -/
def cardPatch : Patch where
  target := .region
  targetId := "main"
  operation := .merge
  payload := some (.region [⟨some "card", some "Card", some "ui", none, [], none⟩,
    ⟨some "hero", none, none, some "2", [], none⟩, ⟨some "card", none, none, some "3", [], none⟩])

def galleryWithCard : Page :=
  { gallery with
    regions := [⟨"main", [⟨"hero", "Banner", "ui", some "2", [], none⟩,
        ⟨"card", "Card", "ui", some "3", [], none⟩]⟩,
      ⟨"side", [⟨"menu", "Menu", "ui", none, [], none⟩]⟩] }

theorem gallery_uniqueIds : gallery.UniqueIds := by
  intro target
  cases target <;> decide

theorem gallery_ids_stay_unique :
    gallery.UniqueIds ∧
    (gallery.applyPatch cardPatch = .ok galleryWithCard ∧ galleryWithCard.UniqueIds) ∧
    ([cardPatch, cardPatch].foldlM Page.applyPatch gallery = .ok galleryWithCard ∧
      galleryWithCard.checkUnique = .ok ()) := by
  have hone : gallery.applyPatch cardPatch = .ok galleryWithCard := by decide
  have htwo : [cardPatch, cardPatch].foldlM Page.applyPatch gallery = .ok galleryWithCard := by
    decide
  obtain ⟨hpatch, hpatches, -⟩ := Page.patches_keep_ids_unique gallery_uniqueIds
  exact ⟨gallery_uniqueIds, ⟨hone, hpatch _ _ hone⟩, htwo, (hpatches _ _ htwo).2⟩

end PageLayers
