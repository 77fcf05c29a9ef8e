import Mathlib.Data.List.Perm.Basic
import PageLayers.Proofs.Overlay.Target
import PageLayers.Proofs.Overlay.UniqueIds

/-! Patches aimed at different nodes can change places where neither node can hold the other. Of two
such patches none makes or takes away what the other looks for, so both orders come to the same
page, or neither does. -/

namespace PageLayers

variable {α β ε : Type} {idOf : α → String} {id id' : String} {target target' : Target}
  {operation : Operation} {p next : Page} {first second patch : Patch}

/-- What comes of `f` and then `g` comes of `g` and then `f` as well. -/
def Swaps (f g : α → Except ε α) : Prop :=
  ∀ a b c, f a = .ok b → g b = .ok c → ∃ b', g a = .ok b' ∧ f b' = .ok c

theorem swaps_ok_left {g : α → Except ε α} : Swaps .ok g := by
  intro a b c hb hc
  cases hb
  exact ⟨c, hc, rfl⟩

theorem swaps_ok_right {f : α → Except ε α} : Swaps f .ok := by
  intro a b c hb hc
  cases hc
  exact ⟨a, rfl, hb⟩

/-! ### Updates of a list -/

theorem updateFirst?_cons_eq_ok {has : α → Bool} {f : α → Except PatchError (Option α)} {a : α}
    {rest l : List α} : updateFirst? has f (a :: rest) = some (.ok l) ↔
      (has a = true ∧ ∃ b, f a = .ok b ∧ l = b.toList ++ rest) ∨
      (has a = false ∧ ∃ rest', updateFirst? has f rest = some (.ok rest') ∧ l = a :: rest') := by
  cases ha : has a with
  | true =>
    simp only [updateFirst?, ha, if_true, Option.some.injEq, except_map_eq_ok]
    constructor
    · rintro ⟨b, hb, rfl⟩
      exact .inl ⟨trivial, b, hb, rfl⟩
    · rintro (⟨-, b, hb, rfl⟩ | ⟨hno, -⟩)
      · exact ⟨b, hb, rfl⟩
      · cases hno
  | false =>
    simp only [updateFirst?, ha, Bool.false_eq_true, if_false, Option.map_eq_some_iff]
    constructor
    · rintro ⟨r, hr, hmap⟩
      obtain ⟨rest', rfl, rfl⟩ := except_map_eq_ok.1 hmap
      exact .inr ⟨trivial, rest', hr, rfl⟩
    · rintro (⟨hyes, -⟩ | ⟨-, rest', hrest', rfl⟩)
      · cases hyes
      · exact ⟨.ok rest', hrest', rfl⟩

/-- Two ways to work on the items of a list. Neither makes or takes away what the other looks for,
and an item that both look for stays and can be worked on in either order. -/
structure Apart (has has' : α → Bool) (f g : α → Except PatchError (Option α)) : Prop where
  left : ∀ {a b}, has a = true → f a = .ok (some b) → has' b = has' a
  right : ∀ {a b}, has' a = true → g a = .ok (some b) → has b = has a
  both : ∀ {a b}, has a = true → has' a = true → f a = .ok b → ∃ a', b = some a' ∧
    ∀ c, g a' = .ok c → ∃ b', g a = .ok (some b') ∧ f b' = .ok c

theorem updateFirst?_of_apart {has has' : α → Bool} {f g : α → Except PatchError (Option α)}
    (h : Apart has has' f g) {l l₁ l₂ : List α} (hf : updateFirst? has f l = some (.ok l₁))
    (hg : updateFirst? has' g l₁ = some (.ok l₂)) : ∃ l₁', updateFirst? has' g l = some (.ok l₁') ∧
      updateFirst? has f l₁' = some (.ok l₂) := by
  induction l generalizing l₁ l₂ with
  | nil => cases hf
  | cons a rest ih =>
    rcases updateFirst?_cons_eq_ok.1 hf with ⟨ha, b, hb, rfl⟩ | ⟨ha, rest₁, hrest₁, rfl⟩
    · cases ha' : has' a with
      | true =>
        obtain ⟨a', rfl, hswap⟩ := h.both ha ha' hb
        rcases updateFirst?_cons_eq_ok.1 hg with ⟨-, c, hc, rfl⟩ | ⟨hmissed, -⟩
        · obtain ⟨b', hb', hc'⟩ := hswap c hc
          have hstill : has b' = true := (h.right ha' hb').trans ha
          exact ⟨b' :: rest, updateFirst?_cons_eq_ok.2 (.inl ⟨ha', some b', hb', rfl⟩),
            updateFirst?_cons_eq_ok.2 (.inl ⟨hstill, c, hc', rfl⟩)⟩
        · rw [h.left ha hb, ha'] at hmissed
          cases hmissed
      | false =>
        -- the other update passes over the item before and after it has changed
        have hrest : ∃ rest₂, updateFirst? has' g rest = some (.ok rest₂) ∧
            l₂ = b.toList ++ rest₂ := by
          cases b with
          | none => exact ⟨l₂, hg, rfl⟩
          | some b =>
            rcases updateFirst?_cons_eq_ok.1 hg with ⟨hfound, -⟩ | ⟨-, rest₂, hrest₂, rfl⟩
            · rw [h.left ha hb, ha'] at hfound
              cases hfound
            · exact ⟨rest₂, hrest₂, rfl⟩
        obtain ⟨rest₂, hrest₂, rfl⟩ := hrest
        exact ⟨a :: rest₂, updateFirst?_cons_eq_ok.2 (.inr ⟨ha', rest₂, hrest₂, rfl⟩),
          updateFirst?_cons_eq_ok.2 (.inl ⟨ha, b, hb, rfl⟩)⟩
    · rcases updateFirst?_cons_eq_ok.1 hg with ⟨ha', c, hc, rfl⟩ | ⟨ha', rest₂, hrest₂, rfl⟩
      · refine ⟨c.toList ++ rest, updateFirst?_cons_eq_ok.2 (.inl ⟨ha', c, hc, rfl⟩), ?_⟩
        cases c with
        | none => exact hrest₁
        | some c =>
          have hstill : has c = false := (h.right ha' hc).trans ha
          exact updateFirst?_cons_eq_ok.2 (.inr ⟨hstill, rest₁, hrest₁, rfl⟩)
      · obtain ⟨rest₁', hrest₁', hrest₂'⟩ := ih hrest₁ hrest₂
        exact ⟨a :: rest₁', updateFirst?_cons_eq_ok.2 (.inr ⟨ha', rest₁', hrest₁', rfl⟩),
          updateFirst?_cons_eq_ok.2 (.inr ⟨ha, rest₂, hrest₂', rfl⟩)⟩

/-- A node of an id keeps it, as long as it stays. -/
def KeepsId (idOf : α → String) (id : String) (f : α → Except PatchError (Option α)) : Prop :=
  ∀ a b, idOf a = id → f a = .ok (some b) → idOf b = id

theorem apart_of_keepsId {f g : α → Except PatchError (Option α)} (hne : id ≠ id')
    (hf : KeepsId idOf id f) (hg : KeepsId idOf id' g) :
    Apart (fun a => idOf a = id) (fun a => idOf a = id') f g := by
  constructor
  · intro a b ha hb
    have hid : idOf a = id := by simpa using ha
    simp [hid, hf a b hid hb]
  · intro a b ha hb
    have hid : idOf a = id' := by simpa using ha
    simp [hid, hg a b hid hb]
  · intro a b ha ha' hb
    have hid : idOf a = id := by simpa using ha
    have hid' : idOf a = id' := by simpa using ha'
    exact absurd (hid.symm.trans hid') hne

theorem swaps_updateId {f g : α → Except PatchError (Option α)} (hne : id ≠ id')
    (hf : KeepsId idOf id f) (hg : KeepsId idOf id' g) :
    Swaps (updateId target idOf id f) (updateId target' idOf id' g) := by
  intro l l₁ l₂ h₁ h₂
  obtain ⟨l₁', h₁', h₂'⟩ := updateFirst?_of_apart (apart_of_keepsId hne hf hg)
    (getD_error_eq_ok.1 h₁) (getD_error_eq_ok.1 h₂)
  exact ⟨l₁', getD_error_eq_ok.2 h₁', getD_error_eq_ok.2 h₂'⟩

/-! ### Updates of a component -/

/-- What `updateComponent` makes of the region in which the component stands. -/
def inRegion (id : String) (f : Component → Except PatchError (Option Component)) (r : Region) :
    Except PatchError (Option Region) :=
  (updateId .component Component.id id f r.components).map fun cs => some ⟨r.id, cs⟩

/-- A region has the components of all other ids as before. -/
theorem any_of_inRegion {f : Component → Except PatchError (Option Component)} {r r' : Region}
    (hne : id ≠ id') (hf : KeepsId Component.id id f) (h : inRegion id f r = .ok (some r')) :
    (r'.components.any fun c => c.id = id') = r.components.any fun c => c.id = id' := by
  obtain ⟨cs, hcs, hr'⟩ := except_map_eq_ok.1 h
  cases hr'
  obtain ⟨before, c, after, b, hl, -, hc, hb, rfl⟩ := updateId_eq_ok.1 hcs
  cases b with
  | none => simp [hl, hc, hne]
  | some b => simp [hl, hc, hf c b hc hb, hne]

theorem apart_inRegion {f g : Component → Except PatchError (Option Component)} (hne : id ≠ id')
    (hf : KeepsId Component.id id f) (hg : KeepsId Component.id id' g) :
    Apart (fun r => r.components.any fun c => c.id = id)
      (fun r => r.components.any fun c => c.id = id') (inRegion id f) (inRegion id' g) := by
  constructor
  · intro r r' _ hr'
    exact any_of_inRegion hne hf hr'
  · intro r r' _ hr'
    exact any_of_inRegion hne.symm hg hr'
  · intro r b _ _ hb
    obtain ⟨cs, hcs, rfl⟩ := except_map_eq_ok.1 hb
    refine ⟨⟨r.id, cs⟩, rfl, ?_⟩
    intro c hc
    obtain ⟨ds, hds, rfl⟩ := except_map_eq_ok.1 hc
    have hswaps : Swaps (updateId .component Component.id id f)
      (updateId .component Component.id id' g) := swaps_updateId hne hf hg
    obtain ⟨cs', hcs', hds'⟩ := hswaps r.components cs ds hcs hds
    exact ⟨⟨r.id, cs'⟩, except_map_eq_ok.2 ⟨cs', hcs', rfl⟩, except_map_eq_ok.2 ⟨ds, hds', rfl⟩⟩

theorem swaps_updateComponent {f g : Component → Except PatchError (Option Component)}
    (hne : id ≠ id') (hf : KeepsId Component.id id f) (hg : KeepsId Component.id id' g) :
    Swaps (updateComponent id f) (updateComponent id' g) := by
  intro l l₁ l₂ h₁ h₂
  obtain ⟨l₁', h₁', h₂'⟩ := updateFirst?_of_apart (apart_inRegion hne hf hg)
    (getD_error_eq_ok.1 h₁) (getD_error_eq_ok.1 h₂)
  exact ⟨l₁', getD_error_eq_ok.2 h₁', getD_error_eq_ok.2 h₂'⟩

/-! ### Patches -/

namespace Patch

/-- What a patch makes of the regions of a page. -/
def onRegions (patch : Patch) (l : List Region) : Except PatchError (List Region) :=
  match patch.target with
  | .region => updateId .region Region.id patch.targetId
      (patch.changeRegion (componentsElsewhere patch.targetId l)) l
  | .component => updateComponent patch.targetId
      (patch.change Payload.component? Component.merge Component.complete) l
  | .dataSource | .action => .ok l

/-- What a patch makes of the nodes of one kind, data sources or actions. -/
def onNodes (patch : Patch) (kind : Target) (idOf : α → String) (payload? : Payload → Option β)
    (merge : α → β → α) (complete : String → β → Except PatchError α) (l : List α) :
    Except PatchError (List α) :=
  if patch.target = kind then
    updateId kind idOf patch.targetId (patch.change payload? merge complete) l
  else .ok l

def onDataSources (patch : Patch) : List DataSource → Except PatchError (List DataSource) :=
  patch.onNodes .dataSource DataSource.id Payload.dataSource? DataSource.merge DataSource.complete

def onActions (patch : Patch) : List Action → Except PatchError (List Action) :=
  patch.onNodes .action Action.id Payload.action? Action.merge Action.complete

theorem keepsId_change {payload? : Payload → Option β} {merge : α → β → α}
    {complete : String → β → Except PatchError α}
    (hmerge : ∀ a payload, idOf (merge a payload) = idOf a)
    (hcomplete : ∀ {id payload a}, complete id payload = .ok a → idOf a = id) :
    KeepsId idOf patch.targetId (patch.change payload? merge complete) := by
  intro a b ha hb
  have hleaves := leaves_of_change hmerge hcomplete ha hb
  generalize patch.operation = operation at hleaves
  cases hleaves with
  | node _ hid => exact hid

theorem keepsId_component : KeepsId Component.id patch.targetId
    (patch.change Payload.component? Component.merge Component.complete) :=
  keepsId_change (fun _ _ => rfl) Component.complete_id

/-- Two patches are aimed at different nodes, and one of the nodes is a data source or an action, or
both are components. -/
structure Independent (first second : Patch) : Prop where
  apart : (first.target, first.targetId) ≠ (second.target, second.targetId)
  kinds : (first.target = .dataSource ∨ first.target = .action) ∨
    (second.target = .dataSource ∨ second.target = .action) ∨
    (first.target = .component ∧ second.target = .component)

theorem Independent.symm (h : first.Independent second) : second.Independent first := by
  constructor
  · exact h.apart.symm
  · rcases h.kinds with hfirst | hsecond | ⟨hfirst, hsecond⟩
    · exact .inr (.inl hfirst)
    · exact .inl hsecond
    · exact .inr (.inr ⟨hsecond, hfirst⟩)

theorem Independent.ids_ne (h : first.Independent second) (htarget : first.target = second.target) :
    first.targetId ≠ second.targetId := by
  intro hid
  exact h.apart (Prod.ext htarget hid)

theorem onRegions_eq_ok (h : patch.target = .dataSource ∨ patch.target = .action) :
    patch.onRegions = .ok := by
  funext l
  unfold onRegions
  rcases h with htarget | htarget <;> rw [htarget]

theorem onRegions_of_component (h : patch.target = .component) : patch.onRegions =
    updateComponent patch.targetId
      (patch.change Payload.component? Component.merge Component.complete) := by
  funext l
  unfold onRegions
  rw [h]

theorem Independent.onRegions (h : first.Independent second) :
    Swaps first.onRegions second.onRegions := by
  rcases h.kinds with hfirst | hsecond | ⟨hfirst, hsecond⟩
  · rw [onRegions_eq_ok hfirst]
    exact swaps_ok_left
  · rw [onRegions_eq_ok hsecond]
    exact swaps_ok_right
  · rw [onRegions_of_component hfirst, onRegions_of_component hsecond]
    exact swaps_updateComponent (h.ids_ne (hfirst.trans hsecond.symm))
      keepsId_component keepsId_component

section

variable {kind : Target} {payload? : Payload → Option β} {merge : α → β → α}
  {complete : String → β → Except PatchError α}

theorem onNodes_of_eq (h : patch.target = kind) :
    patch.onNodes kind idOf payload? merge complete =
      updateId kind idOf patch.targetId (patch.change payload? merge complete) := by
  funext l
  exact if_pos h

theorem onNodes_of_ne (h : patch.target ≠ kind) :
    patch.onNodes kind idOf payload? merge complete = .ok := by
  funext l
  exact if_neg h

theorem Independent.onNodes (h : first.Independent second)
    (hmerge : ∀ a payload, idOf (merge a payload) = idOf a)
    (hcomplete : ∀ {id payload a}, complete id payload = .ok a → idOf a = id) :
    Swaps (first.onNodes kind idOf payload? merge complete)
      (second.onNodes kind idOf payload? merge complete) := by
  by_cases hfirst : first.target = kind
  · by_cases hsecond : second.target = kind
    · rw [onNodes_of_eq hfirst, onNodes_of_eq hsecond]
      exact swaps_updateId (h.ids_ne (hfirst.trans hsecond.symm))
        (keepsId_change hmerge hcomplete) (keepsId_change hmerge hcomplete)
    · rw [onNodes_of_ne hsecond]
      exact swaps_ok_right
  · rw [onNodes_of_ne hfirst]
    exact swaps_ok_left

end

theorem Independent.onDataSources (h : first.Independent second) :
    Swaps first.onDataSources second.onDataSources :=
  h.onNodes (fun _ _ => rfl) DataSource.complete_id

theorem Independent.onActions (h : first.Independent second) :
    Swaps first.onActions second.onActions :=
  h.onNodes (fun _ _ => rfl) Action.complete_id

end Patch

namespace Page

/-- A patch works on the regions, the data sources and the actions of a page apart from each
other. -/
theorem applyPatch_eq_parts : p.applyPatch patch = do
    checkPayload patch
    return { p with
      regions := ← patch.onRegions p.regions
      dataSources := ← patch.onDataSources p.dataSources
      actions := ← patch.onActions p.actions } := by
  rw [applyPatch_eq]
  unfold Patch.onRegions Patch.onDataSources Patch.onActions Patch.onNodes
  cases patch.target <;> rfl

theorem applyPatch_eq_ok_iff : p.applyPatch patch = .ok next ↔ checkPayload patch = .ok () ∧
    ∃ regions, patch.onRegions p.regions = .ok regions ∧
    ∃ dataSources, patch.onDataSources p.dataSources = .ok dataSources ∧
    ∃ actions, patch.onActions p.actions = .ok actions ∧
      { p with regions, dataSources, actions } = next := by
  rw [applyPatch_eq_parts]
  simp only [except_bind_eq_ok, pure, Except.pure, Except.ok.injEq]
  constructor
  · rintro ⟨_, hcheck, hparts⟩
    exact ⟨hcheck, hparts⟩
  · rintro ⟨hcheck, hparts⟩
    exact ⟨(), hcheck, hparts⟩

theorem swaps_applyPatch (h : first.Independent second) :
    Swaps (fun p => applyPatch p first) (fun p => applyPatch p second) := by
  intro p next last hfirst hsecond
  obtain ⟨hcheck, _, hr, _, hs, _, ha, rfl⟩ := applyPatch_eq_ok_iff.1 hfirst
  obtain ⟨hcheck', _, hr', _, hs', _, ha', rfl⟩ := applyPatch_eq_ok_iff.1 hsecond
  obtain ⟨_, hr₁, hr₂⟩ := h.onRegions _ _ _ hr hr'
  obtain ⟨_, hs₁, hs₂⟩ := h.onDataSources _ _ _ hs hs'
  obtain ⟨_, ha₁, ha₂⟩ := h.onActions _ _ _ ha ha'
  exact ⟨_, applyPatch_eq_ok_iff.2 ⟨hcheck', _, hr₁, _, hs₁, _, ha₁, rfl⟩,
    applyPatch_eq_ok_iff.2 ⟨hcheck, _, hr₂, _, hs₂, _, ha₂, rfl⟩⟩

/-- Patches that are independent of each other can be applied in any order. -/
theorem foldlM_applyPatch_perm {patches patches' : List Patch} (hperm : patches.Perm patches')
    (h : patches.Pairwise Patch.Independent) :
    patches.foldlM applyPatch p = .ok next ↔ patches'.foldlM applyPatch p = .ok next := by
  induction hperm generalizing p with
  | nil => rfl
  | cons patch _ ih =>
    simp only [List.foldlM_cons, except_bind_eq_ok, ih h.tail]
  | swap first second rest =>
    have hindependent := (List.pairwise_cons.1 h).1 first List.mem_cons_self
    simp only [List.foldlM_cons, except_bind_eq_ok]
    constructor
    · rintro ⟨one, hone, two, htwo, hrest⟩
      obtain ⟨one', hone', htwo'⟩ := swaps_applyPatch hindependent _ _ _ hone htwo
      exact ⟨one', hone', two, htwo', hrest⟩
    · rintro ⟨one, hone, two, htwo, hrest⟩
      obtain ⟨one', hone', htwo'⟩ := swaps_applyPatch hindependent.symm _ _ _ hone htwo
      exact ⟨one', hone', two, htwo', hrest⟩
  | trans hfirst _ ih₁ ih₂ =>
    exact (ih₁ h).trans (ih₂ ((hfirst.pairwise_iff Patch.Independent.symm).1 h))

/-- Two independent patches come to the same page in either order, or fail in both. -/
theorem independent_patches_commute (h : first.Independent second) :
    (∃ next, [first, second].foldlM applyPatch p = .ok next ∧
      [second, first].foldlM applyPatch p = .ok next) ∨
    ((∃ e, [first, second].foldlM applyPatch p = .error e) ∧
      ∃ e, [second, first].foldlM applyPatch p = .error e) := by
  have hpair : [first, second].Pairwise Patch.Independent := List.pairwise_pair.2 h
  have hswap (next : Page) : [first, second].foldlM applyPatch p = .ok next ↔
      [second, first].foldlM applyPatch p = .ok next :=
    foldlM_applyPatch_perm (List.Perm.swap second first []) hpair
  cases hone : [first, second].foldlM applyPatch p with
  | ok next => exact .inl ⟨next, rfl, (hswap next).1 hone⟩
  | error e =>
    cases htwo : [second, first].foldlM applyPatch p with
    | ok next =>
      rw [(hswap next).2 htwo] at hone
      cases hone
    | error e' => exact .inr ⟨⟨e, rfl⟩, e', rfl⟩

end Page

def heroRemoval : Patch := ⟨.component, "hero", .remove, none⟩

def cardUpdate : Patch where
  target := .component
  targetId := "card"
  operation := .merge
  payload := some (.component ⟨none, none, none, some "4", [⟨"tone", .static (.str "loud")⟩], none⟩)

/-- The card moves to the front when the component before it goes. -/
theorem hero_card_commute : heroRemoval.Independent cardUpdate ∧
    ∃ next, [heroRemoval, cardUpdate].foldlM Page.applyPatch galleryWithCard = .ok next ∧
      [cardUpdate, heroRemoval].foldlM Page.applyPatch galleryWithCard = .ok next := by
  have hindependent : heroRemoval.Independent cardUpdate := ⟨by decide, by decide⟩
  refine ⟨hindependent, ?_⟩
  rcases @Page.independent_patches_commute galleryWithCard _ _ hindependent with
    hsame | ⟨⟨e, he⟩, -⟩
  · exact hsame
  · have hok : ([heroRemoval, cardUpdate].foldlM Page.applyPatch galleryWithCard).isOk := by decide
    rw [he] at hok
    cases hok

end PageLayers
