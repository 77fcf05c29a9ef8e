import PageLayers.Render.Evaluate
import PageLayers.Proofs.Overlay.Accepted

/-! Layers bring no values of properties but those that they give: each property of a merged page
has the value that it had on the blueprint, or that a patch gave to it or to another of its name. -/

namespace PageLayers

variable {P : PropertyValue → Prop} {p next o : Page} {patch : Patch} {patches : List Patch}
  {layers : List Page} {l base overrides : List Property} {q : Property}

/-- The properties that a payload gives. -/
def Payload.properties : Payload → List Property
  | .region components => components.flatMap ComponentPatch.props
  | .component patch => patch.props
  | .dataSource _ => []
  | .action patch => patch.config

def Patch.properties (patch : Patch) : List Property :=
  patch.payload.toList.flatMap Payload.properties

theorem forall_setProperty (hl : ∀ q ∈ l, P q.value) (hq : P q.value) :
    ∀ x ∈ setProperty q l, P x.value := by
  induction l with
  | nil => simpa [setProperty] using hq
  | cons y rest ih =>
    rw [List.forall_mem_cons] at hl
    unfold setProperty
    split
    · exact List.forall_mem_cons.2 ⟨hq, hl.2⟩
    · exact List.forall_mem_cons.2 ⟨hl.1, ih hl.2⟩

theorem forall_mergeProps (hbase : ∀ q ∈ base, P q.value) (hover : ∀ q ∈ overrides, P q.value) :
    ∀ q ∈ mergeProps base overrides, P q.value := by
  unfold mergeProps
  induction overrides generalizing base with
  | nil => exact hbase
  | cons q rest ih =>
    rw [List.forall_mem_cons] at hover
    exact ih (forall_setProperty hbase hover.1) hover.2

namespace Patch

theorem keepsComponents_of_properties (hpatch : ∀ q ∈ patch.properties, P q.value) :
    patch.KeepsComponents fun c => ∀ q ∈ c.props, P q.value := by
  intro payload hpayload given hgiven
  have hprops : ∀ q ∈ given.props, P q.value := by
    intro q hq
    refine hpatch q ?_
    simp only [properties, hpayload, Option.toList_some, List.flatMap_singleton]
    cases payload with
    | region components => exact List.mem_flatMap.2 ⟨given, hgiven, hq⟩
    | component own =>
      obtain rfl := List.mem_singleton.1 hgiven
      exact hq
    | dataSource _ => cases hgiven
    | action _ => cases hgiven
  constructor
  · exact fun c hc => forall_mergeProps hc hprops
  · intro id c hcomplete
    obtain ⟨_, _, _, _, rfl⟩ := Component.complete_eq_ok.1 hcomplete
    exact hprops

theorem newAction_properties {a a' : Action} (h : patch.NewAction a a')
    (hpatch : ∀ q ∈ patch.properties, P q.value) (ha : ∀ q ∈ a.config, P q.value) :
    ∀ q ∈ a'.config, P q.value := by
  obtain ⟨payload, hpayload, hnew⟩ := h
  have hconfig : ∀ q ∈ payload.config, P q.value := by
    simpa [properties, hpayload, Payload.properties] using hpatch
  rcases hnew with rfl | hcomplete
  · exact forall_mergeProps ha hconfig
  · obtain ⟨_, _, rfl⟩ := Action.complete_eq_ok.1 hcomplete
    exact hconfig

end Patch

namespace Page

theorem forall_properties : (∀ q ∈ p.properties, P q.value) ↔
    (∀ r ∈ p.regions, ∀ c ∈ r.components, ∀ q ∈ c.props, P q.value) ∧
      ∀ a ∈ p.actions, ∀ q ∈ a.config, P q.value := by
  simp only [properties, components, List.forall_mem_append, List.forall_mem_flatMap]

theorem properties_of_applyPatch (h : p.applyPatch patch = .ok next)
    (hpatch : ∀ q ∈ patch.properties, P q.value) (hp : ∀ q ∈ p.properties, P q.value) :
    ∀ q ∈ next.properties, P q.value := by
  obtain ⟨regions, dataSources, actions, hr, -, ha, rfl⟩ := applyPatch_eq_ok h
  rw [forall_properties] at hp ⊢
  exact ⟨hr.forall_mem (Patch.keepsComponents_of_properties hpatch) hp.1,
    ha.forall_mem (fun _ _ hnew => Patch.newAction_properties hnew hpatch) hp.2⟩

theorem properties_of_applyWhatApplies
    (hpatches : ∀ patch ∈ patches, ∀ q ∈ patch.properties, P q.value)
    (hp : ∀ q ∈ p.properties, P q.value) :
    ∀ q ∈ (p.applyWhatApplies patches).properties, P q.value := by
  induction patches generalizing p with
  | nil => exact hp
  | cons patch rest ih =>
    rw [List.forall_mem_cons] at hpatches
    cases h : p.applyPatch patch with
    | error e =>
      rw [applyWhatApplies_cons_error h]
      exact ih hpatches.2 hp
    | ok next =>
      rw [applyWhatApplies_cons_ok h]
      exact ih hpatches.2 (properties_of_applyPatch h hpatches.1 hp)

/-- What holds of the values on a page and in the patches of some layers holds of the values on the
page with the layers on it. -/
theorem properties_of_underLayers
    (hlayers : ∀ o ∈ layers, ∀ patch ∈ o.patches, ∀ q ∈ patch.properties, P q.value)
    (hp : ∀ q ∈ p.properties, P q.value) :
    ∀ q ∈ (layers.foldl underLayer p).properties, P q.value := by
  induction layers generalizing p with
  | nil => exact hp
  | cons o rest ih =>
    rw [List.forall_mem_cons] at hlayers
    have hlayer : ∀ q ∈ (p.underLayer o).properties, P q.value :=
      properties_of_applyWhatApplies hlayers.1 hp
    exact ih hlayers.2 hlayer

end Page

end PageLayers
