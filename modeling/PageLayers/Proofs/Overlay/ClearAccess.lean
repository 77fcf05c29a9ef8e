import PageLayers.Proofs.Lists
import PageLayers.Proofs.Rules.Verdict

/-! Patches bring no access rules of their own: each rule of a patched page stood on the page or in
the payload. -/

namespace PageLayers

variable {α : Type} {p next : Page} {patch : Patch} {l l' : List α}

/-- The rule of a node, where it has one, is clear. -/
def ClearAccess (access : Option AccessRule) : Prop := ∀ rule, access = some rule → rule.Clear

theorem ClearAccess.or {a b : Option AccessRule} (ha : ClearAccess a) (hb : ClearAccess b) :
    ClearAccess (a.or b) := by
  cases a with
  | none => exact hb
  | some rule => exact ha

namespace Payload

def AccessClear : Payload → Prop
  | .region components => ∀ c ∈ components, ClearAccess c.access
  | .component patch => ClearAccess patch.access
  | .dataSource patch => ClearAccess patch.access
  | .action patch => ClearAccess patch.access

end Payload

namespace Patch

def AccessClear (patch : Patch) : Prop :=
  ∀ payload, patch.payload = some payload → payload.AccessClear

theorem newDataSource_access {s s' : DataSource} (h : patch.NewDataSource s s')
    (hpatch : patch.AccessClear) (hs : ClearAccess s.access) : ClearAccess s'.access := by
  obtain ⟨payload, hpayload, rfl | hcomplete⟩ := h
  · exact (hpatch _ hpayload).or hs
  · obtain ⟨_, _, rfl⟩ := DataSource.complete_eq_ok.1 hcomplete
    exact hpatch _ hpayload

theorem newAction_access {a a' : Action} (h : patch.NewAction a a')
    (hpatch : patch.AccessClear) (ha : ClearAccess a.access) : ClearAccess a'.access := by
  obtain ⟨payload, hpayload, rfl | hcomplete⟩ := h
  · exact (hpatch _ hpayload).or ha
  · obtain ⟨_, _, rfl⟩ := Action.complete_eq_ok.1 hcomplete
    exact hpatch _ hpayload

end Patch

/-- What holds of all nodes and passes to the node that takes a place, holds of all nodes after. -/
theorem NodesAfter.forall_mem {idOf : α → String} {id : String} {New : α → α → Prop}
    {P : α → Prop} (h : NodesAfter idOf id New l l') (hnew : ∀ a b, New a b → P a → P b)
    (hl : ∀ a ∈ l, P a) : ∀ a ∈ l', P a := by
  cases h with
  | same => exact hl
  | removed hl' hbefore ha =>
    subst hl'
    grind
  | changed hl' hbefore ha hb =>
    subst hl'
    grind

/-- The components that a payload gives, in part or in full. -/
def Payload.components : Payload → List ComponentPatch
  | .region components => components
  | .component patch => [patch]
  | .dataSource _ => []
  | .action _ => []

/-- Whatever is given in this way to a component that has a property, or makes up a new component,
leaves one with the property. -/
structure ComponentPatch.Keeps (P : Component → Prop) (given : ComponentPatch) : Prop where
  merge : ∀ c, P c → P (c.merge given)
  complete : ∀ id c, Component.complete id given = .ok c → P c

def Patch.KeepsComponents (P : Component → Prop) (patch : Patch) : Prop :=
  ∀ payload, patch.payload = some payload → ∀ given ∈ payload.components, given.Keeps P

theorem Patch.KeepsComponents.newComponent {P : Component → Prop} {c c' : Component}
    (hpatch : patch.KeepsComponents P) (h : patch.NewComponent c c') (hc : P c) : P c' := by
  obtain ⟨payload, hpayload, hnew⟩ := h
  have hgiven := hpatch _ hpayload payload (List.mem_singleton_self payload)
  rcases hnew with rfl | hcomplete
  · exact hgiven.merge c hc
  · exact hgiven.complete _ _ hcomplete

theorem PlacedAfter.forall_mem {P : Component → Prop} {elsewhere cs cs' : List Component}
    {given : ComponentPatch} (h : PlacedAfter elsewhere given cs cs') (hgiven : given.Keeps P)
    (hcs : ∀ c ∈ cs, P c) : ∀ c ∈ cs', P c := by
  cases h with
  | merged hid hl hbefore =>
    rename_i before c after
    subst hl
    have hmerge : P (c.merge given) := hgiven.merge c (hcs c (by simp))
    grind
  | added hid hc hfresh helse =>
    rename_i c
    have hnew : P c := hgiven.complete _ _ hc
    grind

theorem RegionsAfter.forall_mem {P : Component → Prop} {l l' : List Region}
    (h : RegionsAfter patch l l') (hpatch : patch.KeepsComponents P)
    (hl : ∀ r ∈ l, ∀ c ∈ r.components, P c) : ∀ r ∈ l', ∀ c ∈ r.components, P c := by
  cases h with
  | same => exact hl
  | removed hl' hbefore hr =>
    subst hl'
    grind
  | filled hl' hbefore hr hpayload hcs =>
    rename_i before r after payload cs
    subst hl'
    have hstart : ∀ c ∈ if patch.operation = .replace then [] else r.components, P c := by
      split
      · simp
      · exact hl r (by simp)
    have hcs' : ∀ c ∈ cs, P c :=
      foldlM_keeps (P := fun cs => ∀ c ∈ cs, P c)
        (fun _ a _ ha hb hstep => (placedAfter_of_placeComponent hstep).forall_mem
          (hpatch _ hpayload a ha) hb) hstart hcs
    grind
  | within hl' hbefore hcs =>
    rename_i before r after cs
    subst hl'
    have hcs' := hcs.forall_mem (P := P) (fun _ _ hnew => hpatch.newComponent hnew) (hl r (by simp))
    grind

/-- A payload with clear rules makes components with clear rules. -/
theorem Patch.AccessClear.keepsComponents (hpatch : patch.AccessClear) :
    patch.KeepsComponents fun c => ClearAccess c.access := by
  intro payload hpayload given hgiven
  have haccess : ClearAccess given.access := by
    have hclear := hpatch payload hpayload
    cases payload with
    | region components => exact hclear given hgiven
    | component own =>
      obtain rfl := List.mem_singleton.1 hgiven
      exact hclear
    | dataSource _ => cases hgiven
    | action _ => cases hgiven
  constructor
  · exact fun c hc => haccess.or hc
  · intro id c hcomplete
    obtain ⟨_, _, _, _, rfl⟩ := Component.complete_eq_ok.1 hcomplete
    exact haccess

namespace Page

/-- The rules of all nodes of a page are clear. -/
structure NodesClear (p : Page) : Prop where
  components : ∀ r ∈ p.regions, ∀ c ∈ r.components, ClearAccess c.access
  dataSources : ∀ s ∈ p.dataSources, ClearAccess s.access
  actions : ∀ a ∈ p.actions, ClearAccess a.access

theorem accessClear_iff :
    p.AccessClear ↔ p.NodesClear ∧ ∀ patch ∈ p.patches, patch.AccessClear := by
  have howned {owner : String} {access : Option AccessRule} :
      (∀ r ∈ Rules.owned owner access, r.2.Clear) ↔ ClearAccess access := by
    cases access <;> simp [Rules.owned, ClearAccess]
  have hpayload {id : String} {payload : Payload} :
      (∀ r ∈ Rules.payloadRules id payload, r.2.Clear) ↔ payload.AccessClear := by
    cases payload with
    | region components =>
      simp only [Rules.payloadRules, List.forall_mem_flatMap, howned, Payload.AccessClear]
    | component patch => exact howned
    | dataSource patch => exact howned
    | action patch => exact howned
  have hnodes : p.NodesClear ↔ (∀ c ∈ p.components, ClearAccess c.access) ∧
      (∀ s ∈ p.dataSources, ClearAccess s.access) ∧ ∀ a ∈ p.actions, ClearAccess a.access := by
    simp only [components, List.forall_mem_flatMap]
    exact ⟨fun h => ⟨h.components, h.dataSources, h.actions⟩, fun h => ⟨h.1, h.2.1, h.2.2⟩⟩
  simp only [AccessClear, Rules.accessRules, List.forall_mem_append, List.forall_mem_flatMap,
    howned, hpayload, hnodes, and_assoc, Option.mem_toList, Patch.AccessClear]

theorem nodesClear_of_applyPatch (h : p.applyPatch patch = .ok next)
    (hpatch : patch.AccessClear) (hp : p.NodesClear) : next.NodesClear := by
  obtain ⟨regions, dataSources, actions, hr, hs, ha, rfl⟩ := applyPatch_eq_ok h
  exact ⟨hr.forall_mem hpatch.keepsComponents hp.components,
    hs.forall_mem (fun _ _ hnew => Patch.newDataSource_access hnew hpatch) hp.dataSources,
    ha.forall_mem (fun _ _ hnew => Patch.newAction_access hnew hpatch) hp.actions⟩

end Page

end PageLayers
