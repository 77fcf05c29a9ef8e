import PageLayers.Authoring.Page
import PageLayers.Proofs.Authoring.Read
import PageLayers.Proofs.Ordered.Sort
import PageLayers.Proofs.Overlay.Properties

/-! The bindings of an authored page and of its patches: a declared field is always named with the
source before it. -/

namespace PageLayers

/-- A property that reads a declared field names the field after the first dot. -/
def Property.NamesField (q : Property) : Prop :=
  ∀ name, q.value = .binding (.contract name) → ∃ field, Text.after? '.' name = some field

namespace Authoring

variable {n : Node} {owner name : String} {q : Property}

theorem namesField_of_binding (h : (binding n owner).value = some (.contract name)) :
    ∃ field, Text.after? '.' name = some field := by
  unfold binding at h
  split at h
  · rename_i written _
    split at h
    · cases h
    · rename_i hparts
      obtain rfl : written = name := by simpa using h
      cases hafter : Text.after? '.' written with
      | none => simp [hafter] at hparts
      | some field => exact ⟨field, rfl⟩
  · simp [Option.bind_eq_some_iff] at h

theorem namesField_of_propertyValue {kind : PropertyKind}
    (h : (propertyValue n owner kind).value = some (.binding (.contract name))) :
    ∃ field, Text.after? '.' name = some field := by
  cases kind with
  | static => simp [propertyValue] at h
  | binding =>
    obtain ⟨b, hb, hname⟩ := Option.map_eq_some_iff.1 h
    obtain rfl := PropertyValue.binding.inj hname
    exact namesField_of_binding hb
  | expression => simp [propertyValue] at h
  | action => simp [propertyValue] at h

theorem namesField_of_property (h : (property owner n).value = some q) : q.NamesField := by
  unfold property at h
  simp only [Read.value_bind] at h
  split at h
  · cases h
  · simp only [Read.value_bind] at h
    split at h
    · cases h
    · obtain ⟨value, hvalue, rfl⟩ := Option.map_eq_some_iff.1 h
      rintro name rfl
      exact namesField_of_propertyValue hvalue

theorem namesField_of_properties {tags : List String} {holder : String}
    (h : q ∈ (properties tags holder owner n).value) : q.NamesField := by
  obtain ⟨child, -, hread⟩ := Read.mem_collect.1 h
  unfold properties.read at hread
  dsimp only at hread
  split at hread
  · exact namesField_of_property hread
  · split at hread <;> cases hread

theorem namesField_of_component {regionId : String} {index : Nat} {c : Component}
    (h : (component regionId n index).value = some c) (hq : q ∈ c.props) : q.NamesField := by
  obtain ⟨_, -, hspace⟩ := Option.bind_eq_some_iff.1 h
  obtain ⟨_, -, rfl⟩ := Option.map_eq_some_iff.1 hspace
  exact namesField_of_properties hq

theorem namesField_of_region {r : Region} {c : Component} (h : (region n).value = some r)
    (hc : c ∈ r.components) (hq : q ∈ c.props) : q.NamesField := by
  unfold region at h
  simp only [Read.value_bind] at h
  split at h
  · cases h
  · obtain rfl := Option.some.inj h
    obtain ⟨⟨child, index⟩, -, hread⟩ := Read.mem_collect.1 hc
    dsimp only at hread
    split at hread
    · exact namesField_of_component hread hq
    · cases hread

theorem namesField_of_action {a : Action} (h : (action n).value = some a) (hq : q ∈ a.config) :
    q.NamesField := by
  unfold action at h
  simp only [Read.value_bind] at h
  split at h
  · cases h
  · obtain ⟨_, -, rfl⟩ := Option.map_eq_some_iff.1 h
    exact namesField_of_properties hq

theorem namesField_of_regionPayload {payload : Payload}
    (h : (regionPayload n owner).value = payload) (hq : q ∈ payload.properties) : q.NamesField := by
  subst h
  obtain ⟨given, hgiven, hq⟩ := List.mem_flatMap.1 hq
  obtain ⟨child, -, hread⟩ := Read.mem_collect.1 hgiven
  unfold regionPayload.read at hread
  split at hread
  · cases hread
  · simp only [Read.value_bind] at hread
    split at hread
    · cases hread
    · obtain rfl := Option.some.inj hread
      exact namesField_of_properties hq

theorem properties_of_dataSourcePayload {payload : Payload}
    (h : (dataSourcePayload n owner).value = some payload) : payload.properties = [] := by
  unfold dataSourcePayload at h
  simp only at h
  split at h
  · simp only [Read.value_bind] at h
    split at h
    · cases h
    · obtain rfl := Option.some.inj h
      rfl
  · obtain rfl := Option.some.inj h
    rfl

theorem namesField_of_payload {target : Target} {payload : Payload}
    (h : (Authoring.payload n target owner).value = some payload) (hq : q ∈ payload.properties) :
    q.NamesField := by
  unfold Authoring.payload at h
  split at h
  · cases h
  · cases target with
    | region =>
      obtain hread := Option.some.inj h
      exact namesField_of_regionPayload hread hq
    | component =>
      obtain rfl := Option.some.inj h
      exact namesField_of_properties hq
    | dataSource =>
      rw [properties_of_dataSourcePayload h] at hq
      cases hq
    | action =>
      obtain rfl := Option.some.inj h
      exact namesField_of_properties hq

theorem namesField_of_patchBody {target : Target} {operation : Operation} {p : Patch}
    (h : (patchBody n target owner operation).value = some p) (hq : q ∈ p.properties) :
    q.NamesField := by
  unfold patchBody at h
  split at h
  · obtain rfl := Option.some.inj h
    cases hq
  · cases h
  · obtain ⟨body, hbody, rfl⟩ := Option.map_eq_some_iff.1 h
    simp only [Patch.properties, Option.toList_some, List.flatMap_singleton] at hq
    exact namesField_of_payload hbody hq
  · cases h

theorem namesField_of_patch {p : Patch} (h : (patch n).value = some p) (hq : q ∈ p.properties) :
    q.NamesField := by
  unfold patch at h
  simp only [Read.value_bind] at h
  split at h
  · cases h
  · simp only [Read.value_bind] at h
    split at h
    · cases h
    · simp only [Read.value_bind] at h
      split at h
      · cases h
      · split at h
        · cases h
        · cases h
        · exact namesField_of_patchBody h hq

/-- A piece of a page is what its node reads as. -/
def Piece.ReadFrom (n : Node) : Piece → Prop
  | region r => (Authoring.region n).value = some r
  | dataSource s => (Authoring.dataSource n).value = some s
  | action a => (Authoring.action n).value = some a
  | constant name value => (Authoring.constant n).value = some (.constant name value)
  | patch p => (Authoring.patch n).value = some p

theorem readFrom_of_constant {x : Piece} (h : (constant n).value = some x) : x.ReadFrom n := by
  have hread := h
  unfold constant at h
  simp only [Read.value_bind] at h
  split at h
  · cases h
  · obtain ⟨value, -, rfl⟩ := Option.map_eq_some_iff.1 h
    exact hread

theorem readFrom_of_piece {kind : PageKind} {root : String} {x : Piece}
    (h : (piece kind root n).value = some x) : x.ReadFrom n := by
  unfold piece at h
  dsimp only at h
  split at h
  · exact readFrom_of_constant h
  · cases kind with
    | blueprint =>
      dsimp only at h
      split at h
      · obtain ⟨r, hr, rfl⟩ := Option.map_eq_some_iff.1 h
        exact hr
      · split at h
        · obtain ⟨s, hs, rfl⟩ := Option.map_eq_some_iff.1 h
          exact hs
        · split at h
          · obtain ⟨a, ha, rfl⟩ := Option.map_eq_some_iff.1 h
            exact ha
          · cases h
    | overlay =>
      dsimp only at h
      split at h
      · obtain ⟨p, hp, rfl⟩ := Option.map_eq_some_iff.1 h
        exact hp
      · split at h <;> cases h

/-- Whichever of the required attributes are missing, the pieces are read. -/
theorem pageOf_pieces {kind : PageKind} {root : Node} : ∃ pieces : List Piece,
    pieces = (Read.collect (piece kind root.tag) (flatten root.children)).value ∧
      (pageOf kind root).value.kind = kind ∧
      (pageOf kind root).value.regions = pieces.filterMap Piece.region? ∧
      (pageOf kind root).value.dataSources =
        sortBy DataSource.id (pieces.filterMap Piece.dataSource?) ∧
      (pageOf kind root).value.actions = sortBy Action.id (pieces.filterMap Piece.action?) ∧
      (pageOf kind root).value.patches = pieces.filterMap Piece.patch? := by
  unfold pageOf
  simp only [Read.value_bind]
  split
  · split <;> exact ⟨_, rfl, rfl, rfl, rfl, rfl, rfl⟩
  · split <;> exact ⟨_, rfl, rfl, rfl, rfl, rfl, rfl⟩

end Authoring

open Authoring

namespace Page

variable {root : Node} {p : Page} {q : Property}

/-- The pieces of the page that a document is read as. -/
theorem ofDocument_eq_ok (h : ofDocument root = .ok p) : ∃ pieces : List Piece,
    pieces = (Read.collect (piece p.kind root.tag) (flatten root.children)).value ∧
      p.regions = pieces.filterMap Piece.region? ∧
      p.dataSources = sortBy DataSource.id (pieces.filterMap Piece.dataSource?) ∧
      p.actions = sortBy Action.id (pieces.filterMap Piece.action?) ∧
      p.patches = pieces.filterMap Piece.patch? := by
  obtain ⟨kind, -, -, rfl⟩ := ofDocument_eq_ok_iff.1 h
  obtain ⟨pieces, hpieces, hkind, hfields⟩ := @pageOf_pieces kind root
  rw [hkind]
  exact ⟨pieces, hpieces, hfields⟩

theorem ordered_dataSources (h : ofDocument root = .ok p) :
    p.dataSources.Pairwise fun s d => (compare s.id d.id).isLE := by
  obtain ⟨pieces, -, -, hsources, -⟩ := ofDocument_eq_ok h
  rw [hsources]
  exact pairwise_sortBy

/-- What stands on a page of one kind of piece was read from some node. -/
theorem exists_readFrom {α : Type} {part? : Piece → Option α} {pieces : List Piece} {a : α}
    (hpieces : pieces = (Read.collect (piece p.kind root.tag) (flatten root.children)).value)
    (ha : a ∈ pieces.filterMap part?) : ∃ n x, x.ReadFrom n ∧ part? x = some a := by
  obtain ⟨x, hx, ha⟩ := List.mem_filterMap.1 ha
  rw [hpieces] at hx
  obtain ⟨n, -, hn⟩ := Read.mem_collect.1 hx
  exact ⟨n, x, readFrom_of_piece hn, ha⟩

theorem namesField (h : ofDocument root = .ok p) (hq : q ∈ p.properties) : q.NamesField := by
  obtain ⟨pieces, hpieces, hregions, -, hactions, -⟩ := ofDocument_eq_ok h
  rcases List.mem_append.1 hq with hq | hq
  · obtain ⟨c, hc, hq⟩ := List.mem_flatMap.1 hq
    obtain ⟨r, hr, hc⟩ := List.mem_flatMap.1 hc
    rw [hregions] at hr
    obtain ⟨n, x, hn, hr⟩ := exists_readFrom hpieces hr
    cases x <;> cases hr
    exact namesField_of_region hn hc hq
  · obtain ⟨a, ha, hq⟩ := List.mem_flatMap.1 hq
    rw [hactions] at ha
    obtain ⟨n, x, hn, ha⟩ := exists_readFrom hpieces (mem_sortBy.1 ha)
    cases x <;> cases ha
    exact namesField_of_action hn hq

theorem namesField_patches {patch : Patch} (h : ofDocument root = .ok p)
    (hpatch : patch ∈ p.patches) (hq : q ∈ patch.properties) : q.NamesField := by
  obtain ⟨pieces, hpieces, -, -, -, hpatches⟩ := ofDocument_eq_ok h
  rw [hpatches] at hpatch
  obtain ⟨n, x, hn, hpatch⟩ := exists_readFrom hpieces hpatch
  cases x <;> cases hpatch
  exact namesField_of_patch hn hq

end Page

end PageLayers
