import PageLayers.Proofs.Authoring.Bindings
import PageLayers.Proofs.Ordered.Map
import PageLayers.Proofs.Page.Values

/-! The values on a page are those of the document it was authored as; only where a service is given
no arguments does an empty object stand for them. -/

namespace PageLayers

namespace Node

mutual

/-- The attributes of a node and of all nodes below it. -/
def values : Node → List Json
  | mk _ attrs children => attrs.values ++ valuesAll children

def valuesAll : List Node → List Json
  | [] => []
  | n :: rest => values n ++ valuesAll rest

end

/-- All attributes are values of JSON. -/
def WellFormed (n : Node) : Prop := ∀ j ∈ n.values, j.WellFormed

instance : DecidablePred WellFormed := fun n =>
  inferInstanceAs (Decidable (∀ j ∈ n.values, j.WellFormed))

theorem mem_values_of_get? {n : Node} {names : List String} {j : Json} (h : n.get? names = some j) :
    j ∈ n.values := by
  obtain ⟨name, -, hj⟩ := List.exists_of_findSome?_eq_some h
  cases n with
  | mk tag attrs children =>
    have hentry : (name, j) ∈ attrs.entries := OrderedMap.get?_eq_some.1 hj
    exact List.mem_append_left _ (List.mem_map.2 ⟨_, hentry, rfl⟩)

theorem mem_valuesAll {l : List Node} {j : Json} :
    j ∈ valuesAll l ↔ ∃ n ∈ l, j ∈ n.values := by
  induction l with
  | nil => simp [valuesAll]
  | cons n rest ih => simp [valuesAll, ih]

theorem mem_values_of_child {n c : Node} {j : Json} (hc : c ∈ n.children) (hj : j ∈ c.values) :
    j ∈ n.values := by
  cases n with
  | mk tag attrs children => exact List.mem_append_right _ (mem_valuesAll.2 ⟨c, hc, hj⟩)

end Node

theorem Json.eq_ofNat {j : Json} {n : Nat} (h : j.asNat? = some n) : j = ofNat n := by
  unfold asNat? at h
  split at h
  · rw [Option.some.inj h]
    rfl
  · cases h

namespace Authoring

variable {n c : Node} {owner : String} {js : List Json}

mutual

/-- What stands below a group stands in the document. -/
theorem mem_values_flattenNode {j : Json} : (n : Node) → c ∈ flattenNode n → j ∈ c.values →
    j ∈ n.values
  | .mk tag attrs children, hc, hj => by
    unfold flattenNode at hc
    split at hc
    · exact List.mem_append_right _ (mem_values_flatten children hc hj)
    · rwa [List.mem_singleton.1 hc] at hj

theorem mem_values_flatten {j : Json} : (l : List Node) → c ∈ flatten l → j ∈ c.values →
    j ∈ Node.valuesAll l
  | [], hc, _ => by cases hc
  | n :: rest, hc, hj => by
    rcases List.mem_append.1 hc with hc | hc
    · exact List.mem_append_left _ (mem_values_flattenNode n hc hj)
    · exact List.mem_append_right _ (mem_values_flatten rest hc hj)

end

/-- The node holds each of the values, or the value is an empty object. -/
def Supplies (n : Node) (js : List Json) : Prop := ∀ j ∈ js, j ∈ n.values ∨ j = .obj []

theorem supplies_nil : Supplies n [] := by
  intro j hj
  cases hj

theorem supplies_get? {names : List String} : Supplies n (n.get? names).toList := by
  intro j hj
  exact .inl (Node.mem_values_of_get? (Option.mem_toList.1 hj))

theorem supplies_of_get? {names : List String} {j : Json} (h : n.get? names = some j) :
    Supplies n [j] := by
  have hsupplied := @supplies_get? n names
  rwa [h] at hsupplied

theorem supplies_append {more : List Json} :
    Supplies n (js ++ more) ↔ Supplies n js ∧ Supplies n more :=
  List.forall_mem_append

theorem supplies_flatMap {α : Type} {l : List α} {f : α → List Json} :
    Supplies n (l.flatMap f) ↔ ∀ a ∈ l, Supplies n (f a) := by
  simp only [Supplies, List.mem_flatMap]
  constructor
  · intro h a ha j hj
    exact h j ⟨a, ha, hj⟩
  · rintro h j ⟨a, ha, hj⟩
    exact h a ha j hj

theorem Supplies.of_child (h : Supplies c js) (hc : c ∈ n.children) : Supplies n js :=
  fun j hj => (h j hj).imp_left (Node.mem_values_of_child hc)

theorem Supplies.of_flatten (h : Supplies c js) (hc : c ∈ flatten n.children) :
    Supplies n js := by
  intro j hj
  refine (h j hj).imp_left fun hj => ?_
  obtain ⟨d, hd, hj⟩ := Node.mem_valuesAll.1 (mem_values_flatten _ hc hj)
  exact Node.mem_values_of_child hd hj

/-! ### Properties -/

theorem value_requireValue {name : String} {others : List String} :
    (requireValue n name others owner).value = n.get? (name :: others) := by
  unfold requireValue
  split
  · rename_i hj
    exact hj.symm
  · rename_i hnone
    exact hnone.symm

theorem supplies_property {q : Property} (h : (property owner n).value = some q) :
    Supplies n q.values := by
  unfold property at h
  simp only [Read.value_bind] at h
  split at h
  · cases h
  · simp only [Read.value_bind] at h
    split at h
    · cases h
    · obtain ⟨value, hvalue, rfl⟩ := Option.map_eq_some_iff.1 h
      rename_i kind _
      cases kind with
      | static =>
        obtain ⟨j, hj, rfl⟩ := Option.map_eq_some_iff.1 hvalue
        rw [value_requireValue] at hj
        exact supplies_of_get? hj
      | binding =>
        obtain ⟨b, -, rfl⟩ := Option.map_eq_some_iff.1 hvalue
        exact supplies_nil
      | expression =>
        obtain ⟨b, -, rfl⟩ := Option.map_eq_some_iff.1 hvalue
        exact supplies_nil
      | action =>
        obtain ⟨b, -, rfl⟩ := Option.map_eq_some_iff.1 hvalue
        exact supplies_nil

theorem supplies_properties {tags : List String} {holder : String} :
    Supplies n ((properties tags holder owner n).value.flatMap Property.values) := by
  rw [supplies_flatMap]
  intro q hq
  obtain ⟨child, hchild, hread⟩ := Read.mem_collect.1 hq
  refine Supplies.of_flatten ?_ hchild
  unfold properties.read at hread
  dsimp only at hread
  split at hread
  · exact supplies_property hread
  · split at hread <;> cases hread

theorem supplies_component {regionId : String} {index : Nat} {x : Component}
    (h : (component regionId n index).value = some x) : Supplies n x.values := by
  obtain ⟨_, -, hspace⟩ := Option.bind_eq_some_iff.1 h
  obtain ⟨_, -, rfl⟩ := Option.map_eq_some_iff.1 hspace
  exact supplies_properties

theorem supplies_region {r : Region} (h : (region n).value = some r) : Supplies n r.values := by
  unfold region at h
  simp only [Read.value_bind] at h
  split at h
  · cases h
  · obtain rfl := Option.some.inj h
    rw [Region.values, supplies_flatMap]
    intro x hx
    obtain ⟨⟨child, index⟩, hchild, hread⟩ := Read.mem_collect.1 hx
    refine Supplies.of_flatten ?_ (List.fst_mem_of_mem_zipIdx hchild)
    dsimp only at hread
    split at hread
    · exact supplies_component hread
    · cases hread

theorem supplies_action {a : Action} (h : (action n).value = some a) : Supplies n a.values := by
  unfold action at h
  simp only [Read.value_bind] at h
  split at h
  · cases h
  · obtain ⟨_, -, rfl⟩ := Option.map_eq_some_iff.1 h
    exact supplies_properties

/-! ### Data sources -/

theorem supplies_timeout : Supplies n (timeoutValues (timeout n owner).value) := by
  unfold timeout
  split
  · exact supplies_nil
  · rename_i j hj
    split
    · rename_i ms hms
      rw [Json.eq_ofNat hms] at hj
      exact supplies_of_get? hj
    · exact supplies_nil

theorem supplies_httpOrigin {o : Origin} (h : (httpOrigin n owner).value = some o) :
    Supplies n o.values := by
  unfold httpOrigin at h
  simp only [Read.value_bind] at h
  split at h
  · cases h
  · obtain rfl := Option.some.inj h
    have hnode {js} (h : Supplies ((n.children.find? fun c => c.tag = "request").getD n) js) :
        Supplies n js := by
      cases hrequest : n.children.find? fun c => c.tag = "request" with
      | none => rwa [hrequest] at h
      | some request =>
        rw [hrequest] at h
        exact h.of_child (List.mem_of_find?_eq_some hrequest)
    exact hnode (supplies_append.2 ⟨supplies_get?, supplies_timeout⟩)

theorem supplies_serviceOrigin {o : Origin} (h : (serviceOrigin n owner).value = some o) :
    Supplies n o.values := by
  unfold serviceOrigin at h
  simp only [Read.value_bind] at h
  split at h
  · cases h
  · obtain rfl := Option.some.inj h
    have hargs : Supplies n [(n.get? ["args", "params"]).getD (.obj [])] := by
      cases hj : n.get? ["args", "params"] with
      | none => exact fun j hj => .inr (List.mem_singleton.1 hj)
      | some j => exact supplies_of_get? hj
    exact supplies_append.2 ⟨hargs, supplies_timeout⟩

theorem supplies_origin {o : Origin} (h : (origin n owner).value = some o) :
    Supplies n o.values := by
  unfold origin at h
  simp only [Read.value_bind] at h
  split at h
  · cases h
  · split at h
    · cases h
    · obtain ⟨data, hdata, rfl⟩ := Option.map_eq_some_iff.1 h
      rw [value_requireValue] at hdata
      exact supplies_of_get? hdata
    · exact supplies_httpOrigin h
    · exact supplies_serviceOrigin h

theorem supplies_dataSource {s : DataSource} (h : (dataSource n).value = some s) :
    Supplies n s.origin.values := by
  unfold dataSource at h
  simp only [Read.value_bind] at h
  split at h
  · cases h
  · obtain ⟨o, ho, rfl⟩ := Option.map_eq_some_iff.1 h
    exact supplies_origin ho

/-! ### Patches -/

theorem supplies_regionPayload : Supplies n (regionPayload n owner).value.values := by
  rw [regionPayload, Read.value_bind, Read.value_pure, Payload.values, supplies_flatMap]
  intro x hx
  obtain ⟨child, hchild, hread⟩ := Read.mem_collect.1 hx
  refine Supplies.of_flatten ?_ hchild
  unfold regionPayload.read at hread
  split at hread
  · cases hread
  · simp only [Read.value_bind] at hread
    split at hread
    · cases hread
    · obtain rfl := Option.some.inj hread
      exact supplies_properties

theorem supplies_dataSourcePayload {b : Payload}
    (h : (dataSourcePayload n owner).value = some b) : Supplies n b.values := by
  unfold dataSourcePayload at h
  simp only at h
  split at h
  · simp only [Read.value_bind] at h
    split at h
    · cases h
    · rename_i o ho
      obtain rfl := Option.some.inj h
      simpa [Payload.values] using supplies_origin ho
  · obtain rfl := Option.some.inj h
    exact supplies_nil

theorem supplies_payload {target : Target} {b : Payload}
    (h : (payload n target owner).value = some b) : Supplies n b.values := by
  unfold payload at h
  split at h
  · cases h
  · cases target with
    | region =>
      obtain rfl := Option.some.inj h
      exact supplies_regionPayload
    | component =>
      obtain rfl := Option.some.inj h
      exact supplies_properties
    | dataSource => exact supplies_dataSourcePayload h
    | action =>
      obtain rfl := Option.some.inj h
      exact supplies_properties

theorem supplies_patchBody {target : Target} {operation : Operation} {p : Patch}
    (h : (patchBody n target owner operation).value = some p) : Supplies n p.values := by
  unfold patchBody at h
  split at h
  · obtain rfl := Option.some.inj h
    exact supplies_nil
  · cases h
  · rename_i single _ hchildren
    obtain ⟨b, hb, rfl⟩ := Option.map_eq_some_iff.1 h
    have hsingle : single ∈ flatten n.children := by
      rw [hchildren]
      exact List.mem_singleton_self _
    refine Supplies.of_flatten ?_ hsingle
    simpa [Patch.values] using supplies_payload hb
  · cases h

theorem supplies_patch {p : Patch} (h : (patch n).value = some p) : Supplies n p.values := by
  unfold patch at h
  simp only [Read.value_bind] at h
  split at h
  · cases h
  · simp only [Read.value_bind] at h
    split at h
    · cases h
    · simp only [Read.value_bind] at h
      split at h
      · cases h
      · split at h
        · cases h
        · cases h
        · exact supplies_patchBody h

/-! ### Pages -/

theorem supplies_constant {name : String} {value : Json}
    (h : (constant n).value = some (.constant name value)) : Supplies n [value] := by
  unfold constant at h
  simp only [Read.value_bind] at h
  split at h
  · cases h
  · obtain ⟨j, hj, hpiece⟩ := Option.map_eq_some_iff.1 h
    obtain ⟨-, rfl⟩ := Piece.constant.inj hpiece
    rw [value_requireValue] at hj
    exact supplies_of_get? hj

def Piece.values : Piece → List Json
  | region r => r.values
  | dataSource s => s.origin.values
  | action a => a.values
  | constant _ value => [value]
  | patch p => p.values

theorem supplies_piece {x : Piece} (h : x.ReadFrom n) : Supplies n x.values := by
  cases x with
  | region => exact supplies_region h
  | dataSource => exact supplies_dataSource h
  | action => exact supplies_action h
  | constant => exact supplies_constant h
  | patch => exact supplies_patch h

theorem pageOf_constants {kind : PageKind} {root : Node} :
    (pageOf kind root).value.constants = OrderedMap.ofList
      ((Read.collect (piece kind root.tag) (flatten root.children)).value.filterMap
        Piece.constant?) := by
  unfold pageOf
  simp only [Read.value_bind]
  split
  · split <;> rfl
  · split <;> rfl

/-- The parts of one kind hold no other values than the pieces do. -/
theorem supplies_parts {α : Type} {part? : Piece → Option α} {f : α → List Json}
    {pieces : List Piece} (hpieces : ∀ x ∈ pieces, Supplies n x.values)
    (hpart : ∀ x a, part? x = some a → x.values = f a) :
    ∀ a ∈ pieces.filterMap part?, Supplies n (f a) := by
  intro a ha
  obtain ⟨x, hx, ha⟩ := List.mem_filterMap.1 ha
  rw [← hpart x a ha]
  exact hpieces x hx

theorem supplies_pageOf {kind : PageKind} {root : Node} :
    Supplies root (pageOf kind root).value.values := by
  obtain ⟨pieces, hpieces, -, hregions, hsources, hactions, hpatches⟩ := @pageOf_pieces kind root
  have hconstants := @pageOf_constants kind root
  rw [← hpieces] at hconstants
  have hpiece : ∀ x ∈ pieces, Supplies root x.values := by
    intro x hx
    rw [hpieces] at hx
    obtain ⟨n, hn, hread⟩ := Read.mem_collect.1 hx
    exact (supplies_piece (readFrom_of_piece hread)).of_flatten hn
  rw [Page.values, hregions, hsources, hactions, hconstants, hpatches]
  simp only [supplies_append, supplies_flatMap, mem_sortBy]
  refine ⟨?_, ?_, ?_, ?_, ?_⟩
  · refine supplies_parts hpiece fun x a ha => ?_
    cases x <;> cases ha
    rfl
  · intro j hj
    obtain ⟨⟨name, j⟩, hentry, rfl⟩ := List.mem_map.1 hj
    have hmem := OrderedMap.mem_of_get?_ofList (OrderedMap.get?_eq_some.2 hentry)
    have hparts : ∀ e ∈ pieces.filterMap Piece.constant?, Supplies root [e.2] := by
      refine supplies_parts hpiece fun x e he => ?_
      cases x <;> cases he
      rfl
    exact hparts _ hmem j (List.mem_singleton_self j)
  · refine supplies_parts hpiece fun x a ha => ?_
    cases x <;> cases ha
    rfl
  · refine supplies_parts hpiece fun x a ha => ?_
    cases x <;> cases ha
    rfl
  · refine supplies_parts hpiece fun x a ha => ?_
    cases x <;> cases ha
    rfl

end Authoring

namespace Page

variable {root : Node} {p : Page}

/-- Each value on an authored page stands in its document or is an empty object. -/
theorem values_of_ofDocument (h : ofDocument root = .ok p) : Authoring.Supplies root p.values := by
  obtain ⟨kind, -, -, rfl⟩ := ofDocument_eq_ok_iff.1 h
  exact Authoring.supplies_pageOf

/-- No value comes to be that is none of JSON. -/
theorem wellFormed_of_ofDocument (hroot : root.WellFormed) (h : ofDocument root = .ok p) :
    p.WellFormed := by
  intro j hj
  rcases values_of_ofDocument h j hj with hj | rfl
  · exact hroot j hj
  · decide

end Page

end PageLayers
