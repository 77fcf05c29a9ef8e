import Mathlib.Data.List.Forall2
import Mathlib.Tactic.SplitIfs
import PageLayers.Proofs.Authoring.Alike
import PageLayers.Proofs.Authoring.Values

/-! Nothing of an accepted document is lost: each node that carries a meaning has one counterpart on
the page, in the order of the document, and what has none is of a tag that gives none. -/

namespace PageLayers

namespace Read

variable {α β : Type} {R : α → β → Prop} {f : α → Read (Option β)} {keep : α → Bool} {l : List α}

/-- Where nothing is reported, the items that are kept have one counterpart each. -/
theorem forall₂_collect (hkept : ∀ a ∈ l, keep a = true → ∃ b, (f a).value = some b ∧ R a b)
    (hpassed : ∀ a ∈ l, keep a = false → (f a).value = none) :
    List.Forall₂ R (l.filter keep) (collect f l).value := by
  induction l with
  | nil => exact .nil
  | cons a rest ih =>
    have hrest := ih (fun b hb => hkept b (List.mem_cons_of_mem a hb))
      fun b hb => hpassed b (List.mem_cons_of_mem a hb)
    simp only [collect, value_bind, value_pure, List.filter_cons]
    split
    · rename_i hkeep
      obtain ⟨b, hb, hR⟩ := hkept a List.mem_cons_self hkeep
      rw [hb]
      exact .cons hR hrest
    · rename_i hkeep
      rw [hpassed a List.mem_cons_self (by simpa using hkeep)]
      exact hrest

theorem forall₂_collect_all (h : ∀ a ∈ l, ∃ b, (f a).value = some b ∧ R a b) :
    List.Forall₂ R l (collect f l).value := by
  have hall : List.Forall₂ R (l.filter fun _ => true) (collect f l).value :=
    forall₂_collect (fun a ha _ => h a ha) nofun
  rwa [List.filter_true] at hall

end Read

namespace Authoring

/-- The nodes of some tags below a node, in document order. -/
def nodesOf (tags : List String) (n : Node) : List Node :=
  (flatten n.children).filter fun c => tags.contains (currentTag c.tag)

/-- What stands below a node and is not of the tags is of the others. -/
def OnlyHolds (tags others : List String) (n : Node) : Prop :=
  ∀ c ∈ flatten n.children, currentTag c.tag ∈ tags ∨ c.tag ∈ others

/-- The value that the attributes of a node give. -/
inductive GivesValue (n : Node) : PropertyValue → Prop where
  | static {j} (h : n.get? ["value"] = some j) : GivesValue n (.static j)
  | contract {name} (h : n.getText? ["contract", "bind"] = some name) :
      GivesValue n (.binding (.contract name))
  | path {source path} (hsource : n.getText? ["source"] = some source)
      (hpath : n.getText? ["path"] = some path)
      (hcontract : n.getText? ["contract", "bind"] = none) :
      GivesValue n (.binding (.path source path))
  | expression {source} (h : n.getText? ["expr", "expression"] = some source) :
      GivesValue n (.expression source)
  | action {id} (h : n.getText? ["action"] = some id) : GivesValue n (.action id)

/-- The property of a node, of the kind that the node names if it names one. -/
structure PropertyOf (n : Node) (q : Property) : Prop where
  name : n.getText? ["name"] = some q.name
  value : GivesValue n q.value
  kind : ∀ kind, n.getText? ["kind"] = some kind → kind = q.value.kind.text

/-- The properties of the nodes of some tags below a node. -/
structure PropertiesOf (tags : List String) (n : Node) (props : List Property) : Prop where
  each : List.Forall₂ PropertyOf (nodesOf tags n) props
  only : OnlyHolds tags ["access"] n

structure ComponentOf (regionId : String) (n : Node) (index : Nat) (c : Component) : Prop where
  id : (n.getText? ["id"]).getD (regionId ++ "." ++ toString index) = c.id
  typeName : n.getText? ["type", "component"] = some c.typeName
  space : n.getText? ["namespace", "ns"] = some c.space
  version : n.getText? ["version"] = c.version
  props : PropertiesOf ["prop"] n c.props

structure RegionOf (n : Node) (r : Region) : Prop where
  id : n.getText? ["id"] = some r.id
  components : List.Forall₂ (fun m c => ComponentOf r.id m.1 m.2 c) (flatten n.children).zipIdx
    r.components
  only : OnlyHolds ["component"] [] n

/-- The source of a node, with data from where the kind that the node names says. -/
structure DataSourceOf (n : Node) (s : DataSource) : Prop where
  id : n.getText? ["id"] = some s.id
  kind : ∃ kind, n.getText? ["kind", "type"] = some kind ∧
    originKind? kind = originKind? s.origin.kindText
  only : OnlyHolds [] ["field", "alias", "access", "request"] n

structure ActionOf (n : Node) (a : Action) : Prop where
  id : n.getText? ["id"] = some a.id
  kind : n.getText? ["kind", "type"] = some a.kind
  config : PropertiesOf ["prop", "param"] n a.config

structure ComponentPatchOf (n : Node) (x : ComponentPatch) : Prop where
  id : n.getText? ["id"] = x.id
  typeName : n.getText? ["type", "component"] = x.typeName
  space : n.getText? ["namespace", "ns"] = x.space
  version : n.getText? ["version"] = x.version
  props : PropertiesOf ["prop"] n x.props

inductive PayloadOf (n : Node) : Payload → Prop where
  | region {components} (htag : currentTag n.tag = "region")
      (heach : List.Forall₂ (fun c x => ComponentPatchOf c x ∧ x.id ≠ none) (flatten n.children)
        components) (honly : OnlyHolds ["component"] [] n) : PayloadOf n (.region components)
  | component {patch} (htag : currentTag n.tag = "component") (h : ComponentPatchOf n patch) :
      PayloadOf n (.component patch)
  | dataSource {patch : DataSourcePatch} (htag : currentTag n.tag = "dataSource")
      (horigin : n.has ["kind", "type"] = patch.origin.isSome)
      (honly : OnlyHolds [] ["field", "alias", "access", "request"] n) :
      PayloadOf n (.dataSource patch)
  | action {patch : ActionPatch} (htag : currentTag n.tag = "action")
      (hkind : n.getText? ["kind", "type"] = patch.kind)
      (hconfig : PropertiesOf ["prop", "param"] n patch.config) : PayloadOf n (.action patch)

/-- The patch of a node: one that removes has nothing below it, any other one payload. -/
structure PatchOf (n : Node) (p : Patch) : Prop where
  id : n.getText? ["id", "targetId"] = some p.targetId
  target : ∃ target, n.getText? ["target"] = some target ∧ target? target = some p.target
  operation : ∃ operation, n.getText? ["op", "operation"] = some operation ∧
    operation? operation = some p.operation
  payload : (p.operation = .remove ∧ flatten n.children = [] ∧ p.payload = none) ∨
    (p.operation ≠ .remove ∧ ∃ m b, flatten n.children = [m] ∧ p.payload = some b ∧
      b.target = p.target ∧ PayloadOf m b)

structure ConstantOf (n : Node) (entry : String × Json) : Prop where
  name : n.getText? ["name"] = some entry.1
  value : n.get? ["value"] = some entry.2

/-- The tags of the nodes that a page may hold. -/
def heldTags : PageKind → List String
  | .blueprint => ["region", "dataSource", "action", "constant"]
  | .overlay => ["patch", "constant"]

/-- The page of a document. -/
structure PageOf (root : Node) (p : Page) : Prop where
  kind : PageKind.ofText? root.tag = some p.kind
  regions : List.Forall₂ RegionOf (nodesOf ["region"] root) p.regions
  dataSources : ∃ sources, List.Forall₂ DataSourceOf (nodesOf ["dataSource"] root) sources ∧
    StablySorted DataSource.id sources p.dataSources
  actions : ∃ actions, List.Forall₂ ActionOf (nodesOf ["action"] root) actions ∧
    StablySorted Action.id actions p.actions
  constants : ∃ entries, List.Forall₂ ConstantOf (nodesOf ["constant"] root) entries ∧
    p.constants = .ofList entries
  patches : List.Forall₂ PatchOf (nodesOf ["patch"] root) p.patches
  only : OnlyHolds (heldTags p.kind) [] root

variable {n : Node} {name owner : String} {others : List String}

/-! Each reader yields a counterpart or reports something. -/

theorem value_require {owner : Option String} :
    (require n name others owner).value = n.getText? (name :: others) := by
  unfold require
  cases n.getText? (name :: others) <;> rfl

theorem reports_require {owner : Option String} :
    (require n name others owner).reports = [] ↔ (n.getText? (name :: others)).isSome := by
  unfold require
  cases n.getText? (name :: others) <;> simp [Read.reject]

theorem exists_of_require {owner : Option String} (h : (require n name others owner).reports = []) :
    ∃ s, n.getText? (name :: others) = some s ∧ (require n name others owner).value = some s := by
  obtain ⟨s, hs⟩ := Option.isSome_iff_exists.1 (reports_require.1 h)
  exact ⟨s, hs, value_require.trans hs⟩

theorem value_keyPart {owner : Option String} :
    (keyPart n name others owner).value = n.getText? (name :: others) := by
  unfold keyPart
  split
  · rename_i hnone
    exact hnone.symm
  · rename_i s hs
    dsimp only
    split
    · exact hs.symm
    · split <;> exact hs.symm

theorem exists_of_requireId (h : (requireId n).reports = []) :
    ∃ id, n.getText? ["id"] = some id ∧ (requireId n).value = some id := by
  rw [requireId, Read.reports_bind_eq_nil] at h
  rw [requireId, Read.value_bind]
  rw [value_keyPart] at h ⊢
  cases htext : n.getText? ["id"] with
  | none =>
    rw [htext] at h
    obtain ⟨id, hid, -⟩ := exists_of_require h.2
    rw [htext] at hid
    cases hid
  | some id => exact ⟨id, rfl, rfl⟩

theorem exists_of_requireValue (h : (requireValue n name others owner).reports = []) :
    ∃ j, n.get? (name :: others) = some j ∧ (requireValue n name others owner).value = some j := by
  cases hj : n.get? (name :: others) with
  | none =>
    simp only [requireValue, hj, Read.reports_bind_eq_nil] at h
    obtain ⟨s, hs, -⟩ := exists_of_require h.1
    simp [Node.getText?, hj] at hs
  | some j => exact ⟨j, rfl, by rw [value_requireValue, hj]⟩

theorem exists_of_propertyKind (h : (propertyKind n owner).reports = []) :
    ∃ kind, (propertyKind n owner).value = some kind ∧
      ∀ text, n.getText? ["kind"] = some text → text = kind.text := by
  unfold propertyKind at h ⊢
  cases htext : n.getText? ["kind"] with
  | none =>
    simp only [htext] at h ⊢
    split_ifs at h ⊢
    all_goals first | exact ⟨_, rfl, nofun⟩ | cases h
  | some text =>
    simp only [htext] at h ⊢
    cases hkind : PropertyKind.ofText? text with
    | none =>
      rw [hkind] at h
      cases h
    | some kind =>
      refine ⟨kind, rfl, ?_⟩
      rintro _ ⟨⟩
      have hfound : kind.text = text := by simpa using List.find?_some hkind
      exact hfound.symm

theorem exists_of_binding (h : (binding n owner).reports = []) :
    ∃ b, (binding n owner).value = some b ∧ GivesValue n (.binding b) := by
  unfold binding at h ⊢
  cases hname : n.getText? ["contract", "bind"] with
  | some name =>
    simp only [hname] at h ⊢
    split_ifs at h ⊢
    · cases h
    · exact ⟨_, rfl, .contract hname⟩
  | none =>
    simp only [hname, Read.reports_bind_eq_nil] at h ⊢
    obtain ⟨source, hsource, hvalue⟩ := exists_of_require h.1
    obtain ⟨path, hpath, hvalue'⟩ := exists_of_require h.2.1
    refine ⟨.path source path, ?_, .path hsource hpath hname⟩
    simp [hvalue, hvalue']

theorem exists_of_propertyValue {kind : PropertyKind}
    (h : (propertyValue n owner kind).reports = []) :
    ∃ v, (propertyValue n owner kind).value = some v ∧ v.kind = kind ∧ GivesValue n v := by
  cases kind with
  | static =>
    rw [propertyValue, Read.reports_bind_eq_nil] at h
    obtain ⟨j, hj, hvalue⟩ := exists_of_requireValue h.1
    exact ⟨.static j, by simp [propertyValue, hvalue], rfl, .static hj⟩
  | binding =>
    rw [propertyValue, Read.reports_bind_eq_nil] at h
    obtain ⟨b, hvalue, hb⟩ := exists_of_binding h.1
    exact ⟨.binding b, by simp [propertyValue, hvalue], rfl, hb⟩
  | expression =>
    rw [propertyValue, Read.reports_bind_eq_nil] at h
    obtain ⟨source, hsource, hvalue⟩ := exists_of_require h.1
    exact ⟨.expression source, by simp [propertyValue, hvalue], rfl, .expression hsource⟩
  | action =>
    rw [propertyValue, Read.reports_bind_eq_nil] at h
    obtain ⟨id, hid, hvalue⟩ := exists_of_require h.1
    exact ⟨.action id, by simp [propertyValue, hvalue], rfl, .action hid⟩

theorem exists_of_property (h : (property owner n).reports = []) :
    ∃ q, (property owner n).value = some q ∧ PropertyOf n q := by
  rw [property, Read.reports_bind_eq_nil] at h
  rw [property, Read.value_bind]
  obtain ⟨name, hname, hvalue⟩ := exists_of_require h.1
  rw [hvalue] at h ⊢
  simp only [Read.reports_bind_eq_nil, Read.value_bind] at h ⊢
  obtain ⟨kind, hvalue, hkind⟩ := exists_of_propertyKind h.2.1
  rw [hvalue] at h ⊢
  simp only [Read.reports_bind_eq_nil, Read.value_bind] at h ⊢
  obtain ⟨v, hvalue, rfl, hv⟩ := exists_of_propertyValue h.2.2.1
  rw [hvalue]
  exact ⟨⟨name, v⟩, rfl, hname, hv, hkind⟩

theorem currentTag_eq_or_mem {tag : String} : currentTag tag = tag ∨
    currentTag tag ∈ ["region", "component", "dataSource", "dataSources"] := by
  unfold currentTag
  split_ifs <;> simp

/-- Tags without another spelling. -/
theorem currentTag_eq_iff {tag t : String}
    (ht : t ∈ ["access", "request", "field", "alias", "blueprint", "overlay"]) :
    currentTag tag = t ↔ tag = t := by
  have hall : ∀ t ∈ ["access", "request", "field", "alias", "blueprint", "overlay"],
      currentTag t = t ∧ t ∉ ["region", "component", "dataSource", "dataSources"] := by decide
  obtain ⟨hself, hother⟩ := hall t ht
  constructor
  · rintro rfl
    exact currentTag_eq_or_mem.resolve_right hother |>.symm
  · rintro rfl
    exact hself

theorem propertiesOf {tags : List String} {holder : String}
    (h : (properties tags holder owner n).reports = []) :
    PropertiesOf tags n (properties tags holder owner n).value := by
  have hother : ∀ c ∈ flatten n.children, tags.contains (currentTag c.tag) = false →
      currentTag c.tag = "access" := by
    intro c hc htag
    have hreports := Read.reports_of_mem h hc
    simp only [properties.read, htag] at hreports
    by_contra haccess
    simp [haccess, Read.reject] at hreports
  refine ⟨Read.forall₂_collect (fun c hc htag => ?_) fun c hc htag => ?_, fun c hc => ?_⟩
  · have hreports := Read.reports_of_mem h hc
    simp only [properties.read, htag, if_true] at hreports ⊢
    exact exists_of_property hreports
  · unfold properties.read
    dsimp only
    rw [if_neg (by simpa using htag), if_pos (hother c hc htag), Read.value_pure]
  · cases htag : tags.contains (currentTag c.tag) with
    | true => exact .inl (by simpa using htag)
    | false =>
      have haccess := (currentTag_eq_iff (by decide)).1 (hother c hc htag)
      exact .inr (List.mem_singleton.2 haccess)

theorem componentPatchOf (h : (componentFields n owner).reports = []) :
    ComponentPatchOf n (componentFields n owner).value := by
  rw [componentFields, Read.reports_bind_eq_nil] at h
  exact ⟨rfl, rfl, rfl, rfl, propertiesOf h.1⟩

theorem exists_of_component {index : Nat} (h : (component owner n index).reports = []) :
    ∃ c, (component owner n index).value = some c ∧ ComponentOf owner n index c := by
  simp only [component, Read.reports_bind_eq_nil, Read.value_bind, value_keyPart] at h ⊢
  obtain ⟨-, hfields, htype, hspace, -⟩ := h
  obtain ⟨t, ht, hvalue⟩ := exists_of_require htype
  obtain ⟨s, hs, hvalue'⟩ := exists_of_require hspace
  rw [hvalue, hvalue']
  exact ⟨_, rfl, rfl, ht, hs, rfl, (componentPatchOf hfields).props⟩

theorem exists_of_region (h : (region n).reports = []) :
    ∃ r, (region n).value = some r ∧ RegionOf n r := by
  rw [region, Read.reports_bind_eq_nil] at h
  rw [region, Read.value_bind]
  obtain ⟨id, hid, hvalue⟩ := exists_of_requireId h.1
  rw [hvalue] at h ⊢
  simp only [Read.reports_bind_eq_nil] at h
  obtain ⟨-, hcomponents, -⟩ := h
  have htag : ∀ m ∈ (flatten n.children).zipIdx, currentTag m.1.tag = "component" := by
    intro m hm
    have hreports := Read.reports_of_mem hcomponents hm
    by_contra hother
    simp [hother, Read.reject] at hreports
  refine ⟨_, rfl, hid, ?_, fun c hc => .inl ?_⟩
  · refine Read.forall₂_collect_all fun m hm => ?_
    have hreports := Read.reports_of_mem hcomponents hm
    simp only [htag m hm, if_true] at hreports ⊢
    exact exists_of_component hreports
  · rw [← List.zipIdx_map_fst 0 (flatten n.children)] at hc
    obtain ⟨m, hm, rfl⟩ := List.mem_map.1 hc
    exact List.mem_singleton.2 (htag m hm)

theorem exists_of_action (h : (action n).reports = []) :
    ∃ a, (action n).value = some a ∧ ActionOf n a := by
  rw [action, Read.reports_bind_eq_nil] at h
  rw [action, Read.value_bind]
  obtain ⟨id, hid, hvalue⟩ := exists_of_requireId h.1
  rw [hvalue] at h ⊢
  simp only [Read.reports_bind_eq_nil, Read.value_bind] at h ⊢
  obtain ⟨kind, hkind, hvalue⟩ := exists_of_require h.2.2.1
  rw [hvalue]
  refine ⟨_, rfl, hid, hkind, ?_⟩
  have hfields := h.2.1
  rw [actionFields, Read.reports_bind_eq_nil] at hfields
  exact propertiesOf hfields.1

theorem exists_of_httpOrigin (h : (httpOrigin n owner).reports = []) :
    ∃ o, (httpOrigin n owner).value = some o ∧ o.kindText = "http" := by
  rw [httpOrigin, Read.reports_bind_eq_nil] at h
  rw [httpOrigin, Read.value_bind]
  obtain ⟨url, -, hvalue⟩ := exists_of_require h.1
  rw [hvalue]
  exact ⟨_, rfl, rfl⟩

theorem exists_of_serviceOrigin (h : (serviceOrigin n owner).reports = []) :
    ∃ o, (serviceOrigin n owner).value = some o ∧ o.kindText = "service" := by
  rw [serviceOrigin, Read.reports_bind_eq_nil] at h
  rw [serviceOrigin, Read.value_bind]
  obtain ⟨handler, -, hvalue⟩ := exists_of_require h.1
  rw [hvalue]
  exact ⟨_, rfl, rfl⟩

theorem exists_of_origin (h : (origin n owner).reports = []) :
    ∃ o, (origin n owner).value = some o ∧ ∃ kind, n.getText? ["kind", "type"] = some kind ∧
      originKind? kind = originKind? o.kindText := by
  rw [origin, Read.reports_bind_eq_nil] at h
  rw [origin, Read.value_bind]
  obtain ⟨kind, hkind, hvalue⟩ := exists_of_require h.1
  rw [hvalue] at h ⊢
  cases horigin : originKind? kind with
  | none =>
    simp only [horigin] at h
    cases h.2
  | some k =>
    simp only [horigin] at h ⊢
    obtain ⟨-, h⟩ := h
    cases k with
    | static =>
      rw [Read.reports_bind_eq_nil] at h
      obtain ⟨j, -, hvalue⟩ := exists_of_requireValue h.1
      exact ⟨.static j, by simp [hvalue], kind, hkind, horigin⟩
    | http =>
      obtain ⟨o, hvalue, ho⟩ := exists_of_httpOrigin h
      exact ⟨o, hvalue, kind, hkind, by rw [horigin, ho]; rfl⟩
    | service =>
      obtain ⟨o, hvalue, ho⟩ := exists_of_serviceOrigin h
      exact ⟨o, hvalue, kind, hkind, by rw [horigin, ho]; rfl⟩

theorem only_of_contract (h : (contract n owner).reports = []) :
    OnlyHolds [] ["field", "alias", "access", "request"] n := by
  rw [contract, Read.reports_bind_eq_nil, Read.reports_bind_eq_nil] at h
  refine fun c hc => .inr ?_
  have hreports := Read.reports_of_mem h.2.1 hc
  unfold contractChild at hreports
  split at hreports
  · rename_i htag
    rcases htag with htag | htag <;> simp [htag]
  · split at hreports
    · rename_i htag
      rcases htag with htag | htag <;> simp [htag]
    · cases hreports

theorem exists_of_dataSource (h : (dataSource n).reports = []) :
    ∃ s, (dataSource n).value = some s ∧ DataSourceOf n s := by
  rw [dataSource, Read.reports_bind_eq_nil] at h
  rw [dataSource, Read.value_bind]
  obtain ⟨id, hid, hvalue⟩ := exists_of_requireId h.1
  rw [hvalue] at h ⊢
  simp only [Read.reports_bind_eq_nil, Read.value_bind] at h ⊢
  obtain ⟨-, horigin, hcontract, -⟩ := h
  obtain ⟨o, hvalue, hkind⟩ := exists_of_origin horigin
  rw [hvalue]
  exact ⟨_, rfl, hid, hkind, only_of_contract hcontract⟩

/-! ### Patches -/

theorem payloadOf_region (htag : currentTag n.tag = "region")
    (h : (regionPayload n owner).reports = []) : PayloadOf n (regionPayload n owner).value := by
  rw [regionPayload, Read.reports_bind_eq_nil] at h
  have hcomponent : ∀ c ∈ flatten n.children, currentTag c.tag = "component" := by
    intro c hc
    have hreports := Read.reports_of_mem h.1 hc
    unfold regionPayload.read at hreports
    by_contra hother
    rw [if_pos hother] at hreports
    cases hreports
  refine .region htag (Read.forall₂_collect_all fun c hc => ?_) fun c hc =>
    .inl (List.mem_singleton.2 (hcomponent c hc))
  have hreports := Read.reports_of_mem h.1 hc
  unfold regionPayload.read at hreports ⊢
  rw [if_neg (not_not.2 (hcomponent c hc))] at hreports ⊢
  rw [Read.reports_bind_eq_nil] at hreports
  rw [Read.value_bind]
  obtain ⟨id, hid, hvalue⟩ := exists_of_require hreports.1
  rw [hvalue] at hreports ⊢
  have hfields := componentPatchOf (Read.reports_map_eq_nil.1 hreports.2)
  refine ⟨_, rfl, hfields, ?_⟩
  rw [← hfields.id, hid]
  exact Option.some_ne_none id

theorem exists_of_dataSourcePayload (htag : currentTag n.tag = "dataSource")
    (h : (dataSourcePayload n owner).reports = []) :
    ∃ b, (dataSourcePayload n owner).value = some b ∧ b.target = .dataSource ∧ PayloadOf n b := by
  unfold dataSourcePayload at h ⊢
  dsimp only at h ⊢
  split_ifs at h ⊢ with hkind
  · simp only [Read.reports_bind_eq_nil, Read.value_bind] at h ⊢
    obtain ⟨o, hvalue, -⟩ := exists_of_origin h.1
    rw [hvalue] at h ⊢
    simp only [Read.reports_bind_eq_nil] at h
    exact ⟨_, rfl, rfl, .dataSource htag hkind (only_of_contract h.2.1)⟩
  · simp only [Read.reports_bind_eq_nil] at h
    exact ⟨_, rfl, rfl, .dataSource htag (by simpa using hkind) (only_of_contract h.1)⟩

theorem exists_of_payload {target : Target} (h : (payload n target owner).reports = []) :
    ∃ b, (payload n target owner).value = some b ∧ b.target = target ∧ PayloadOf n b := by
  unfold payload at h ⊢
  split_ifs at h ⊢ with htarget
  · cases h
  · have htag := currentTag_of_target? (not_not.1 htarget)
    cases target with
    | region => exact ⟨_, rfl, rfl, payloadOf_region htag (Read.reports_map_eq_nil.1 h)⟩
    | component =>
      simp only [Read.reports_bind_eq_nil] at h
      exact ⟨_, rfl, rfl, .component htag (componentPatchOf h.1)⟩
    | dataSource => exact exists_of_dataSourcePayload htag h
    | action =>
      simp only [Read.reports_bind_eq_nil] at h
      have hfields := h.1
      rw [actionFields, Read.reports_bind_eq_nil] at hfields
      exact ⟨_, rfl, rfl, .action htag rfl (propertiesOf hfields.1)⟩

theorem exists_of_patchBody {target : Target} {operation : Operation}
    (h : (patchBody n target owner operation).reports = []) :
    ∃ p, (patchBody n target owner operation).value = some p ∧ p.target = target ∧
      p.targetId = owner ∧ p.operation = operation ∧
      ((p.operation = .remove ∧ flatten n.children = [] ∧ p.payload = none) ∨
        (p.operation ≠ .remove ∧ ∃ m b, flatten n.children = [m] ∧ p.payload = some b ∧
          b.target = p.target ∧ PayloadOf m b)) := by
  unfold patchBody at h ⊢
  split at h
  · rename_i hnone
    exact ⟨_, rfl, rfl, rfl, rfl, .inl ⟨rfl, hnone, rfl⟩⟩
  · cases h
  · rename_i single hremove hsingle
    rw [Read.reports_bind_eq_nil] at h
    obtain ⟨b, hvalue, htarget, hb⟩ := exists_of_payload h.1
    refine ⟨⟨target, owner, _, some b⟩, ?_, rfl, rfl, rfl, .inr ?_⟩
    · rw [Read.value_bind, hvalue]
      rfl
    · exact ⟨hremove, single, b, hsingle, rfl, htarget, hb⟩
  · cases h

theorem exists_of_patch (h : (patch n).reports = []) :
    ∃ p, (patch n).value = some p ∧ PatchOf n p := by
  rw [patch, Read.reports_bind_eq_nil] at h
  rw [patch, Read.value_bind]
  obtain ⟨id, hid, hvalue⟩ := exists_of_require h.1
  rw [hvalue] at h ⊢
  simp only [Read.reports_bind_eq_nil, Read.value_bind] at h ⊢
  obtain ⟨target, htarget, hvalue⟩ := exists_of_require h.2.1
  rw [hvalue] at h ⊢
  simp only [Read.reports_bind_eq_nil, Read.value_bind] at h ⊢
  obtain ⟨operation, hoperation, hvalue⟩ := exists_of_require h.2.2.1
  rw [hvalue] at h ⊢
  obtain ⟨-, -, -, h⟩ := h
  cases ht : target? target with
  | none =>
    simp only [ht] at h
    cases h
  | some t =>
    cases ho : operation? operation with
    | none =>
      simp only [ht, ho] at h
      cases h
    | some o =>
      simp only [ht, ho] at h ⊢
      obtain ⟨p, hp, rfl, rfl, rfl, hbody⟩ := exists_of_patchBody h
      exact ⟨p, hp, hid, ⟨target, htarget, ht⟩, ⟨operation, hoperation, ho⟩, hbody⟩

/-! ### Pages -/

theorem exists_of_constant (h : (constant n).reports = []) :
    ∃ entry : String × Json, (constant n).value = some (.constant entry.1 entry.2) ∧
      ConstantOf n entry := by
  rw [constant, Read.reports_bind_eq_nil] at h
  rw [constant, Read.value_bind]
  obtain ⟨name, hname, hvalue⟩ := exists_of_require h.1
  rw [hvalue] at h ⊢
  simp only [Read.reports_bind_eq_nil, Read.value_bind] at h ⊢
  obtain ⟨j, hj, hvalue⟩ := exists_of_requireValue h.2.1
  exact ⟨(name, j), by rw [hvalue]; rfl, hname, hj⟩

/-- A piece of a page of some kind is the one of the node. -/
inductive PieceOf (n : Node) : PageKind → Piece → Prop where
  | constant {kind entry} (htag : currentTag n.tag = "constant") (h : ConstantOf n entry) :
      PieceOf n kind (.constant entry.1 entry.2)
  | region {r} (htag : currentTag n.tag = "region") (h : RegionOf n r) :
      PieceOf n .blueprint (.region r)
  | dataSource {s} (htag : currentTag n.tag = "dataSource") (h : DataSourceOf n s) :
      PieceOf n .blueprint (.dataSource s)
  | action {a} (htag : currentTag n.tag = "action") (h : ActionOf n a) :
      PieceOf n .blueprint (.action a)
  | patch {p} (htag : currentTag n.tag = "patch") (h : PatchOf n p) : PieceOf n .overlay (.patch p)

/-- The tag of the nodes that such a piece is read from. -/
def Piece.tag : Piece → String
  | .region _ => "region"
  | .dataSource _ => "dataSource"
  | .action _ => "action"
  | .constant _ _ => "constant"
  | .patch _ => "patch"

theorem PieceOf.tag_eq {kind : PageKind} {x : Piece} (h : PieceOf n kind x) :
    currentTag n.tag = x.tag := by
  cases h <;> assumption

theorem exists_of_piece {kind : PageKind} {root : String} (h : (piece kind root n).reports = []) :
    ∃ x, (piece kind root n).value = some x ∧ PieceOf n kind x := by
  unfold piece at h ⊢
  dsimp only at h ⊢
  by_cases hconstant : currentTag n.tag = "constant"
  · rw [if_pos hconstant] at h ⊢
    obtain ⟨entry, hvalue, hentry⟩ := exists_of_constant h
    exact ⟨_, hvalue, .constant hconstant hentry⟩
  rw [if_neg hconstant] at h ⊢
  cases kind with
  | blueprint =>
    dsimp only at h ⊢
    split_ifs at h ⊢ with hregion hsource haction
    · obtain ⟨r, hvalue, hr⟩ := exists_of_region (Read.reports_map_eq_nil.1 h)
      exact ⟨.region r, by rw [Read.value_map, hvalue]; rfl, .region hregion hr⟩
    · obtain ⟨s, hvalue, hs⟩ := exists_of_dataSource (Read.reports_map_eq_nil.1 h)
      exact ⟨.dataSource s, by rw [Read.value_map, hvalue]; rfl, .dataSource hsource hs⟩
    · obtain ⟨a, hvalue, ha⟩ := exists_of_action (Read.reports_map_eq_nil.1 h)
      exact ⟨.action a, by rw [Read.value_map, hvalue]; rfl, .action haction ha⟩
    · cases h
  | overlay =>
    dsimp only at h ⊢
    split_ifs at h ⊢ with hpatch
    · obtain ⟨p, hvalue, hp⟩ := exists_of_patch (Read.reports_map_eq_nil.1 h)
      exact ⟨.patch p, by rw [Read.value_map, hvalue]; rfl, .patch hpatch hp⟩
    · cases h
    · cases h

/-- The parts of one kind are those of the nodes of one tag. -/
theorem parts_of_pieces {α : Type} {kind : PageKind} {S : Node → α → Prop} {tag : String}
    {part? : Piece → Option α} {nodes : List Node} {pieces : List Piece}
    (h : List.Forall₂ (fun n x => PieceOf n kind x) nodes pieces)
    (hkept : ∀ n x, PieceOf n kind x → x.tag = tag → ∃ a, part? x = some a ∧ S n a)
    (hpassed : ∀ x : Piece, x.tag ≠ tag → part? x = none) :
    List.Forall₂ S (nodes.filter fun c => [tag].contains (currentTag c.tag))
      (pieces.filterMap part?) := by
  refine forall₂_filterMap h (fun n x hx htag => hkept n x hx ?_) fun n x hx htag => hpassed x ?_
  · rw [← hx.tag_eq]
    simpa using htag
  · rw [← hx.tag_eq]
    simpa using htag

namespace Piece

variable {x : Piece}

theorem region?_eq_none (h : x.tag ≠ "region") : x.region? = none := by
  cases x with
  | region => exact absurd rfl h
  | dataSource | action | constant | patch => rfl

theorem dataSource?_eq_none (h : x.tag ≠ "dataSource") : x.dataSource? = none := by
  cases x with
  | dataSource => exact absurd rfl h
  | region | action | constant | patch => rfl

theorem action?_eq_none (h : x.tag ≠ "action") : x.action? = none := by
  cases x with
  | action => exact absurd rfl h
  | region | dataSource | constant | patch => rfl

theorem constant?_eq_none (h : x.tag ≠ "constant") : x.constant? = none := by
  cases x with
  | constant => exact absurd rfl h
  | region | dataSource | action | patch => rfl

theorem patch?_eq_none (h : x.tag ≠ "patch") : x.patch? = none := by
  cases x with
  | patch => exact absurd rfl h
  | region | dataSource | action | constant => rfl

end Piece

theorem reports_pieces {kind : PageKind} {root : Node} (h : (pageOf kind root).reports = []) :
    (Read.collect (piece kind root.tag) (flatten root.children)).reports = [] := by
  unfold pageOf at h
  simp only [Read.reports_bind_eq_nil] at h
  split_ifs at h <;> simp only [Read.reports_bind_eq_nil] at h <;> simp only [h]

/-- The parts of a page before sources and actions are sorted. -/
structure PartsOf (root : Node) (pieces : List Piece) : Prop where
  regions : List.Forall₂ RegionOf (nodesOf ["region"] root) (pieces.filterMap Piece.region?)
  dataSources :
    List.Forall₂ DataSourceOf (nodesOf ["dataSource"] root) (pieces.filterMap Piece.dataSource?)
  actions : List.Forall₂ ActionOf (nodesOf ["action"] root) (pieces.filterMap Piece.action?)
  constants : List.Forall₂ ConstantOf (nodesOf ["constant"] root) (pieces.filterMap Piece.constant?)
  patches : List.Forall₂ PatchOf (nodesOf ["patch"] root) (pieces.filterMap Piece.patch?)

theorem partsOf_of_reports {kind : PageKind} {root : Node} (h : (pageOf kind root).reports = []) :
    PartsOf root (Read.collect (piece kind root.tag) (flatten root.children)).value := by
  have hall : List.Forall₂ (fun n x => PieceOf n kind x) (flatten root.children)
      (Read.collect (piece kind root.tag) (flatten root.children)).value :=
    Read.forall₂_collect_all fun c hc => exists_of_piece (Read.reports_of_mem (reports_pieces h) hc)
  constructor
  case regions =>
    refine parts_of_pieces hall (fun n x hx htag => ?_) fun _ => Piece.region?_eq_none
    cases hx with
    | region _ hpart => exact ⟨_, rfl, hpart⟩
    | dataSource | action | constant | patch => simp [Piece.tag] at htag
  case dataSources =>
    refine parts_of_pieces hall (fun n x hx htag => ?_) fun _ => Piece.dataSource?_eq_none
    cases hx with
    | dataSource _ hpart => exact ⟨_, rfl, hpart⟩
    | region | action | constant | patch => simp [Piece.tag] at htag
  case actions =>
    refine parts_of_pieces hall (fun n x hx htag => ?_) fun _ => Piece.action?_eq_none
    cases hx with
    | action _ hpart => exact ⟨_, rfl, hpart⟩
    | region | dataSource | constant | patch => simp [Piece.tag] at htag
  case constants =>
    refine parts_of_pieces hall (fun n x hx htag => ?_) fun _ => Piece.constant?_eq_none
    cases hx with
    | constant _ hpart => exact ⟨_, rfl, hpart⟩
    | region | dataSource | action | patch => simp [Piece.tag] at htag
  case patches =>
    refine parts_of_pieces hall (fun n x hx htag => ?_) fun _ => Piece.patch?_eq_none
    cases hx with
    | patch _ hpart => exact ⟨_, rfl, hpart⟩
    | region | dataSource | action | constant => simp [Piece.tag] at htag

theorem PieceOf.mem_heldTags {kind : PageKind} {x : Piece} (h : PieceOf n kind x) :
    currentTag n.tag ∈ heldTags kind := by
  cases h with
  | constant htag => cases kind <;> simp [heldTags, htag]
  | region htag | dataSource htag | action htag | patch htag => simp [heldTags, htag]

theorem pageOf_of_reports {kind : PageKind} {root : Node}
    (hkind : PageKind.ofText? root.tag = some kind) (h : (pageOf kind root).reports = []) :
    PageOf root (pageOf kind root).value := by
  have hparts := partsOf_of_reports h
  have hheld : OnlyHolds (heldTags kind) [] root := by
    intro c hc
    obtain ⟨x, -, hx⟩ := exists_of_piece (Read.reports_of_mem (reports_pieces h) hc)
    exact .inl hx.mem_heldTags
  obtain ⟨tag, attrs, children⟩ := root
  have hheader : (pageOf kind (.mk tag attrs [])).value.kind = kind := pageOf_header.1
  rw [value_pageOf]
  exact {
    kind := hkind.trans (congrArg some hheader.symm)
    regions := hparts.regions
    dataSources := ⟨_, hparts.dataSources, stablySorted_sortBy⟩
    actions := ⟨_, hparts.actions, stablySorted_sortBy⟩
    constants := ⟨_, hparts.constants, rfl⟩
    patches := hparts.patches
    only := by
      rw [withPieces, hheader]
      exact hheld }

end Authoring

namespace Page

open Authoring

/-- A document is accepted where nothing is reported, and then it has its counterpart. One that is
rejected has something reported about it. -/
theorem ofDocument_keeps_all (root : Node) :
    (∀ kind, PageKind.ofText? root.tag = some kind →
      ((∃ p, ofDocument root = .ok p) ↔ (pageOf kind root).reports = [])) ∧
    (PageKind.ofText? root.tag = none → ∃ report, ofDocument root = .error [report]) ∧
    (∀ reports, ofDocument root = .error reports → reports ≠ []) ∧
    ∀ p, ofDocument root = .ok p → PageOf root p := by
  refine ⟨fun kind hkind => ⟨?_, fun h => ⟨_, ofDocument_eq_ok_iff.2 ⟨kind, hkind, h, rfl⟩⟩⟩,
    fun hkind => ?_, fun reports h => ?_, fun p h => ?_⟩
  · rintro ⟨p, h⟩
    obtain ⟨kind', hkind', hreports, -⟩ := ofDocument_eq_ok_iff.1 h
    cases hkind.symm.trans hkind'
    exact hreports
  · unfold ofDocument
    rw [hkind]
    exact ⟨_, rfl⟩
  · unfold ofDocument at h
    split at h
    · cases h
      exact List.cons_ne_nil _ _
    · dsimp only at h
      split_ifs at h with hempty
      cases h
      simpa using hempty
  · obtain ⟨kind, hkind, hreports, rfl⟩ := ofDocument_eq_ok_iff.1 h
    exact pageOf_of_reports hkind hreports

end Page

/-- A blueprint with the nodes below its root. -/
def declaring (nodes : List Node) : Node :=
  .mk "blueprint"
    (.ofList [("id", .str "home"), ("module", .str "shop"), ("route", .str "/"),
      ("schemaVersion", .str "1.0.0"), ("contentVersion", .str "1.0.0")]) nodes

def barSource : Node :=
  .mk "dataSource" (.ofList [("id", .str "bar"), ("kind", .str "static"), ("data", .null)]) []

def welcomeNodes (last : Node) : List Node :=
  [.mk "slot" (.ofList [("id", .str "main")])
      [.mk "component"
        (.ofList [("id", .str "hero"), ("namespace", .str "ui"), ("type", .str "Banner")])
        [.mk "props" ∅ [.mk "prop" (.ofList [("name", .str "title"), ("value", .str "Hi")]) []]]],
    .mk "source" (.ofList [("id", .str "copy"), ("kind", .str "static"), ("data", .str "Hi")]) [],
    .mk "constant" (.ofList [("name", .str "rate"), ("value", .bool true)]) [],
    last]

def welcomePage : Page where
  kind := .blueprint
  schemaVersion := "1.0.0"
  contentVersion := "1.0.0"
  moduleName := "shop"
  route := "/"
  scope := .unset
  pageId := some "home"
  extendsId := none
  regions := [⟨"main", [⟨"hero", "Banner", "ui", none, [⟨"title", .static (.str "Hi")⟩], none⟩]⟩]
  dataSources := [⟨"bar", .static .null, ∅, none⟩, ⟨"copy", .static (.str "Hi"), ∅, none⟩]
  actions := []
  constants := .ofList [("rate", .bool true)]
  patches := []

theorem ofDocument_welcome :
    Page.ofDocument (declaring (welcomeNodes barSource)) = .ok welcomePage := by
  decide +kernel

theorem welcome_keeps_all :
    Page.ofDocument (declaring (welcomeNodes barSource)) = .ok welcomePage ∧
      Authoring.PageOf (declaring (welcomeNodes barSource)) welcomePage :=
  ⟨ofDocument_welcome, (Page.ofDocument_keeps_all _).2.2.2 welcomePage ofDocument_welcome⟩

end PageLayers
