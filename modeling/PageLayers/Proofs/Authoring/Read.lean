import Mathlib.Data.List.Forall2
import Mathlib.Tactic.SplitIfs
import PageLayers.Authoring.Page

/-! The value that comes of reading one thing after another, and what is reported: a document is
accepted when that is nothing. -/

namespace PageLayers

namespace Read

variable {α β : Type}

instance : LawfulMonad Read := .mk' Read
  (fun r => by cases r; simp [Functor.map])
  (fun _ _ => by simp [pure, bind])
  (fun _ _ _ => by simp [bind])

@[simp] theorem value_pure {a : α} : (pure a : Read α).value = a := rfl

@[simp] theorem reports_pure {a : α} : (pure a : Read α).reports = [] := rfl

@[simp] theorem value_bind {r : Read α} {f : α → Read β} :
    (r >>= f).value = (f r.value).value := rfl

@[simp] theorem value_map {r : Read α} {f : α → β} : (f <$> r).value = f r.value := rfl

@[simp] theorem value_reject {reason : Reason} {node : Option String} {message : String} :
    (reject reason node message : Read (Option α)).value = none := rfl

/-- Nothing is reported about a whole of which nothing is reported about a part. -/
theorem reports_bind_eq_nil {r : Read α} {f : α → Read β} :
    (r >>= f).reports = [] ↔ r.reports = [] ∧ (f r.value).reports = [] :=
  List.append_eq_nil_iff

theorem reports_map_eq_nil {r : Read α} {g : α → β} : (g <$> r).reports = [] ↔ r.reports = [] := by
  rw [← bind_pure_comp, reports_bind_eq_nil]
  exact and_iff_left rfl

theorem reports_of_mem {f : α → Read (Option β)} {l : List α}
    (h : (collect f l).reports = []) {a : α} (ha : a ∈ l) :
    (f a).reports = [] := by
  induction l with
  | nil => cases ha
  | cons b rest ih =>
    simp only [collect, reports_bind_eq_nil] at h
    rcases List.mem_cons.1 ha with rfl | ha
    · exact h.1
    · exact ih h.2.1 ha

theorem value_collect {f : α → Read (Option β)} {l : List α} :
    (collect f l).value = l.filterMap fun a => (f a).value := by
  induction l with
  | nil => rfl
  | cons a rest ih =>
    simp only [collect, value_bind, value_pure, ih, List.filterMap_cons]
    cases (f a).value <;> rfl

theorem reports_collect_eq_nil {f : α → Read (Option β)} {l : List α} :
    (collect f l).reports = [] ↔ ∀ a ∈ l, (f a).reports = [] := by
  refine ⟨fun h a ha => reports_of_mem h ha, fun h => ?_⟩
  induction l with
  | nil => rfl
  | cons a rest ih =>
    obtain ⟨ha, hrest⟩ := List.forall_mem_cons.1 h
    simp only [collect, reports_bind_eq_nil]
    exact ⟨ha, ih hrest, rfl⟩

theorem mem_collect {f : α → Read (Option β)} {l : List α} {b : β} :
    b ∈ (collect f l).value ↔ ∃ a ∈ l, (f a).value = some b := by
  rw [value_collect, List.mem_filterMap]

/-- The value is the same, and nothing is reported by one where nothing is by the other. -/
structure Agrees (r r' : Read α) : Prop where
  value : r.value = r'.value
  reports : r.reports = [] ↔ r'.reports = []

namespace Agrees

variable {r r' : Read α} {f f' : α → Read β} {R : α → α → Prop}

theorem of_eq (h : r = r') : Agrees r r' := h ▸ ⟨rfl, Iff.rfl⟩

theorem reject {reason reason' : Reason} {node node' : Option String} {message message' : String} :
    Agrees (Read.reject reason node message : Read (Option α))
      (Read.reject reason' node' message') :=
  ⟨rfl, by simp [Read.reject]⟩

theorem bind_of_value (hreports : r.reports = [] ↔ r'.reports = [])
    (hf : Agrees (f r.value) (f' r'.value)) : Agrees (r >>= f) (r' >>= f') := by
  refine ⟨hf.value, ?_⟩
  rw [reports_bind_eq_nil, reports_bind_eq_nil, hreports, hf.reports]

theorem bind (h : Agrees r r') (hf : ∀ a, Agrees (f a) (f' a)) : Agrees (r >>= f) (r' >>= f') :=
  bind_of_value h.reports (h.value ▸ hf r.value)

theorem map (h : Agrees r r') {g : α → β} : Agrees (g <$> r) (g <$> r') := by
  refine ⟨congrArg g h.value, ?_⟩
  rw [reports_map_eq_nil, reports_map_eq_nil, h.reports]

theorem collect {f f' : α → Read (Option β)} {l l' : List α} (h : List.Forall₂ R l l')
    (hf : ∀ a a', R a a' → Agrees (f a) (f' a')) :
    Agrees (Read.collect f l) (Read.collect f' l') := by
  induction h with
  | nil => exact of_eq rfl
  | cons ha _ ih => exact (hf _ _ ha).bind fun b => ih.bind fun more => of_eq rfl

end Agrees

end Read

variable {root : Node} {p : Page} {kind : PageKind} {tag : String}
  {attrs : OrderedMap String Json} {children : List Node}

theorem Authoring.pageOf_header : (pageOf kind root).value.kind = kind ∧
    (pageOf kind root).value.extendsId = (extended kind root).value := by
  unfold pageOf
  simp only [Read.value_bind]
  split
  · split <;> exact ⟨rfl, rfl⟩
  · split <;> exact ⟨rfl, rfl⟩

namespace Authoring

/-- The page with other pieces. -/
def withPieces (p : Page) (pieces : List Piece) : Page :=
  { p with
    regions := pieces.filterMap Piece.region?
    dataSources := sortBy DataSource.id (pieces.filterMap Piece.dataSource?)
    actions := sortBy Action.id (pieces.filterMap Piece.action?)
    constants := OrderedMap.ofList (pieces.filterMap Piece.constant?)
    patches := pieces.filterMap Piece.patch? }

theorem keyPart_mk {name : String} {others : List String} {owner : Option String} :
    keyPart (.mk tag attrs children) name others owner =
      keyPart (.mk tag attrs []) name others owner := rfl

theorem require_mk {name : String} {others : List String} {owner : Option String} :
    require (.mk tag attrs children) name others owner =
      require (.mk tag attrs []) name others owner := rfl

theorem extended_mk : extended kind (.mk tag attrs children) = extended kind (.mk tag attrs []) :=
  rfl

/-- What the root says is read apart from what stands below it. -/
theorem value_pageOf :
    (pageOf kind (.mk tag attrs children)).value =
      withPieces (pageOf kind (.mk tag attrs [])).value
        (Read.collect (piece kind tag) (flatten children)).value := by
  unfold pageOf
  simp only [Read.value_bind, @keyPart_mk tag attrs children, @require_mk tag attrs children,
    @extended_mk kind tag attrs children]
  split_ifs <;> rfl

theorem reports_pageOf :
    (pageOf kind (.mk tag attrs children)).reports = [] ↔
      (pageOf kind (.mk tag attrs [])).reports = [] ∧
        (Read.collect (piece kind tag) (flatten children)).reports = [] := by
  have hnone : (Read.collect (piece kind tag) (flatten [])).reports = [] := rfl
  unfold pageOf
  simp only [@keyPart_mk tag attrs children, @require_mk tag attrs children,
    @extended_mk kind tag attrs children, Read.reports_bind_eq_nil, Node.tag, Node.children]
  split_ifs <;>
    simp only [Read.reports_bind_eq_nil, Read.reports_pure, hnone, and_true, and_assoc]

end Authoring

/-- An accepted document is read to its end without a report. -/
theorem Page.ofDocument_eq_ok_iff : ofDocument root = .ok p ↔
    ∃ kind, PageKind.ofText? root.tag = some kind ∧ (Authoring.pageOf kind root).reports = [] ∧
      (Authoring.pageOf kind root).value = p := by
  unfold ofDocument
  cases PageKind.ofText? root.tag with
  | none => simp
  | some kind => by_cases h : (Authoring.pageOf kind root).reports = [] <;> simp [h]

end PageLayers
