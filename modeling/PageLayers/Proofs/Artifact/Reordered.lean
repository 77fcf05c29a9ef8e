import PageLayers.Proofs.Artifact.Compiled
import PageLayers.Proofs.Authoring.Counterparts

/-! The order in which a document declares its sources, actions and constants does not show in the
artifact. Sources and actions are sorted, constants stand under their names, and no node is read
with regard to what stands before it. -/

namespace PageLayers

namespace Authoring

/-- The tag of the nodes whose order a page keeps. -/
def orderedTag : PageKind → String
  | .blueprint => "region"
  | .overlay => "patch"

/-- The documents differ only in the order of what stands below the root, and not in that of their
regions or patches. -/
structure Reordered (root root' : Node) : Prop where
  tag : root.tag = root'.tag
  attrs : root.attrs = root'.attrs
  perm : (flatten root.children).Perm (flatten root'.children)
  ordered : ∀ kind, PageKind.ofText? root.tag = some kind →
    nodesOf [orderedTag kind] root = nodesOf [orderedTag kind] root'

/-- No two sources, no two actions and no two constants are declared under one name. -/
structure DistinctlyNamed (root : Node) : Prop where
  dataSources : ((nodesOf ["dataSource"] root).map (·.getText? ["id"])).Nodup
  actions : ((nodesOf ["action"] root).map (·.getText? ["id"])).Nodup
  constants : ((nodesOf ["constant"] root).map (·.getText? ["name"])).Nodup

variable {kind : PageKind} {root root' : Node} {tags : List String}

theorem OnlyHolds.of_perm {others : List String}
    (hperm : (flatten root.children).Perm (flatten root'.children))
    (h : OnlyHolds tags others root) : OnlyHolds tags others root' :=
  fun c hc => h c (hperm.mem_iff.2 hc)

theorem OnlyHolds.nodesOf_eq_nil {tag : String} (h : OnlyHolds tags [] root) (htag : tag ∉ tags) :
    nodesOf [tag] root = [] := by
  rw [nodesOf, List.filter_eq_nil_iff]
  intro c hc hcontains
  obtain rfl : currentTag c.tag = tag := by simpa using hcontains
  exact (h c hc).elim htag (List.not_mem_nil)

theorem Reordered.nodesOf_eq {tag : String} (h : Reordered root root')
    (hkind : PageKind.ofText? root.tag = some kind) (honly : OnlyHolds (heldTags kind) [] root)
    (htag : tag = "region" ∨ tag = "patch") : nodesOf [tag] root = nodesOf [tag] root' := by
  have hnone (htag : tag ∉ heldTags kind) : nodesOf [tag] root = nodesOf [tag] root' := by
    rw [honly.nodesOf_eq_nil htag, (honly.of_perm h.perm).nodesOf_eq_nil htag]
  have hordered := h.ordered kind hkind
  cases kind <;> rcases htag with rfl | rfl
  · exact hordered
  · exact hnone (by decide)
  · exact hnone (by decide)
  · exact hordered

/-- The parts of some tag are read from the nodes of that tag. -/
theorem parts_eq_filterMap {α : Type} {tag : String} {part? : Piece → Option α}
    (h : (pageOf kind root).reports = [])
    (hpassed : ∀ x : Piece, x.tag ≠ tag → part? x = none) :
    (Read.collect (piece kind root.tag) (flatten root.children)).value.filterMap part? =
      (nodesOf [tag] root).filterMap fun n => (piece kind root.tag n).value.bind part? := by
  rw [Read.value_collect, List.filterMap_filterMap, nodesOf, List.filterMap_filter]
  refine List.filterMap_congr fun n hn => ?_
  obtain ⟨x, hx, hpiece⟩ := exists_of_piece (Read.reports_of_mem (reports_pieces h) hn)
  split
  · rfl
  · rename_i htag
    rw [hpiece.tag_eq] at htag
    rw [hx]
    exact hpassed x (by simpa using htag)

/-- The parts of some tag are the same where the nodes of that tag are. -/
theorem parts_eq_of_nodesOf {α : Type} {tag : String} {part? : Piece → Option α}
    (h : (pageOf kind root).reports = []) (h' : (pageOf kind root').reports = [])
    (hroot : root.tag = root'.tag) (hnodes : nodesOf [tag] root = nodesOf [tag] root')
    (hpassed : ∀ x : Piece, x.tag ≠ tag → part? x = none) :
    (Read.collect (piece kind root.tag) (flatten root.children)).value.filterMap part? =
      (Read.collect (piece kind root'.tag) (flatten root'.children)).value.filterMap part? := by
  rw [parts_eq_filterMap h hpassed, parts_eq_filterMap h' hpassed, hnodes, hroot]

theorem withPieces_congr {p : Page} {xs ys : List Piece}
    (hregions : xs.filterMap Piece.region? = ys.filterMap Piece.region?)
    (hsources : sortBy DataSource.id (xs.filterMap Piece.dataSource?) =
      sortBy DataSource.id (ys.filterMap Piece.dataSource?))
    (hactions : sortBy Action.id (xs.filterMap Piece.action?) =
      sortBy Action.id (ys.filterMap Piece.action?))
    (hconstants : OrderedMap.ofList (xs.filterMap Piece.constant?) =
      .ofList (ys.filterMap Piece.constant?))
    (hpatches : xs.filterMap Piece.patch? = ys.filterMap Piece.patch?) :
    withPieces p xs = withPieces p ys := by
  unfold withPieces
  rw [hregions, hsources, hactions, hconstants, hpatches]

/-- A sorted list of items of distinct keys is the same for every order that they come in. -/
theorem sortBy_parts_eq {α : Type} {key : α → String} {part? : Piece → Option α}
    {xs ys : List Piece} (hperm : xs.Perm ys) (hkeys : ((xs.filterMap part?).map key).Nodup) :
    sortBy key (xs.filterMap part?) = sortBy key (ys.filterMap part?) :=
  sortBy_eq_of_perm (hperm.filterMap part?) fun _ ha _ hb hab =>
    List.inj_on_of_nodup_map hkeys ha hb hab

theorem ofDocument_eq_of_reordered {p : Page} (h : Reordered root root')
    (hnames : DistinctlyNamed root) (hp : Page.ofDocument root = .ok p) :
    Page.ofDocument root' = .ok p := by
  obtain ⟨kind, hkind, hreports, rfl⟩ := Page.ofDocument_eq_ok_iff.1 hp
  have honly := (pageOf_of_reports hkind hreports).only
  rw [pageOf_header.1] at honly
  obtain ⟨tag, attrs, children⟩ := root
  obtain ⟨tag', attrs', children'⟩ := root'
  obtain rfl : tag = tag' := h.tag
  obtain rfl : attrs = attrs' := h.attrs
  obtain ⟨hhead, hcollect⟩ := reports_pageOf.1 hreports
  have hreports' : (pageOf kind (.mk tag attrs children')).reports = [] := by
    refine reports_pageOf.2 ⟨hhead, Read.reports_collect_eq_nil.2 fun c hc => ?_⟩
    exact Read.reports_of_mem hcollect (h.perm.mem_iff.2 hc)
  refine Page.ofDocument_eq_ok_iff.2 ⟨kind, hkind, hreports', ?_⟩
  have hparts := partsOf_of_reports hreports
  have hperm : (Read.collect (piece kind tag) (flatten children)).value.Perm
      (Read.collect (piece kind tag) (flatten children')).value := by
    rw [Read.value_collect, Read.value_collect]
    exact h.perm.filterMap _
  rw [@value_pageOf kind tag attrs children', @value_pageOf kind tag attrs children]
  refine (withPieces_congr ?_ ?_ ?_ ?_ ?_).symm
  · have hnodes := h.nodesOf_eq hkind honly (.inl rfl)
    exact (parts_eq_of_nodesOf hreports hreports' rfl hnodes fun _ => Piece.region?_eq_none :)
  · refine sortBy_parts_eq hperm ?_
    exact nodup_of_forall₂ (hparts.dataSources.imp fun _ _ h => h.id) hnames.dataSources
  · refine sortBy_parts_eq hperm ?_
    exact nodup_of_forall₂ (hparts.actions.imp fun _ _ h => h.id) hnames.actions
  · refine OrderedMap.ofList_eq_of_perm (hperm.filterMap _) ?_
    exact nodup_of_forall₂ (hparts.constants.imp fun _ _ h => h.name) hnames.constants
  · have hnodes := h.nodesOf_eq hkind honly (.inr rfl)
    exact (parts_eq_of_nodesOf hreports hreports' rfl hnodes fun _ => Piece.patch?_eq_none :)

end Authoring

namespace Artifact

open Authoring

/-- The artifact of a document is that of each document that declares the same in another order, at
whatever time each is compiled. -/
theorem compile_eq_of_reordered {root root' : Node} {ctx : CompileContext} {now later : Timestamp}
    {a : Artifact} (h : compile root ctx now = .ok a) (hnames : DistinctlyNamed root)
    (horder : Reordered root root') :
    compile root' ctx later = .ok { a with compiledAt := later } := by
  obtain ⟨p, hp, hpage⟩ := compile_eq_ok h
  obtain ⟨hvalid, hkept, rfl⟩ := compilePage_eq_ok.1 hpage
  refine compile_of_compilePage (ofDocument_eq_of_reordered horder hnames hp) ?_
  exact compilePage_eq_ok.2 ⟨hvalid, hkept, rfl⟩

end Artifact

theorem welcome_backwards :
    Artifact.compile (declaring (welcomeNodes barSource)) .empty .epoch =
        .ok (.ofPage welcomePage .epoch) ∧
      Artifact.compile (declaring (welcomeNodes barSource).reverse) .empty .epoch =
        .ok (.ofPage welcomePage .epoch) := by
  have hvalid : (welcomePage.validate CompileContext.empty.rules).valid = true := by decide +kernel
  have hcompile : Artifact.compile (declaring (welcomeNodes barSource)) .empty .epoch =
      .ok (.ofPage welcomePage .epoch) :=
    Artifact.compile_of_compilePage ofDocument_welcome
      (Artifact.compilePage_eq_ok.2 ⟨hvalid, rfl, rfl⟩)
  have hnames : Authoring.DistinctlyNamed (declaring (welcomeNodes barSource)) := by
    constructor <;> decide
  have horder : Authoring.Reordered (declaring (welcomeNodes barSource))
      (declaring (welcomeNodes barSource).reverse) := by
    refine ⟨rfl, rfl, (List.reverse_perm _).symm, fun kind hkind => ?_⟩
    cases hkind
    rfl
  exact ⟨hcompile, Artifact.compile_eq_of_reordered hcompile hnames horder⟩

end PageLayers
