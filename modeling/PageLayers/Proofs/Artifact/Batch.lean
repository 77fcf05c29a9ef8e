import Mathlib.Data.List.Pairwise
import PageLayers.Artifact.Batch
import PageLayers.Proofs.Artifact.Compiled
import PageLayers.Proofs.Authoring.Scope
import PageLayers.Proofs.Lists

/-! A set of documents is compiled as each of its documents is by itself, so that neither the order
in which the documents are listed nor the artifacts made before one of them matter to it. -/

namespace PageLayers

namespace SourceDocument

def isBlueprint (d : SourceDocument) : Bool := d.root.tag = "blueprint"

/-- The page that a document is read as, if it is accepted. -/
def page? (d : SourceDocument) : Option Page := (Page.ofDocument d.root).toOption

end SourceDocument

namespace Artifact

open SourceDocument

variable {documents documents' : List SourceDocument} {d : SourceDocument} {p b : Page}
  {compiled artifacts : List Artifact} {now now' : Timestamp}

/-- The pages of the blueprints of a set, in listing order. -/
def blueprintPages (documents : List SourceDocument) : List Page :=
  (documents.filter isBlueprint).filterMap page?

def DistinctPageIds (documents : List SourceDocument) : Prop :=
  ((blueprintPages documents).filterMap Page.pageId).Nodup

instance : Decidable (DistinctPageIds documents) := inferInstanceAs (Decidable (List.Nodup _))

/-- The page of the set's blueprint whose page id a page extends. -/
def baseAmong? (documents : List SourceDocument) (p : Page) : Option Page :=
  p.extendsId.bind fun id => (blueprintPages documents).find? fun b => b.pageId = some id

/-- What a document of a set is compiled against. -/
def contextIn (documents : List SourceDocument) (d : SourceDocument) : CompileContext :=
  ⟨d.page?.bind (baseAmong? documents), [], none⟩

/-- One document of a set, compiled by itself. -/
def compileAlone (documents : List SourceDocument) (now : Timestamp) (d : SourceDocument) :
    Except BatchError Artifact :=
  (compile d.root (contextIn documents d) now).mapError (BatchError.mk d.path)

theorem page?_eq_some : d.page? = some p ↔ Page.ofDocument d.root = .ok p := by
  unfold page?
  cases Page.ofDocument d.root <;> simp [Except.toOption]

theorem compileDocument_eq
    (hbase : ∀ p, d.page? = some p → baseFor? compiled p = baseAmong? documents p) :
    compileDocument now compiled d =
      (compileAlone documents now d).map fun a => compiled ++ [a] := by
  have hresult : (do
      let p ← Page.ofDocument d.root
      compilePage p ⟨baseFor? compiled p, [], none⟩ now) =
        compile d.root (contextIn documents d) now := by
    unfold compile contextIn
    cases hp : Page.ofDocument d.root with
    | error reports => rfl
    | ok p =>
      have hpage : d.page? = some p := page?_eq_some.2 hp
      show compilePage p ⟨baseFor? compiled p, [], none⟩ now = _
      rw [hpage, hbase p hpage]
      rfl
  unfold compileDocument compileAlone
  dsimp only
  rw [hresult]
  cases compile d.root (contextIn documents d) now <;> rfl

/-! ### What is compiled from a set -/

/-- The tag of an accepted document is the kind of its page. -/
theorem tag_of_page? (h : d.page? = some p) : PageKind.ofText? d.root.tag = some p.kind := by
  obtain ⟨kind, htag, -, rfl⟩ := Page.ofDocument_eq_ok_iff.1 (page?_eq_some.1 h)
  rw [htag, Authoring.pageOf_header.1]

theorem kind_of_page? (h : d.page? = some p) : p.kind = .blueprint ↔ d.isBlueprint = true := by
  have htag := tag_of_page? h
  unfold PageKind.ofText? at htag
  rw [isBlueprint, decide_eq_true_iff]
  split_ifs at htag with hblueprint hoverlay
  · exact iff_of_true (Option.some.inj htag).symm hblueprint
  · exact iff_of_false (by simp [← Option.some.inj htag]) hblueprint

theorem extendsId_of_blueprint (h : d.page? = some p) (hkind : p.kind = .blueprint) :
    p.extendsId = none := by
  obtain ⟨kind, -, -, rfl⟩ := Page.ofDocument_eq_ok_iff.1 (page?_eq_some.1 h)
  rw [Authoring.pageOf_header.1] at hkind
  rw [Authoring.pageOf_header.2, hkind]
  rfl

/-- An artifact of the set holds the page of its document. -/
theorem page_of_compileAlone {a : Artifact} (h : compileAlone documents now d = .ok a) :
    d.page? = some a.page := by
  obtain ⟨p, hp, hpage⟩ := compile_eq_ok (except_mapError_eq_ok.1 h)
  obtain ⟨-, -, rfl⟩ := compilePage_eq_ok.1 hpage
  exact page?_eq_some.2 hp

/-- The pages of the blueprints that are compiled. -/
def compiledBlueprints (compiled : List Artifact) : List Page :=
  (compiled.map Artifact.page).filter fun p => p.kind = .blueprint

theorem baseFor?_eq (h : compiledBlueprints compiled = blueprintPages documents) :
    baseFor? compiled p = baseAmong? documents p := by
  unfold baseFor? baseAmong?
  rw [← h, compiledBlueprints]
  congr 1
  funext id
  rw [List.find?_filter]
  simp

theorem compiledBlueprints_of_forall₂
    (h : List.Forall₂ (fun d a => compileAlone documents now d = .ok a)
      (documents.filter isBlueprint) compiled) :
    compiledBlueprints compiled = blueprintPages documents := by
  have hall : ∀ d ∈ documents.filter isBlueprint, d.isBlueprint = true :=
    fun d hd => (List.mem_filter.1 hd).2
  unfold compiledBlueprints blueprintPages
  generalize documents.filter isBlueprint = blueprints at h hall
  induction h with
  | nil => rfl
  | cons ha hrest ih =>
    rw [List.forall_mem_cons] at hall
    have hpage := page_of_compileAlone ha
    rw [List.filterMap_cons_some hpage, ← ih hall.2, List.map_cons, List.filter_cons_of_pos]
    exact decide_eq_true ((kind_of_page? hpage).2 hall.1)

theorem compileOrder_eq : compileOrder documents =
    documents.filter isBlueprint ++ documents.filter fun d => !d.isBlueprint := rfl

/-- Blueprints are compiled first, and nothing that comes later adds to them. -/
theorem compileSet_eq_mapM (documents : List SourceDocument) (now : Timestamp) :
    compileSet documents now = (compileOrder documents).mapM (compileAlone documents now) := by
  have hblueprints : (documents.filter isBlueprint).foldlM (compileDocument now) [] =
      (documents.filter isBlueprint).mapM (compileAlone documents now) := by
    rw [foldlM_eq_mapM (f := compileAlone documents now) (P := fun _ => True) ?_ (by simp) trivial]
    · cases (documents.filter isBlueprint).mapM (compileAlone documents now) <;> rfl
    · intro done d hd _
      refine compileDocument_eq fun p hp => ?_
      have hextends := extendsId_of_blueprint hp ((kind_of_page? hp).2 (List.mem_filter.1 hd).2)
      rw [baseFor?, baseAmong?, hextends]
      rfl
  unfold compileSet
  rw [compileOrder_eq, List.foldlM_append, hblueprints, List.mapM_append]
  cases hfirst : (documents.filter isBlueprint).mapM (compileAlone documents now) with
  | error e => rfl
  | ok blueprints =>
    show (documents.filter fun d => !d.isBlueprint).foldlM (compileDocument now) blueprints = _
    rw [foldlM_eq_mapM (f := compileAlone documents now)
      (P := fun done => compiledBlueprints done = blueprintPages documents) ?_ ?_
      (compiledBlueprints_of_forall₂ (mapM_eq_ok.1 hfirst))]
    · cases (documents.filter fun d => !d.isBlueprint).mapM (compileAlone documents now) <;> rfl
    · exact fun done d _ hdone => compileDocument_eq fun p _ => baseFor?_eq hdone
    · intro done d a hd hdone ha
      have hkind : a.page.kind ≠ .blueprint := by
        intro hkind
        have hblueprint := (kind_of_page? (page_of_compileAlone ha)).1 hkind
        simpa [hblueprint] using (List.mem_filter.1 hd).2
      rw [← hdone]
      simp [compiledBlueprints, hkind]

/-! ### Other listing orders -/

theorem perm_compileOrder : (compileOrder documents).Perm documents :=
  List.filter_append_perm isBlueprint documents

theorem perm_blueprintPages (h : documents.Perm documents') :
    (blueprintPages documents).Perm (blueprintPages documents') :=
  (h.filter isBlueprint).filterMap page?

theorem DistinctPageIds.of_perm (hdistinct : DistinctPageIds documents)
    (h : documents.Perm documents') : DistinctPageIds documents' :=
  ((perm_blueprintPages h).filterMap Page.pageId).nodup_iff.1 hdistinct

/-- Of distinct page ids no two blueprints have one. -/
theorem DistinctPageIds.eq_of_pageId (h : DistinctPageIds documents) {b' : Page} {id : String}
    (hb : b ∈ blueprintPages documents) (hb' : b' ∈ blueprintPages documents)
    (hid : b.pageId = some id) (hid' : b'.pageId = some id) : b = b' := by
  have hapart := List.pairwise_filterMap.1 h
  have : Std.Symm fun a a' : Page =>
      ∀ id, a.pageId = some id → ∀ id', a'.pageId = some id' → id ≠ id' :=
    ⟨fun a a' haa' id hid id' hid' heq => haa' id' hid' id hid heq.symm⟩
  by_contra hne
  exact hapart.forall hb hb' hne id hid id hid' rfl

/-- The base is the one blueprint of the set that has the page id. -/
theorem baseAmong?_eq_some (h : DistinctPageIds documents) : baseAmong? documents p = some b ↔
    b ∈ blueprintPages documents ∧ ∃ id, p.extendsId = some id ∧ b.pageId = some id := by
  unfold baseAmong?
  rw [Option.bind_eq_some_iff]
  constructor
  · rintro ⟨id, hextends, hfind⟩
    exact ⟨List.mem_of_find?_eq_some hfind, id, hextends, by simpa using List.find?_some hfind⟩
  · rintro ⟨hb, id, hextends, hid⟩
    refine ⟨id, hextends, ?_⟩
    have hsome : ((blueprintPages documents).find? fun b => b.pageId = some id).isSome :=
      List.find?_isSome.2 ⟨b, hb, by simpa using hid⟩
    obtain ⟨b', hb'⟩ := Option.isSome_iff_exists.1 hsome
    have hid' : b'.pageId = some id := by simpa using List.find?_some hb'
    rw [hb', h.eq_of_pageId (List.mem_of_find?_eq_some hb') hb hid' hid]

theorem contextIn_of_perm (hdistinct : DistinctPageIds documents) (h : documents.Perm documents') :
    contextIn documents = contextIn documents' := by
  have hbase : baseAmong? documents = baseAmong? documents' := by
    funext p
    apply Option.ext
    intro b
    rw [baseAmong?_eq_some hdistinct, baseAmong?_eq_some (hdistinct.of_perm h),
      (perm_blueprintPages h).mem_iff]
  funext d
  rw [contextIn, contextIn, hbase]

/-- What an artifact is apart from the time at which it was made. -/
def content (a : Artifact) : Page × String := (a.page, a.checksum)

/-- The time of compilation has no bearing on what is compiled. -/
theorem compile_content (now now' : Timestamp) {n : Node} {ctx : CompileContext} :
    (compile n ctx now).map content = (compile n ctx now').map content := by
  have hpage : ∀ p, (compilePage p ctx now).map content = (compilePage p ctx now').map content := by
    intro p
    unfold compilePage
    dsimp only
    split_ifs <;> rfl
  unfold compile
  cases Page.ofDocument n with
  | error reports => rfl
  | ok p => exact hpage p

theorem contextIn_of_blueprint (hd : d.isBlueprint = true) : contextIn documents d = .empty := by
  unfold contextIn CompileContext.empty
  cases hp : d.page? with
  | none => rfl
  | some p =>
    have hextends := extendsId_of_blueprint hp ((kind_of_page? hp).2 hd)
    rw [Option.bind_some, baseAmong?, hextends]
    rfl

theorem compileAlone_eq_ok {a : Artifact} : compileAlone documents now d = .ok a ↔
    compile d.root (contextIn documents d) now = .ok a := except_mapError_eq_ok

theorem exists_document_of_mem {a : Artifact} (h : compileSet documents now = .ok artifacts)
    (ha : a ∈ artifacts) : ∃ d ∈ documents, compileAlone documents now d = .ok a := by
  rw [compileSet_eq_mapM, mapM_eq_ok] at h
  have horder : ∃ d ∈ compileOrder documents, compileAlone documents now d = .ok a := by
    generalize compileOrder documents = order at h
    induction h with
    | nil => cases ha
    | cons hd hrest ih =>
      rcases List.mem_cons.1 ha with rfl | ha
      · exact ⟨_, List.mem_cons_self, hd⟩
      · obtain ⟨d, hd, hcompile⟩ := ih ha
        exact ⟨d, List.mem_cons_of_mem _ hd, hcompile⟩
  obtain ⟨d, hd, hcompile⟩ := horder
  exact ⟨d, perm_compileOrder.mem_iff.1 hd, hcompile⟩

theorem compileSet_singleton {path : String} {n : Node} {a : Artifact}
    (h : compile n .empty now = .ok a) : compileSet [⟨path, n⟩] now = .ok [a] := by
  have hcontext : contextIn [⟨path, n⟩] ⟨path, n⟩ = .empty := by
    by_cases hblueprint : (⟨path, n⟩ : SourceDocument).isBlueprint = true
    · exact contextIn_of_blueprint hblueprint
    · have hpages : blueprintPages [⟨path, n⟩] = [] := by simp [blueprintPages, hblueprint]
      unfold contextIn baseAmong?
      rw [hpages]
      simp [CompileContext.empty]
  rw [← hcontext] at h
  rw [compileSet_eq_mapM, List.perm_singleton.1 perm_compileOrder]
  exact mapM_eq_ok.2 (.cons (compileAlone_eq_ok.2 h) .nil)

/-- Each document that compiles is a blueprint or an overlay. -/
theorem exists_compileAlone : (∃ a, compileAlone documents now d = .ok a) ↔
    d.root.tag = "blueprint" ∧ (∃ a, compile d.root .empty now = .ok a) ∨
      d.root.tag = "overlay" ∧ ∃ a, compile d.root (contextIn documents d) now = .ok a := by
  simp only [compileAlone_eq_ok]
  constructor
  · rintro ⟨a, ha⟩
    have htag := tag_of_page? (page_of_compileAlone (compileAlone_eq_ok.2 ha))
    unfold PageKind.ofText? at htag
    split_ifs at htag with hblueprint hoverlay
    · rw [contextIn_of_blueprint (decide_eq_true hblueprint)] at ha
      exact .inl ⟨hblueprint, a, ha⟩
    · exact .inr ⟨hoverlay, a, ha⟩
  · rintro (⟨htag, ha⟩ | ⟨-, ha⟩)
    · rwa [contextIn_of_blueprint (decide_eq_true htag)]
    · exact ha

theorem exists_compileSet : (∃ artifacts, compileSet documents now = .ok artifacts) ↔
    ∀ d ∈ documents, ∃ a, compileAlone documents now d = .ok a := by
  rw [compileSet_eq_mapM, exists_mapM_eq_ok]
  exact forall_congr' fun d => by rw [perm_compileOrder.mem_iff]

/-- What becomes of a document of a set, apart from the time. -/
def contentIn? (documents : List SourceDocument) (d : SourceDocument) : Option (Page × String) :=
  ((compile d.root (contextIn documents d) .epoch).map content).toOption

theorem contentIn?_of_compileAlone {a : Artifact} (h : compileAlone documents now d = .ok a) :
    contentIn? documents d = some (content a) := by
  rw [contentIn?, compile_content .epoch now, compileAlone_eq_ok.1 h]
  rfl

theorem exists_compileAlone_iff :
    (∃ a, compileAlone documents now d = .ok a) ↔ (contentIn? documents d).isSome := by
  simp only [compileAlone_eq_ok]
  rw [contentIn?, compile_content .epoch now]
  cases compile d.root (contextIn documents d) now <;> simp [Except.map, Except.toOption]

theorem zip_content (h : compileSet documents now = .ok artifacts) :
    (compileOrder documents).zip (artifacts.map content) =
      (compileOrder documents).filterMap fun d => (contentIn? documents d).map fun c => (d, c) := by
  rw [compileSet_eq_mapM, mapM_eq_ok] at h
  generalize compileOrder documents = order at h
  induction h with
  | nil => rfl
  | cons ha hrest ih =>
    rw [List.map_cons, List.zip_cons_cons, ih, List.filterMap_cons, contentIn?_of_compileAlone ha]
    rfl

/-- A set compiles exactly when each of its blueprints does so by itself and each overlay does on
the blueprint of the set that it extends. The artifacts are those that are compiled in this way, the
blueprints' before the others', each group in listing order. In another listing order each document
ends up with the same page and checksum. -/
theorem compileSet_document_by_document (now : Timestamp) (hdistinct : DistinctPageIds documents) :
    ((∃ artifacts, compileSet documents now = .ok artifacts) ↔ ∀ d ∈ documents,
      d.root.tag = "blueprint" ∧ (∃ a, compile d.root .empty now = .ok a) ∨
        d.root.tag = "overlay" ∧ ∃ a, compile d.root (contextIn documents d) now = .ok a) ∧
    (∀ artifacts, compileSet documents now = .ok artifacts →
      ∃ blueprints overlays, artifacts = blueprints ++ overlays ∧
        List.Forall₂ (fun d a => compile d.root .empty now = .ok a)
          (documents.filter isBlueprint) blueprints ∧
        List.Forall₂ (fun d a => compile d.root (contextIn documents d) now = .ok a)
          (documents.filter fun d => !d.isBlueprint) overlays) ∧
    ∀ documents' now', documents.Perm documents' →
      ((∃ artifacts, compileSet documents now = .ok artifacts) ↔
        ∃ artifacts, compileSet documents' now' = .ok artifacts) ∧
      ∀ artifacts artifacts', compileSet documents now = .ok artifacts →
        compileSet documents' now' = .ok artifacts' →
          ((compileOrder documents).zip (artifacts.map content)).Perm
            ((compileOrder documents').zip (artifacts'.map content)) := by
  refine ⟨?_, ?_, ?_⟩
  · rw [exists_compileSet]
    exact forall₂_congr fun d _ => exists_compileAlone
  · intro artifacts h
    rw [compileSet_eq_mapM, compileOrder_eq, List.mapM_append] at h
    simp only [except_bind_eq_ok, mapM_eq_ok, compileAlone_eq_ok] at h
    obtain ⟨blueprints, hblueprints, overlays, hoverlays, hartifacts⟩ := h
    refine ⟨blueprints, overlays, (Except.ok.inj hartifacts).symm, ?_, hoverlays⟩
    have hall : ∀ d ∈ documents.filter isBlueprint, d.isBlueprint = true :=
      fun d hd => (List.mem_filter.1 hd).2
    refine ((List.forall₂_and_left _ _).2 ⟨hall, hblueprints⟩).imp fun d a hd => ?_
    rw [← contextIn_of_blueprint hd.1]
    exact hd.2
  · intro documents' now' hperm
    have hcontents : contentIn? documents = contentIn? documents' := by
      funext d
      rw [contentIn?, contentIn?, contextIn_of_perm hdistinct hperm]
    constructor
    · simp only [exists_compileSet, exists_compileAlone_iff, hcontents, hperm.mem_iff]
    · intro artifacts artifacts' h h'
      rw [zip_content h, zip_content h', hcontents]
      exact (perm_compileOrder.trans (hperm.trans perm_compileOrder.symm)).filterMap _

/-- An overlay for one tenant with nothing on it. -/
def acmeDocument : Node :=
  .mk "overlay"
    (.ofList [("extends", .str "start"), ("module", .str "shop"), ("route", .str "/"),
      ("tenant", .str "acme"), ("schemaVersion", .str "1.0.0"),
      ("contentVersion", .str "1.0.0")]) []

def acme : Page where
  kind := .overlay
  schemaVersion := "1.0.0"
  contentVersion := "1.0.0"
  moduleName := "shop"
  route := "/"
  scope := ⟨some "acme", none, none, none⟩
  pageId := none
  extendsId := some "start"
  regions := []
  dataSources := []
  actions := []
  constants := ∅
  patches := []

/-- The overlay is listed before the blueprint that it extends. -/
def shopSet : List SourceDocument :=
  [⟨"acme.json", acmeDocument⟩, ⟨"home.json", noticeDocument "home" "1.0.0"⟩,
    ⟨"start.json", noticeDocument "start" "1.0.0"⟩]

theorem compile_acme :
    ∃ a, compile acmeDocument (contextIn shopSet ⟨"acme.json", acmeDocument⟩) .epoch = .ok a := by
  have hcontext : contextIn shopSet ⟨"acme.json", acmeDocument⟩ =
      ⟨some (notice "start" "1.0.0"), [], none⟩ := rfl
  have hpage : Page.ofDocument acmeDocument = .ok acme := rfl
  have hvalid : (acme.validate ⟨some (notice "start" "1.0.0"), [], none⟩).valid = true := by decide
  rw [hcontext]
  exact ⟨_, compile_of_compilePage hpage (compilePage_eq_ok.2 ⟨hvalid, rfl, rfl⟩)⟩

theorem shopSet_document_by_document : DistinctPageIds shopSet ∧ shopSet.Perm shopSet.reverse ∧
    ∃ blueprints overlays artifacts', compileSet shopSet .epoch = .ok (blueprints ++ overlays) ∧
      compileSet shopSet.reverse .epoch = .ok artifacts' ∧
      List.Forall₂ (fun d a => compile d.root .empty .epoch = .ok a)
        (shopSet.filter isBlueprint) blueprints ∧
      List.Forall₂ (fun d a => compile d.root (contextIn shopSet d) .epoch = .ok a)
        (shopSet.filter fun d => !d.isBlueprint) overlays ∧
      ((compileOrder shopSet).zip ((blueprints ++ overlays).map content)).Perm
        ((compileOrder shopSet.reverse).zip (artifacts'.map content)) := by
  have hdistinct : DistinctPageIds shopSet := by decide
  have hperm : shopSet.Perm shopSet.reverse := shopSet.reverse_perm.symm
  obtain ⟨hsuccess, hresult, horders⟩ := compileSet_document_by_document .epoch hdistinct
  have hall : ∃ artifacts, compileSet shopSet .epoch = .ok artifacts := by
    refine hsuccess.2 ?_
    simp only [shopSet, List.forall_mem_cons, List.not_mem_nil, false_imp_iff, implies_true,
      and_true]
    exact ⟨.inr ⟨rfl, compile_acme⟩, .inl ⟨rfl, _, compile_notice (by decide)⟩,
      .inl ⟨rfl, _, compile_notice (by decide)⟩⟩
  obtain ⟨hsame, hcontents⟩ := horders shopSet.reverse .epoch hperm
  obtain ⟨artifacts, h⟩ := hall
  obtain ⟨artifacts', h'⟩ := hsame.1 ⟨artifacts, h⟩
  obtain ⟨blueprints, overlays, rfl, hblueprints, hoverlays⟩ := hresult artifacts h
  exact ⟨hdistinct, hperm, blueprints, overlays, artifacts', h, h', hblueprints, hoverlays,
    hcontents _ _ h h'⟩

end Artifact

end PageLayers
