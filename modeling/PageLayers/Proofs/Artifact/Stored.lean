import PageLayers.Proofs.Artifact.Compiled
import PageLayers.Proofs.Authoring.Key
import PageLayers.Proofs.Page.Identity
import PageLayers.Proofs.Page.RoundTrip
import PageLayers.Proofs.Store.Lasting

/-! What becomes of a compiled artifact that is kept in a directory: it is loaded with each null
body of a request taken out, and its checksum is still that of its page just where there is none. -/

namespace PageLayers

open Json

/-! ### The JSON form of artifacts -/

theorem FieldRef.ofJson?_toJson (f : FieldRef) : ofJson? f.toJson = some f := by
  have hpresent : f.toJson =
    present [("path", some (.str f.path)), ("source", some (.str f.source))] := rfl
  simp [ofJson?, hpresent]

theorem ContractTable.ofJson?_toJson (t : ContractTable) : ofJson? t.toJson = some t := by
  have hpresent : t.toJson = present [("entries", some (ofMap FieldRef.toJson t))] := rfl
  have hentries : map? FieldRef.ofJson? (ofMap FieldRef.toJson t) = some t :=
    map?_ofMap fun f _ => f.ofJson?_toJson
  simp [ofJson?, hpresent, hentries]

theorem ContractTable.numbers_toJson (t : ContractTable) : t.toJson.numbers = [] := by
  simp [toJson, numbers_obj, ofMap, List.flatMap_map, FieldRef.toJson]

namespace Artifact

variable {a : Artifact}

/-- What an artifact is loaded as. -/
def withoutNullBodies (a : Artifact) : Artifact := { a with page := a.page.withoutNullBodies }

theorem ofJson?_toJson (hkey : a.layerKey.Survives) (hpage : a.page.WellFormed) :
    ofJson? a.toJson = some a.withoutNullBodies := by
  have hpresent : a.toJson = present [("checksum", some (.str a.checksum)),
    ("compiledAt", some (.str a.compiledAt.text)), ("contentVersion", some (.str a.contentVersion)),
    ("contracts", some a.contracts.toJson), ("engineVersion", some (.str a.engineVersion)),
    ("ir", some a.page.toJson), ("layerKey", some a.layerKey.toJson),
    ("schemaVersion", some (.str a.schemaVersion))] := rfl
  rw [hpresent, ofJson?, recordFields?_present (by simp), Option.bind_eq_bind, Option.bind_some]
  simp [LayerKey.survives_iff.1 hkey, Page.ofJson?_toJson hpage, ContractTable.ofJson?_toJson,
    withoutNullBodies]

theorem numbers_toJson : a.toJson.numbers = a.page.toJson.numbers := by
  simp [toJson, numbers_obj, ContractTable.numbers_toJson, LayerKey.toJson]

/-- Loaded, a compiled artifact has its checksum just where the page was left as it is. -/
theorem verify_withoutNullBodies (hchecksum : a.checksum = a.page.checksum)
    (hfloats : Number.FloatsReadBack a.page.toJson.numbers)
    (hdigest : Sha256.Apart a.page.canonicalText a.page.withoutNullBodies.canonicalText) :
    a.withoutNullBodies.verify = true ↔ a.page.withoutNullBodies = a.page := by
  have hverify : a.withoutNullBodies.verify = true ↔
      a.page.withoutNullBodies.checksum = a.page.checksum := by
    rw [verify, decide_eq_true_iff, ← hchecksum]
    rfl
  have hapart : Page.FloatsApart a.page a.page.withoutNullBodies := by
    rw [Page.FloatsApart, Page.numbers_withoutNullBodies]
    exact hfloats.apart
  rw [hverify]
  constructor
  · intro h
    exact (Page.checksum_inj hapart hdigest h.symm).symm
  · intro h
    rw [h]

end Artifact

/-! ### Putting and getting -/

namespace DirectoryStore

open FilePath FileTree

/-- The store can take an artifact of the page: its directory is there, and in the place of the
artifact stands nothing, or what the page was compiled to at some other time. -/
structure Takes (home : List String) (t : FileTree) (p : Page) : Prop where
  directory : t.node? (home ++ ["artifacts"]) = some .directory
  place : t.node? (home ++ ["artifacts"] ++ [p.checksum ++ ".json"]) = none ∨ ∃ earlier,
    t.node? (home ++ ["artifacts"] ++ [p.checksum ++ ".json"]) =
      some (.file (Artifact.ofPage p earlier).toJson.lines)

variable {s : DirectoryStore} {t : FileTree} {home : List String} {p : Page} {now : Timestamp}
  {limit : Nat}

/-- What is put has the page in its file, if it may be as compiled at an earlier time. -/
theorem run_put (hroot : locate? s.root = some home) (h : Takes home t p) :
    ∃ u compiled, t.run (s.put (.ofPage p now)).run = (.ok (), u) ∧
      u.node? (home ++ ["artifacts"] ++ [p.checksum ++ ".json"]) =
        some (.file (Artifact.ofPage p compiled).toJson.lines) := by
  have hhex : Text.Hexadecimal (Artifact.ofPage p now).checksum := Sha256.hexadecimal_ofText _
  rcases h.place with hnone | ⟨earlier, hfile⟩
  · obtain ⟨u, hrun, hsets⟩ := run_put_of_none hroot hhex h.directory hnone
    refine ⟨u, now, hrun, ?_⟩
    exact (hsets _).trans (if_pos rfl)
  · exact ⟨t, earlier, run_put_of_some hroot hhex hfile, hfile⟩

theorem run_getWithin {a : Artifact} (hroot : locate? s.root = some home)
    (hhex : Text.Hexadecimal a.checksum) (hkey : a.layerKey.Survives) (hpage : a.page.WellFormed)
    (hfloats : Number.FloatsReadBack a.page.toJson.numbers) (hlimit : a.toJson.nesting ≤ limit)
    (hfile : t.node? (home ++ ["artifacts"] ++ [a.checksum ++ ".json"]) =
      some (.file a.toJson.lines)) :
    t.run (s.getWithin limit a.checksum).run = (.ok a.withoutNullBodies, t) := by
  have hnumbers : ∀ n ∈ a.toJson.numbers, n.ReadsBack := by
    rw [Artifact.numbers_toJson]
    exact hfloats.all hpage.numbers
  rw [run_getWithin_of_file hroot hhex hfile, decodeWithin, readWithin?_lines hnumbers hlimit,
    Option.bind_some, Artifact.ofJson?_toJson hkey hpage]

end DirectoryStore

namespace Artifact

variable {document : Node} {ctx : CompileContext} {now : Timestamp} {a : Artifact}
  {s : DirectoryStore} {t : FileTree} {home : List String}

/-- A compiled artifact that is put into a store is loaded ever after, whatever is done with the
store in between; it has the page it was compiled to, and the checksum of the page that it has, just
where no request of the page has a null body. -/
theorem stored_verifies_iff (hdocument : document.WellFormed)
    (hcompile : compile document ctx now = .ok a)
    (hfloats : Number.FloatsReadBack a.page.toJson.numbers)
    (hdigest : Sha256.Apart a.page.canonicalText a.page.withoutNullBodies.canonicalText)
    (hroot : FilePath.locate? s.root = some home) (htakes : DirectoryStore.Takes home t a.page) :
    ∃ u b, t.run (s.put a).run = (.ok (), u) ∧
      (∀ steps, ∃ v, LayerStore.after steps (.directory s u) = .directory s v ∧
        ∀ limit, a.toJson.nesting ≤ limit →
          v.run (s.getWithin limit a.checksum).run = (.ok b, v)) ∧
      b.checksum = a.checksum ∧ b.page = a.page.withoutNullBodies ∧
      (b.page = a.page ↔ ∀ r ∈ a.page.requests, r.body ≠ some .null) ∧
      (b.verify = true ↔ ∀ r ∈ a.page.requests, r.body ≠ some .null) := by
  obtain ⟨p, hp, hpage⟩ := compile_eq_ok hcompile
  obtain ⟨-, -, rfl⟩ := compilePage_eq_ok.1 hpage
  have hwellFormed := Page.wellFormed_of_ofDocument hdocument hp
  obtain ⟨u, compiled, hput, hfile⟩ := @DirectoryStore.run_put s t home p now hroot htakes
  refine ⟨u, (ofPage p compiled).withoutNullBodies, hput, ?_, rfl, rfl,
    Page.withoutNullBodies_eq_self, ?_⟩
  · intro steps
    obtain ⟨v, hafter, hlast⟩ := LayerStore.after_leaves hroot steps hfile
    refine ⟨v, hafter, ?_⟩
    intro limit hlimit
    exact DirectoryStore.run_getWithin (a := ofPage p compiled) hroot (Sha256.hexadecimal_ofText _)
      (Page.layerKey_survives hp) hwellFormed hfloats hlimit hlast
  · exact (verify_withoutNullBodies (a := ofPage p compiled) rfl hfloats hdigest).trans
      Page.withoutNullBodies_eq_self

end Artifact

/-- A blueprint whose one source posts a body. -/
def feedDocument (body : Json) : Node :=
  .mk "blueprint"
    (.ofList [("id", .str "home"), ("module", .str "shop"), ("route", .str "/"),
      ("schemaVersion", .str "1.0.0"), ("contentVersion", .str "1.0.0")])
    [.mk "dataSource"
      (.ofList [("id", .str "feed"), ("kind", .str "http"), ("url", .str "/feed"),
        ("body", body)]) []]

def feedPage (body : Json) : Page :=
  { notice "home" "1.0.0" with
    dataSources := [⟨"feed", .http ⟨"GET", "/feed", ∅, body, none⟩, ∅, none⟩] }

def rateBody : Json := .obj [("rate", .num (.float 0.5))]

theorem compile_feed {body : Json} (hbody : body ∈ [.null, rateBody]) :
    Artifact.compile (feedDocument body) .empty .epoch = .ok (.ofPage (feedPage body) .epoch) := by
  have hdocument : ∀ body ∈ [.null, rateBody],
      Page.ofDocument (feedDocument body) = .ok (feedPage body) := by decide +kernel
  have hvalid : ∀ body ∈ [.null, rateBody],
      ((feedPage body).validate CompileContext.empty.rules).valid = true := by decide +kernel
  refine Artifact.compile_of_compilePage (hdocument body hbody) ?_
  exact Artifact.compilePage_eq_ok.2 ⟨hvalid body hbody, rfl, rfl⟩

/-- The directories of a store that has just been opened. -/
def openedFiles : FileTree :=
  ⟨.ofList [(["store"], .directory), (["store", "artifacts"], .directory)]⟩

theorem takes_openedFiles {p : Page} : DirectoryStore.Takes ["store"] openedFiles p := by
  refine ⟨by decide, .inl ?_⟩
  rw [Option.eq_none_iff_forall_ne_some]
  intro node hnode
  rw [FileTree.node?_eq_get? (by simp), OrderedMap.get?_eq_some] at hnode
  have hentry : _ ∈ [(["store"], FileNode.directory), (["store", "artifacts"], .directory)] := hnode
  simp at hentry

theorem feed_stored :
    Artifact.compile (feedDocument rateBody) .empty .epoch =
      .ok (.ofPage (feedPage rateBody) .epoch) ∧
    ∃ u b, openedFiles.run (DirectoryStore.put ⟨"store"⟩ (.ofPage (feedPage rateBody) .epoch)).run =
        (.ok (), u) ∧
      (∀ steps, ∃ v, LayerStore.after steps (.directory ⟨"store"⟩ u) = .directory ⟨"store"⟩ v ∧
        v.run (DirectoryStore.get ⟨"store"⟩ (feedPage rateBody).checksum).run = (.ok b, v)) ∧
      b.page = feedPage rateBody ∧ b.verify = true := by
  have hcompile := compile_feed (List.mem_cons_of_mem .null (List.mem_singleton_self rateBody))
  have hbody : ∀ r ∈ (feedPage rateBody).requests, r.body ≠ some .null := by decide
  have hdigest : Sha256.Apart (feedPage rateBody).canonicalText
      (feedPage rateBody).withoutNullBodies.canonicalText := by
    rw [Page.withoutNullBodies_eq_self.2 hbody]
    exact fun _ => rfl
  have hroot : FilePath.locate? "store" = some ["store"] := by decide
  have hnesting : (Artifact.ofPage (feedPage rateBody) .epoch).toJson.nesting ≤
      Json.nestingLimit := by decide +kernel
  obtain ⟨u, b, hput, hget, -, -, hpage, hverify⟩ :=
    Artifact.stored_verifies_iff (s := ⟨"store"⟩) (by decide +kernel) hcompile (by decide +kernel)
      hdigest hroot takes_openedFiles
  refine ⟨hcompile, u, b, hput, ?_, hpage.2 hbody, hverify.2 hbody⟩
  intro steps
  obtain ⟨v, hafter, hloaded⟩ := hget steps
  exact ⟨v, hafter, hloaded _ hnesting⟩

/-- Stored and loaded, the page has lost its null body, and its checksum is another. -/
theorem feed_changed_by_store :
    Artifact.compile (feedDocument .null) .empty .epoch =
      .ok (.ofPage (feedPage .null) .epoch) ∧
    ∃ u b, openedFiles.run (DirectoryStore.put ⟨"store"⟩ (.ofPage (feedPage .null) .epoch)).run =
        (.ok (), u) ∧
      u.run (DirectoryStore.get ⟨"store"⟩ (feedPage .null).checksum).run = (.ok b, u) ∧
      b.page ≠ feedPage .null ∧ b.verify = false := by
  have hroot : FilePath.locate? "store" = some ["store"] := by decide
  have hkey : (feedPage .null).layerKey.Survives := LayerKey.survives_iff.2 (by decide +kernel)
  have hchecksum : (feedPage .null).withoutNullBodies.checksum ≠ (feedPage .null).checksum := by
    rw [Page.checksum_eq_hex, Page.checksum_eq_hex]
    decide +kernel
  obtain ⟨u, compiled, hput, hfile⟩ :=
    DirectoryStore.run_put (s := ⟨"store"⟩) hroot (takes_openedFiles (p := feedPage .null))
  have hpage : (feedPage .null).WellFormed := by decide +kernel
  have hfloats : Number.FloatsReadBack (feedPage .null).toJson.numbers := by decide +kernel
  have hnesting : (Artifact.ofPage (feedPage .null) .epoch).toJson.nesting ≤ Json.nestingLimit := by
    decide +kernel
  have hget := DirectoryStore.run_getWithin (s := ⟨"store"⟩)
    (a := .ofPage (feedPage .null) compiled) hroot (Sha256.hexadecimal_ofText _) hkey hpage hfloats
    hnesting hfile
  have hchanged : (feedPage .null).withoutNullBodies ≠ feedPage .null := by decide
  exact ⟨compile_feed List.mem_cons_self, u, _, hput, hget, hchanged, decide_eq_false hchecksum⟩

end PageLayers
