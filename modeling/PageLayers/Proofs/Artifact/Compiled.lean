import PageLayers.Artifact.Compile
import PageLayers.Proofs.Digest.Hexadecimal
import PageLayers.Proofs.Rules.Verdict

/-! What is known of an artifact that was compiled. -/

namespace PageLayers

namespace Artifact

variable {p : Page} {document : Node} {ctx : CompileContext} {now : Timestamp} {a : Artifact}

theorem compilePage_eq_ok : compilePage p ctx now = .ok a ↔
    (p.validate ctx.rules).valid = true ∧ versionKept p ctx.prior = [] ∧ ofPage p now = a := by
  unfold compilePage
  cases hvalid : (p.validate ctx.rules).errors with
  | nil => cases versionKept p ctx.prior <;> simp [Validation.valid, hvalid]
  | cons v rest => simp [Validation.valid, hvalid]

theorem compile_eq_ok (h : compile document ctx now = .ok a) :
    ∃ p, Page.ofDocument document = .ok p ∧ compilePage p ctx now = .ok a :=
  except_bind_eq_ok.1 h

theorem compile_of_compilePage (hp : Page.ofDocument document = .ok p)
    (h : compilePage p ctx now = .ok a) : compile document ctx now = .ok a :=
  except_bind_eq_ok.2 ⟨p, hp, h⟩

theorem parse_of_valid (h : (p.validate ctx.rules).valid = true) :
    ∃ v, Version.parse p.contentVersion = .ok v := by
  obtain ⟨-, -, hversioning, -⟩ := Page.valid_iff.1 h
  obtain ⟨-, hcontent⟩ := (Rules.versioning_eq_nil.1 hversioning).1
  unfold Rules.isVersion at hcontent
  split at hcontent
  · rename_i v hv
    exact ⟨v, hv⟩
  · cases hcontent

/-- The artifact is the result of compiling a document. -/
def Compiled (a : Artifact) : Prop := ∃ document ctx now, compile document ctx now = .ok a

theorem Compiled.eq_ofPage (h : a.Compiled) : ∃ now, a = ofPage a.page now := by
  obtain ⟨document, ctx, now, h⟩ := h
  obtain ⟨p, -, hp⟩ := compile_eq_ok h
  obtain ⟨-, -, rfl⟩ := compilePage_eq_ok.1 hp
  exact ⟨now, rfl⟩

theorem Compiled.version (h : a.Compiled) : ∃ v, Version.parse a.contentVersion = .ok v := by
  obtain ⟨document, ctx, now, h⟩ := h
  obtain ⟨p, -, hp⟩ := compile_eq_ok h
  obtain ⟨hvalid, -, rfl⟩ := compilePage_eq_ok.1 hp
  exact parse_of_valid hvalid

theorem Compiled.contentVersion_eq (h : a.Compiled) : a.contentVersion = a.page.contentVersion := by
  obtain ⟨now, h⟩ := h.eq_ofPage
  rw [h]
  rfl

theorem Compiled.checksum_eq (h : a.Compiled) : a.checksum = a.page.checksum := by
  obtain ⟨now, h⟩ := h.eq_ofPage
  rw [h]
  rfl

end Artifact

/-- A blueprint with nothing on it. -/
def noticeDocument (id version : String) : Node :=
  .mk "blueprint"
    (.ofList [("id", .str id), ("module", .str "shop"), ("route", .str "/"),
      ("schemaVersion", .str "1.0.0"), ("contentVersion", .str version)]) []

def notice (id version : String) : Page where
  kind := .blueprint
  schemaVersion := "1.0.0"
  contentVersion := version
  moduleName := "shop"
  route := "/"
  scope := .unset
  pageId := id
  extendsId := none
  regions := []
  dataSources := []
  actions := []
  constants := ∅
  patches := []

variable {id : String}

theorem ofDocument_notice (hid : id ∈ ["home", "start"]) :
    Page.ofDocument (noticeDocument id "1.0.0") = .ok (notice id "1.0.0") := by
  obtain rfl | rfl : id = "home" ∨ id = "start" := by simpa using hid
  · rfl
  · rfl

theorem compile_notice (hid : id ∈ ["home", "start"]) :
    Artifact.compile (noticeDocument id "1.0.0") .empty .epoch =
      .ok (.ofPage (notice id "1.0.0") .epoch) := by
  have hvalid : ∀ id ∈ ["home", "start"],
      ((notice id "1.0.0").validate CompileContext.empty.rules).valid = true := by decide
  refine Artifact.compile_of_compilePage (ofDocument_notice hid) ?_
  exact Artifact.compilePage_eq_ok.2 ⟨hvalid id hid, rfl, rfl⟩

theorem Page.checksum_eq_hex {p : Page} :
    p.checksum = Sha256.hex (p.toJson.chars.flatMap String.utf8EncodeChar) :=
  Sha256.ofText_ofList

theorem checksum_notice_ne :
    (notice "home" "1.0.0").checksum ≠ (notice "start" "1.0.0").checksum := by
  rw [Page.checksum_eq_hex, Page.checksum_eq_hex]
  decide +kernel

end PageLayers
