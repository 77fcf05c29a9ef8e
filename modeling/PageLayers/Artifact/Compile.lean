import PageLayers.Artifact.Basic
import PageLayers.Authoring.Page
import PageLayers.Rules.Validation

/-! From documents to artifacts. Nothing is compiled that is not valid. -/

namespace PageLayers

/-- What is published under a key: its version and its content. -/
structure Release where
  contentVersion : String
  checksum : String
  deriving DecidableEq

/-- What a document is compiled against. -/
structure CompileContext where
  base : Option Page
  additional : List Page
  prior : Option Release

namespace CompileContext

def empty : CompileContext := ⟨none, [], none⟩

def rules (ctx : CompileContext) : RuleContext :=
  ⟨ctx.base, ctx.additional, ctx.prior.map Release.contentVersion⟩

end CompileContext

namespace Artifact

/-- New content asks for a new version. -/
def versionKept (p : Page) (prior : Option Release) : List Diagnostic :=
  if prior.any fun r => r.contentVersion = p.contentVersion ∧ r.checksum ≠ p.checksum then
    [⟨.versionNotBumped, none,
      s!"content changed but contentVersion {p.contentVersion} is already published"⟩]
  else []

def ofPage (p : Page) (now : Timestamp) : Artifact where
  layerKey := p.layerKey
  page := p
  checksum := p.checksum
  schemaVersion := p.schemaVersion
  contentVersion := p.contentVersion
  engineVersion := PageLayers.engineVersion
  compiledAt := now
  contracts := p.contractTable

/-- Compiles a page, or tells why it is rejected. -/
def compilePage (p : Page) (ctx : CompileContext) (now : Timestamp) :
    Except (List Diagnostic) Artifact :=
  let errors := (p.validate ctx.rules).errors
  if errors.isEmpty then
    let reports := versionKept p ctx.prior
    if reports.isEmpty then .ok (ofPage p now) else .error reports
  else .error (errors.map Violation.diagnostic)

def compile (document : Node) (ctx : CompileContext) (now : Timestamp) :
    Except (List Diagnostic) Artifact := do
  let p ← Page.ofDocument document
  compilePage p ctx now

/-- How a rejection is told. -/
def rejection (reports : List Diagnostic) : String :=
  "Compilation rejected: " ++ Diagnostic.displayAll reports

end Artifact

end PageLayers
