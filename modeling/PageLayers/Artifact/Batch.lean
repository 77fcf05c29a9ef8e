import PageLayers.Artifact.Compile

/-! Compiling a set of documents: blueprints first, and overlays on the blueprints of the set. -/

namespace PageLayers

structure SourceDocument where
  path : String
  root : Node
  deriving DecidableEq

/-- The document of a set that is rejected, and why. -/
structure BatchError where
  path : String
  reports : List Diagnostic

def BatchError.message (e : BatchError) : String :=
  e.path ++ ": " ++ Artifact.rejection e.reports

namespace Artifact

/-- Documents keep their order among blueprints and among all others. -/
def compileOrder (documents : List SourceDocument) : List SourceDocument :=
  let isBlueprint (d : SourceDocument) := d.root.tag = "blueprint"
  documents.filter isBlueprint ++ documents.filter fun d => !isBlueprint d

/-- The blueprint among compiled pages that a page extends. -/
def baseFor? (compiled : List Artifact) (p : Page) : Option Page :=
  p.extendsId.bind fun id =>
    (compiled.map Artifact.page).find? fun b => b.kind = .blueprint ∧ b.pageId = some id

def compileDocument (now : Timestamp) (compiled : List Artifact) (d : SourceDocument) :
    Except BatchError (List Artifact) :=
  let result := do
    let p ← Page.ofDocument d.root
    compilePage p ⟨baseFor? compiled p, [], none⟩ now
  match result with
  | .ok a => .ok (compiled ++ [a])
  | .error reports => .error ⟨d.path, reports⟩

/-- All documents of a set, or the first that is rejected. -/
def compileSet (documents : List SourceDocument) (now : Timestamp) :
    Except BatchError (List Artifact) :=
  (compileOrder documents).foldlM (compileDocument now) []

end Artifact

end PageLayers
