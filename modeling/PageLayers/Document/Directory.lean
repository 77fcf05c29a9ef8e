import PageLayers.Artifact.Batch
import PageLayers.Files.Access
import PageLayers.Files.Path
import PageLayers.Json.Reader
import PageLayers.Ordered.Sort

/-! Documents in files, alone and all of a directory. -/

namespace PageLayers

inductive DocumentError where
  | unreadable (path : String)
  | malformed (path : String)
  deriving DecidableEq

/-- The system's and the reader's own words are not part of a message. -/
def DocumentError.message : DocumentError → String
  | unreadable path => s!"Failed to read {path}"
  | malformed path => s!"Failed to parse {path}"

namespace Document

abbrev Loading := ExceptT DocumentError FileProgram

def decode (path text : String) : Except DocumentError Node :=
  match (Json.written? text).bind Node.ofJson? with
  | some n => .ok n
  | none => .error (.malformed path)

def load (path : String) : Loading Node :=
  (FileCall.read path).step fun
    | some text => decode path text
    | none => .error (.unreadable path)

def names (dir : String) : Loading (List String) :=
  (FileCall.names dir).step fun
    | some names => .ok names
    | none => .error (.unreadable dir)

/-- The documents of a directory in the order of their names; those below it do not count. -/
def loadAll (dir : String) : Loading (List SourceDocument) := do
  let wanted := (← names dir).filter (FilePath.hasEnding "json")
  (sortBy id wanted).mapM fun name => do
    let path := FilePath.join dir name
    return ⟨path, ← load path⟩

end Document

end PageLayers
