import PageLayers.Store.Call
import PageLayers.Files.Access
import PageLayers.Files.Path
import PageLayers.Json.Reader

/-! A store that is kept in a directory: one file for each artifact, named for its checksum, one for
the manifest and one for the pointers. A file that is missing stands for nothing stored yet. -/

namespace PageLayers

structure DirectoryStore where
  root : String
  deriving DecidableEq

/-- Working with the files of a store. -/
abbrev StoreFiles := ExceptT StoreError FileProgram

namespace DirectoryStore

/-- The text of a file; a file that cannot be read is an error of the system. -/
def read (path : String) : StoreFiles String :=
  (FileCall.read path).step fun
    | some text => .ok text
    | none => .error .io

def has (path : String) : StoreFiles Bool := (FileCall.has path).step .ok

def write (path : String) (j : Json) : StoreFiles Unit :=
  (FileCall.write path j.lines).step fun
    | some () => .ok ()
    | none => .error .io

/-- Reads typed data from a text. -/
def decode {α : Type} (ofJson? : Json → Option α) (text : String) : Except StoreError α :=
  match (Json.written? text).bind ofJson? with
  | some a => .ok a
  | none => .error .serialization

def artifactsPath (s : DirectoryStore) : String := FilePath.join s.root "artifacts"

def manifestPath (s : DirectoryStore) : String := FilePath.join s.root "manifest.json"

def pointersPath (s : DirectoryStore) : String := FilePath.join s.root "pointers.json"

/-- Only a name of hexadecimal digits is one of an artifact. -/
def artifactPath (s : DirectoryStore) (checksum : String) : Except StoreError String :=
  if checksum.isEmpty ∨ !checksum.toList.all Text.isHexDigit then .error (.notFound checksum)
  else .ok (FilePath.join s.artifactsPath (checksum ++ ".json"))

/-- The data of a file, or that of a store without the file. -/
def load {α : Type} (path : String) (fallback : α) (ofJson? : Json → Option α) :
    StoreFiles α := do
  if ← has path then decode ofJson? (← read path) else return fallback

def loadManifest (s : DirectoryStore) : StoreFiles Manifest :=
  load s.manifestPath .empty Manifest.ofJson?

def loadPointers (s : DirectoryStore) : StoreFiles Pointers :=
  load s.pointersPath ∅ Pointers.ofJson?

def get (s : DirectoryStore) (checksum : String) : StoreFiles Artifact := do
  let path ← s.artifactPath checksum
  if ← has path then decode Artifact.ofJson? (← read path) else throw (.notFound checksum)

/-- An artifact that is there is not written again. -/
def put (s : DirectoryStore) (a : Artifact) : StoreFiles Unit := do
  let path ← s.artifactPath a.checksum
  if ← has path then return () else write path a.toJson

def append (s : DirectoryStore) (e : ManifestEntry) : StoreFiles Unit := do
  let manifest ← s.loadManifest
  write s.manifestPath (manifest.append e).toJson

def swap (s : DirectoryStore) (key : LayerKey) (id : String) : StoreFiles (Option String) := do
  let pointers ← s.loadPointers
  write s.pointersPath (Pointers.toJson (pointers.insert key id))
  return pointers.get? key

/-- Makes the directory where it is missing. -/
def start (s : DirectoryStore) : StoreFiles Unit :=
  (FileCall.makeDirectories s.artifactsPath).step fun
    | some () => .ok ()
    | none => .error .io

def answer (s : DirectoryStore) : (c : StoreCall) → FileProgram (Except StoreError c.Result)
  | .contains checksum => (do has (← s.artifactPath checksum) : StoreFiles Bool)
  | .put a => s.put a
  | .get checksum => s.get checksum
  | .loadManifest => s.loadManifest
  | .append e => s.append e
  | .loadPointers => s.loadPointers
  | .swap key id => s.swap key id

end DirectoryStore

end PageLayers
