import PageLayers.Store.Call

/-! A store that is kept in memory. One write can be made to fail, for trying out what then becomes
of a program. -/

namespace PageLayers

/-- The writes of a store. -/
inductive FailPoint where
  | artifactPut
  | manifestAppend
  | pointerSwap
  deriving DecidableEq

namespace FailPoint

def text : FailPoint → String
  | artifactPut => "ArtifactPut"
  | manifestAppend => "ManifestAppend"
  | pointerSwap => "PointerSwap"

def all : List FailPoint := [artifactPut, manifestAppend, pointerSwap]

def ofText? (s : String) : Option FailPoint := all.find? fun p => p.text = s

end FailPoint

/-- The next write of the kind of `failNext` fails. -/
structure MemoryStore where
  artifacts : OrderedMap String Artifact
  manifest : Manifest
  pointers : Pointers
  failNext : Option FailPoint
  deriving DecidableEq

namespace MemoryStore

def empty : MemoryStore := ⟨∅, .empty, ∅, none⟩

def failOn (s : MemoryStore) (point : FailPoint) : MemoryStore := { s with failNext := some point }

/-- A write that is set to fail changes nothing, and is not set to fail again. -/
def write {α : Type} (point : FailPoint) (f : MemoryStore → α × MemoryStore) (s : MemoryStore) :
    Except StoreError α × MemoryStore :=
  if s.failNext = some point then
    (.error (.unavailable s!"injected failure at {point.text}"), { s with failNext := none })
  else
    let (a, s) := f s
    (.ok a, s)

/-- The first artifact that is put under a checksum stays. -/
def putArtifact (a : Artifact) (s : MemoryStore) : Unit × MemoryStore :=
  ((), if s.artifacts.contains a.checksum then s
    else { s with artifacts := s.artifacts.insert a.checksum a })

def appendEntry (e : ManifestEntry) (s : MemoryStore) : Unit × MemoryStore :=
  ((), { s with manifest := s.manifest.append e })

def swapPointer (key : LayerKey) (id : String) (s : MemoryStore) : Option String × MemoryStore :=
  (s.pointers.get? key, { s with pointers := s.pointers.insert key id })

def answer : (c : StoreCall) → MemoryStore → Except StoreError c.Result × MemoryStore
  | .contains checksum, s => (.ok (s.artifacts.contains checksum), s)
  | .put a, s => write .artifactPut (putArtifact a) s
  | .get checksum, s =>
    match s.artifacts.get? checksum with
    | some a => (.ok a, s)
    | none => (.error (.notFound checksum), s)
  | .loadManifest, s => (.ok s.manifest, s)
  | .append e, s => write .manifestAppend (appendEntry e) s
  | .loadPointers, s => (.ok s.pointers, s)
  | .swap key id, s => write .pointerSwap (swapPointer key id) s

end MemoryStore

end PageLayers
