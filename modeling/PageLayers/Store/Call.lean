import PageLayers.Interaction.Program
import PageLayers.Registry.Manifest

/-! What can be asked of a store of layers. Artifacts are stored once under their checksums, the
manifest only grows, and pointers move one at a time. -/

namespace PageLayers

inductive StoreError where
  | notFound (checksum : String)
  | unavailable (reason : String)
  | io
  | serialization
  deriving DecidableEq

/-- The system's and the reader's own words are not part of a message. -/
def StoreError.message : StoreError → String
  | notFound checksum => s!"Artifact not found: {checksum}"
  | unavailable reason => s!"Store unavailable: {reason}"
  | io => "IO error"
  | serialization => "Serialization error"

inductive StoreCall where
  | contains (checksum : String)
  | put (a : Artifact)
  | get (checksum : String)
  | loadManifest
  | append (e : ManifestEntry)
  | loadPointers
  | swap (key : LayerKey) (id : String)

namespace StoreCall

/-- What a call gives when it succeeds; a swap gives the id that the pointer had before. -/
def Result : StoreCall → Type
  | contains _ => Bool
  | put _ => Unit
  | get _ => Artifact
  | loadManifest => Manifest
  | append _ => Unit
  | loadPointers => Pointers
  | swap .. => Option String

/-- Calls that may change a store. -/
def isWrite : StoreCall → Bool
  | put _ => true
  | append _ => true
  | swap .. => true
  | _ => false

end StoreCall

def storeInterface : Interface := ⟨StoreCall, fun c => Except StoreError c.Result⟩

abbrev StoreProgram := Program storeInterface

/-- Makes one call; its failure ends the program. -/
def StoreCall.perform {ε : Type} (wrap : StoreError → ε) (c : StoreCall) :
    ExceptT ε StoreProgram c.Result :=
  ExceptT.mk (.call c fun r => .done (r.mapError wrap))

end PageLayers
