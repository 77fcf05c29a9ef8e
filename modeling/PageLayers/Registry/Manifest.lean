import PageLayers.Artifact.Compile

/-! The catalogue of published layers: the manifest records every layer that was published, and the
pointers say which record of each key is live. -/

namespace PageLayers

structure ManifestEntry where
  id : String
  layerKey : LayerKey
  /-- The checksum under which the artifact is stored. -/
  artifactRef : String
  checksum : String
  schemaVersion : String
  contentVersion : String
  compiledAt : Timestamp
  publishedAt : Timestamp
  deriving DecidableEq

namespace ManifestEntry

def ofArtifact (a : Artifact) (id : String) (now : Timestamp) : ManifestEntry where
  id := id
  layerKey := a.layerKey
  artifactRef := a.checksum
  checksum := a.checksum
  schemaVersion := a.schemaVersion
  contentVersion := a.contentVersion
  compiledAt := a.compiledAt
  publishedAt := now

def release (e : ManifestEntry) : Release := ⟨e.contentVersion, e.checksum⟩

def toJson (e : ManifestEntry) : Json :=
  .obj [("artifactRef", .str e.artifactRef), ("checksum", .str e.checksum),
    ("compiledAt", .str e.compiledAt.text), ("contentVersion", .str e.contentVersion),
    ("id", .str e.id), ("layerKey", e.layerKey.toJson), ("publishedAt", .str e.publishedAt.text),
    ("schemaVersion", .str e.schemaVersion)]

def ofJson? (j : Json) : Option ManifestEntry := do
  let fields ← Json.recordFields? ["id", "layerKey", "artifactRef", "checksum", "schemaVersion",
    "contentVersion", "compiledAt", "publishedAt"] j
  return ⟨← fields.required? "id" Json.string?, ← fields.required? "layerKey" LayerKey.ofJson?,
    ← fields.required? "artifactRef" Json.string?, ← fields.required? "checksum" Json.string?,
    ← fields.required? "schemaVersion" Json.string?,
    ← fields.required? "contentVersion" Json.string?,
    ← fields.required? "compiledAt" (Json.string? · >>= Timestamp.ofText?),
    ← fields.required? "publishedAt" (Json.string? · >>= Timestamp.ofText?)⟩

end ManifestEntry

/-- Entries are added at the end and never change. -/
structure Manifest where
  entries : List ManifestEntry
  deriving DecidableEq

namespace Manifest

def empty : Manifest := ⟨[]⟩

def get? (m : Manifest) (id : String) : Option ManifestEntry := m.entries.find? (·.id = id)

/-- The entry that records the content of a checksum under a key. -/
def find? (m : Manifest) (key : LayerKey) (checksum : String) : Option ManifestEntry :=
  m.entries.find? fun e => e.layerKey = key ∧ e.checksum = checksum

def append (m : Manifest) (e : ManifestEntry) : Manifest := ⟨m.entries ++ [e]⟩

def toJson (m : Manifest) : Json := .obj [("entries", .arr (m.entries.map ManifestEntry.toJson))]

def ofJson? (j : Json) : Option Manifest := do
  let fields ← Json.recordFields? ["entries"] j
  return ⟨← fields.required? "entries" (Json.list? ManifestEntry.ofJson?)⟩

end Manifest

/-- The id of the live entry of each key. -/
abbrev Pointers := OrderedMap LayerKey String

namespace Pointers

/-- The live entries in the order of their keys; pointers to no entry are passed over. -/
def live (p : Pointers) (m : Manifest) : List ManifestEntry := p.values.filterMap m.get?

def toJson (p : Pointers) : Json :=
  .obj [("pointers", Json.ofFields (p.entries.map fun e => (e.1.text, .str e.2)))]

def pairs? : Json → Option (List (LayerKey × String))
  | .obj fields => fields.mapM fun f => do
    return (← (LayerKey.parse f.1).toOption, ← Json.string? f.2)
  | _ => none

def ofJson? (j : Json) : Option Pointers := do
  let fields ← Json.recordFields? ["pointers"] j
  return OrderedMap.ofList (← fields.required? "pointers" pairs?)

end Pointers

end PageLayers
