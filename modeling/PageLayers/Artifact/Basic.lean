import PageLayers.Page.Checksum
import PageLayers.Page.Decode
import PageLayers.Time.Timestamp

/-! Artifacts: compiled pages with what identifies them. -/

namespace PageLayers

def engineVersion : String := "1.0.0"

structure Artifact where
  layerKey : LayerKey
  page : Page
  checksum : String
  schemaVersion : String
  contentVersion : String
  engineVersion : String
  compiledAt : Timestamp
  contracts : ContractTable
  deriving DecidableEq

namespace Artifact

/-- The recorded checksum is that of the page. -/
def verify (a : Artifact) : Bool := a.page.checksum = a.checksum

def toJson (a : Artifact) : Json :=
  .obj [("checksum", .str a.checksum), ("compiledAt", .str a.compiledAt.text),
    ("contentVersion", .str a.contentVersion), ("contracts", a.contracts.toJson),
    ("engineVersion", .str a.engineVersion), ("ir", a.page.toJson),
    ("layerKey", a.layerKey.toJson), ("schemaVersion", .str a.schemaVersion)]

def ofJson? (j : Json) : Option Artifact := do
  let fields ← Json.recordFields? ["layerKey", "ir", "checksum", "schemaVersion", "contentVersion",
    "engineVersion", "compiledAt", "contracts"] j
  return ⟨← fields.required? "layerKey" LayerKey.ofJson?, ← fields.required? "ir" Page.ofJson?,
    ← fields.required? "checksum" Json.string?, ← fields.required? "schemaVersion" Json.string?,
    ← fields.required? "contentVersion" Json.string?,
    ← fields.required? "engineVersion" Json.string?,
    ← fields.required? "compiledAt" (Json.string? · >>= Timestamp.ofText?),
    ← fields.required? "contracts" ContractTable.ofJson?⟩

end Artifact

end PageLayers
