import PageLayers.Json.Decode
import PageLayers.Render.Source
import PageLayers.Toml.Reader

/-! The settings of an engine. Each has a default, and settings that are not known are passed
over. -/

namespace PageLayers

/-- Without an interval, or with one of zero seconds, nothing is refreshed by itself. -/
structure EngineConfig where
  storeRoot : String
  refreshIntervalSecs : Option Nat
  evaluator : EvaluatorConfig
  cacheCapacity : Nat
  deriving DecidableEq

/-- Gives the settings of a section by name. -/
abbrev SectionReader := List String → Json → Option Json.Fields

/-- The settings of a section, which may also stand in a list in the order of the names; what a
longer list holds beyond them is passed over. -/
def leadingFields? : SectionReader
  | names, .arr items => some (names.zip items)
  | names, j => Json.objectFields? names j

def EvaluatorConfig.read? (section? : SectionReader) (j : Json) : Option EvaluatorConfig := do
  let fields ← section? ["data_source_timeout_ms", "expression_gas_limit"] j
  return ⟨← fields.defaulted? "data_source_timeout_ms" default.sourceTimeoutMs Json.word?,
    ← fields.defaulted? "expression_gas_limit" default.gasLimit Json.word?⟩

def EvaluatorConfig.ofJson? : Json → Option EvaluatorConfig := read? Json.recordFields?

namespace EngineConfig

def default : EngineConfig := ⟨"pagestack-store", none, .default, 256⟩

def read? (section? : SectionReader) (j : Json) : Option EngineConfig := do
  let one {α : Type} (name : String) (fallback : α)
      (decode : Json.Fields → String → α → Option α) (j : Json) : Option α := do
    decode (← section? [name] j) name fallback
  let sections ← section? ["store", "registry", "evaluator", "cache"] j
  return ⟨
    ← sections.defaulted? "store" default.storeRoot
      (one "root" default.storeRoot fun fields name fallback =>
        fields.defaulted? name fallback Json.string?),
    ← sections.defaulted? "registry" none
      (one "refresh_interval_secs" none fun fields name _ => fields.optional? name Json.word?),
    ← sections.defaulted? "evaluator" .default (EvaluatorConfig.read? section?),
    ← sections.defaulted? "cache" default.cacheCapacity
      (one "capacity" default.cacheCapacity fun fields name fallback =>
        fields.defaulted? name fallback Json.word?)⟩

def ofJson? : Json → Option EngineConfig := read? Json.recordFields?

/-- Reads the text of a settings file. -/
def ofText? (text : String) : Option EngineConfig :=
  (Toml.parse? text).bind fun entries => read? leadingFields? (.obj (Toml.fieldsJson entries))

def refreshMs? (config : EngineConfig) : Option Nat :=
  config.refreshIntervalSecs.bind fun secs => if secs = 0 then none else some (secs * 1000)

def toJson (config : EngineConfig) : Json :=
  .obj [("cache", .obj [("capacity", .ofNat config.cacheCapacity)]),
    ("evaluator", .obj [("data_source_timeout_ms", .ofNat config.evaluator.sourceTimeoutMs),
      ("expression_gas_limit", .ofNat config.evaluator.gasLimit)]),
    ("registry", .obj [("refresh_interval_secs",
      (config.refreshIntervalSecs.map Json.ofNat).getD .null)]),
    ("store", .obj [("root", .str config.storeRoot)])]

end EngineConfig

end PageLayers
