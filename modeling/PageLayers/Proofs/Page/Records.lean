import PageLayers.Page.Decode
import PageLayers.Page.Encode
import PageLayers.Proofs.Json.Fields

/-! The JSON forms of sources, payloads and pages as records: the fields they have. -/

namespace PageLayers

open Json

theorem Origin.record_toJson (o : Origin) : Record o.toJson := by
  cases o with
  | service => exact record_present (by simp)
  | _ => exact ⟨_, rfl, by simp⟩

theorem DataSource.record_toJson (s : DataSource) : Record s.toJson := by
  obtain ⟨id, origin, contract, access⟩ := s
  cases origin <;> exact record_present (by simp)

/-- The record of a source holds all fields of its origin. -/
theorem DataSource.field?_toJson (s : DataSource) :
    ∀ name ∈ Origin.fieldNames, s.toJson.field? name = s.origin.toJson.field? name := by
  obtain ⟨id, origin, contract, access⟩ := s
  cases origin <;> simp [Origin.fieldNames, toJson, Origin.toJson, List.lookup_cons]

theorem DataSource.ownField?_toJson (s : DataSource) :
    s.toJson.field? "id" = some (.str s.id) ∧
    s.toJson.field? "contract" = textMap? s.contract ∧
    s.toJson.field? "access" = s.access.map AccessRule.toJson := by
  obtain ⟨id, origin, contract, access⟩ := s
  cases origin <;> simp [toJson]

theorem Payload.record_toJson (p : Payload) : Record p.toJson := by
  cases p with
  | region => exact ⟨_, rfl, by simp⟩
  | _ => exact record_present (by simp)

theorem Payload.node_toJson (p : Payload) :
    p.toJson.field? "node" = some (.str p.target.text) := by
  cases p <;> simp [toJson, ComponentPatch.toJson, optionalJson?, List.lookup_cons]

theorem Page.record_toJson (p : Page) : Record p.toJson := record_present (by simp)

/-- The fields of a page's record, in the order in which they are read. -/
theorem Page.field?_toJson (p : Page) :
    p.toJson.field? "kind" = some (.str p.kind.text) ∧
    p.toJson.field? "schemaVersion" = some (.str p.schemaVersion) ∧
    p.toJson.field? "contentVersion" = some (.str p.contentVersion) ∧
    p.toJson.field? "module" = some (.str p.moduleName) ∧
    p.toJson.field? "route" = some (.str p.route) ∧
    p.toJson.field? "scope" = some p.scope.toJson ∧
    p.toJson.field? "pageId" = optionalJson? p.pageId ∧
    p.toJson.field? "extends" = optionalJson? p.extendsId ∧
    p.toJson.field? "regions" = some (.arr (p.regions.map Region.toJson)) ∧
    p.toJson.field? "dataSources" = some (.arr (p.dataSources.map DataSource.toJson)) ∧
    p.toJson.field? "actions" = some (.arr (p.actions.map Action.toJson)) ∧
    p.toJson.field? "constants" = some (ofMap id p.constants) ∧
    p.toJson.field? "patches" = some (.arr (p.patches.map Patch.toJson)) := by
  simp [toJson]

end PageLayers
