import PageLayers.Json.Decode

/-! What is reported about a document: a reason, the node it is about, and a message. -/

namespace PageLayers

inductive Reason where
  | unknownTag
  | missingAttribute
  | unknownKind
  | invalidValue
  | malformedNode
  | missingPageId
  | duplicateId
  | missingScope
  | unexpectedScope
  | unknownDataSource
  | unknownContractField
  | unresolvedPath
  | unknownAction
  | unusedDataSource
  | missingBlueprint
  | blueprintMismatch
  | missingOverlayTarget
  | incompletePatch
  | invalidSemver
  | versionRegression
  | versionNotBumped
  | emptyRoleList
  | ambiguousRole
  | invalidExpression
  | unknownIdentifier
  deriving DecidableEq

namespace Reason

def text : Reason → String
  | unknownTag => "unknown_tag"
  | missingAttribute => "missing_attribute"
  | unknownKind => "unknown_kind"
  | invalidValue => "invalid_value"
  | malformedNode => "malformed_node"
  | missingPageId => "missing_page_id"
  | duplicateId => "duplicate_id"
  | missingScope => "missing_scope"
  | unexpectedScope => "unexpected_scope"
  | unknownDataSource => "unknown_data_source"
  | unknownContractField => "unknown_contract_field"
  | unresolvedPath => "unresolved_path"
  | unknownAction => "unknown_action"
  | unusedDataSource => "unused_data_source"
  | missingBlueprint => "missing_blueprint"
  | blueprintMismatch => "blueprint_mismatch"
  | missingOverlayTarget => "missing_overlay_target"
  | incompletePatch => "incomplete_patch"
  | invalidSemver => "invalid_semver"
  | versionRegression => "version_regression"
  | versionNotBumped => "version_not_bumped"
  | emptyRoleList => "empty_role_list"
  | ambiguousRole => "ambiguous_role"
  | invalidExpression => "invalid_expression"
  | unknownIdentifier => "unknown_identifier"

def all : List Reason :=
  [unknownTag, missingAttribute, unknownKind, invalidValue, malformedNode, missingPageId,
   duplicateId, missingScope, unexpectedScope, unknownDataSource, unknownContractField,
   unresolvedPath, unknownAction, unusedDataSource, missingBlueprint, blueprintMismatch,
   missingOverlayTarget, incompletePatch, invalidSemver, versionRegression, versionNotBumped,
   emptyRoleList, ambiguousRole, invalidExpression, unknownIdentifier]

def ofText? (s : String) : Option Reason := all.find? fun r => r.text = s

end Reason

/-- A report without a node is about the page. -/
structure Diagnostic where
  reason : Reason
  node : Option String
  message : String
  deriving DecidableEq

namespace Diagnostic

def display (d : Diagnostic) : String :=
  "[" ++ d.reason.text ++ "] " ++ d.node.getD "<page>" ++ ": " ++ d.message

def displayAll (l : List Diagnostic) : String :=
  toString l.length ++ " compile error(s): " ++ "; ".intercalate (l.map display)

def toJson (d : Diagnostic) : Json :=
  .obj [("code", .str d.reason.text), ("message", .str d.message),
    ("node_id", (d.node.map Json.str).getD .null)]

def ofJson? (j : Json) : Option Diagnostic := do
  let fields ← Json.recordFields? ["code", "node_id", "message"] j
  return ⟨← fields.required? "code" (Json.alternative? · >>= Reason.ofText?),
    ← fields.optional? "node_id" Json.string?, ← fields.required? "message" Json.string?⟩

end Diagnostic

end PageLayers
