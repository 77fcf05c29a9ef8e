import PageLayers.Page.Basic

/-! Why a patch does not apply. -/

namespace PageLayers

/-- What an incomplete patch lacks. -/
inductive Lacking where
  | payload
  | componentId
  | componentFields
  | sourceKind
  | actionKind
  deriving DecidableEq

inductive PatchError where
  | missingTarget (target : Target) (id : String)
  | incomplete (target : Target) (id : String) (lacking : Lacking)
  | payloadMismatch (target : Target) (id : String) (payload : Target)
  | duplicateComponent (id : String)
  deriving DecidableEq

def Lacking.message : Lacking → String
  | payload => "no payload"
  | componentId => "component payload without id"
  | componentFields => "new or replacing component needs `type` and `namespace`"
  | sourceKind => "replacing data source needs `kind`"
  | actionKind => "replacing action needs `kind`"

def PatchError.message : PatchError → String
  | missingTarget target id => s!"{target.text} `{id}` does not exist"
  | incomplete target id lacking => s!"{target.text} `{id}`: {lacking.message}"
  | payloadMismatch target id payload => s!"{target.text} `{id}`: payload is a {payload.text}"
  | duplicateComponent id => s!"component id `{id}` would appear twice"

end PageLayers
