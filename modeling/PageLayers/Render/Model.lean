import PageLayers.Expression.Error
import PageLayers.Page.Basic

/-! Rendered pages: the visible part of a page with a value, or the reason for none, in every
property. -/

namespace PageLayers

/-- Why a collaborator has no data. -/
inductive CollaboratorError where
  | unavailable (reason : String)
  | status (code : Nat) (message : String)
  | unknownHandler (handler : String)
  | failed (message : String)
  deriving DecidableEq

def CollaboratorError.message : CollaboratorError → String
  | unavailable reason => s!"collaborator unavailable: {reason}"
  | status code message => s!"status {code}: {message}"
  | unknownHandler handler => s!"unknown service handler `{handler}`"
  | failed message => message

/-- Of causes that a rendered page was read with only the wording is known, here and below. -/
inductive SourceFault where
  | undeclared
  | collaborator (error : CollaboratorError)
  | worded (text : String)
  deriving DecidableEq

def SourceFault.message : SourceFault → String
  | undeclared => "not declared"
  | collaborator error => error.message
  | worded text => text

inductive ExpressionFault where
  | evaluation (error : ExpressionError)
  | worded (text : String)
  deriving DecidableEq

def ExpressionFault.message : ExpressionFault → String
  | evaluation error => error.message
  | worded text => text

/-- What went wrong in one place of a page while the rest was rendered. -/
inductive EvaluationError where
  | timeout (source : String) (afterMs : Nat)
  | sourceFailed (source : String) (fault : SourceFault)
  | expression (node prop : String) (fault : ExpressionFault)
  deriving DecidableEq

def EvaluationError.message : EvaluationError → String
  | timeout source afterMs => s!"data source `{source}` timed out after {afterMs}ms"
  | sourceFailed source fault => s!"data source `{source}` failed: {fault.message}"
  | expression node prop fault => s!"{node}.{prop}: {fault.message}"

/-- Why a property has no value. -/
inductive Unavailable where
  | noContractField (source : String)
  | missingField (path : String)
  | accessDenied
  | sourceError (error : EvaluationError)
  | notLoaded (source : String)
  | hiddenAction (id : String)
  | readsUnavailable (name : String)
  | worded (text : String)
  deriving DecidableEq

def Unavailable.message : Unavailable → String
  | noContractField source => s!"no contract field `{source}`"
  | missingField path => s!"field `{path}` missing"
  | accessDenied => "access denied"
  | sourceError error => error.message
  | notLoaded source => s!"data source `{source}` not loaded"
  | hiddenAction id => s!"action `{id}` not available"
  | readsUnavailable name => s!"reads unavailable `{name}`"
  | worded text => text

inductive RenderValue where
  | ready (value : Json)
  | unavailable (reason : Unavailable)
  | error (fault : ExpressionFault)
  | action (id : String)
  deriving DecidableEq

namespace RenderValue

def value? : RenderValue → Option Json
  | ready value => some value
  | _ => none

def isUnavailable : RenderValue → Bool
  | unavailable _ => true
  | _ => false

end RenderValue

structure RenderProperty where
  name : String
  value : RenderValue
  deriving DecidableEq

structure RenderComponent where
  id : String
  typeName : String
  space : String
  version : Option String
  props : List RenderProperty
  deriving DecidableEq

structure RenderRegion where
  id : String
  components : List RenderComponent
  deriving DecidableEq

/-- An action as it would be run; rendering runs none. -/
structure RenderAction where
  id : String
  kind : String
  config : List RenderProperty
  deriving DecidableEq

inductive SourceStatus where
  | ready
  | denied
  | failed (message : String)
  | timedOut (afterMs : Nat)
  deriving DecidableEq

/-- A rendered page is degraded when its overlays were left out. -/
structure RenderModel where
  pageId : Option String
  moduleName : String
  route : String
  fingerprint : String
  regions : List RenderRegion
  actions : List RenderAction
  constants : OrderedMap String Json
  sources : OrderedMap String SourceStatus
  errors : List EvaluationError
  degraded : Bool
  deriving DecidableEq

namespace RenderModel

def components (m : RenderModel) : List RenderComponent := m.regions.flatMap RenderRegion.components

def region? (m : RenderModel) (id : String) : Option RenderRegion := m.regions.find? (·.id = id)

def component? (m : RenderModel) (id : String) : Option RenderComponent :=
  m.components.find? (·.id = id)

def action? (m : RenderModel) (id : String) : Option RenderAction := m.actions.find? (·.id = id)

/-- The first property of a name in the first component of an id. -/
def property? (m : RenderModel) (component name : String) : Option RenderValue :=
  (m.component? component).bind fun c => (c.props.find? (·.name = name)).map RenderProperty.value

/-- Some data source failed or took too long. -/
def hasSourceFailures (m : RenderModel) : Bool :=
  m.errors.any fun
    | .expression .. => false
    | _ => true

end RenderModel

end PageLayers
