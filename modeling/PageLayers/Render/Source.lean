import PageLayers.Render.Model

/-! The data sources of a page: what is asked of collaborators, and what becomes of each source. -/

namespace PageLayers

/-- What a collaborator is asked for. -/
inductive DataRequest where
  | http (request : HttpRequest)
  | service (handler : String) (args : Json)
  deriving DecidableEq

/-- Static data is not asked for. -/
def Origin.request? : Origin → Option DataRequest
  | static _ => none
  | http request => some (.http request)
  | service handler args _ => some (.service handler args)

/-- An answer and the milliseconds it takes, or no answer ever. -/
inductive Reply where
  | after (delay : Nat) (result : Except CollaboratorError Json)
  | never

/-- What became of a source that a page reads. -/
inductive SourceResult where
  | ready (data : Json)
  | denied
  | failed (fault : SourceFault)
  | timedOut (afterMs : Nat)
  deriving DecidableEq

namespace SourceResult

def error? (id : String) : SourceResult → Option EvaluationError
  | ready _ => none
  | denied => none
  | failed fault => some (.sourceFailed id fault)
  | timedOut afterMs => some (.timeout id afterMs)

def status (id : String) : SourceResult → SourceStatus
  | ready _ => .ready
  | denied => .denied
  | failed fault => .failed (EvaluationError.sourceFailed id fault).message
  | timedOut afterMs => .timedOut afterMs

end SourceResult

namespace Reply

/-- An answer that takes no longer than the limit arrives. -/
def arrives (limit : Nat) : Reply → Bool
  | after delay _ => delay ≤ limit
  | never => false

def settle (limit : Nat) : Reply → SourceResult
  | after delay result =>
    if delay ≤ limit then
      match result with
      | .ok data => .ready data
      | .error e => .failed (.collaborator e)
    else .timedOut limit
  | never => .timedOut limit

/-- How long a reply is waited for. -/
def wait (limit : Nat) : Reply → Nat
  | after delay _ => min delay limit
  | never => limit

end Reply

structure EvaluatorConfig where
  sourceTimeoutMs : Nat
  gasLimit : Nat
  deriving DecidableEq

namespace EvaluatorConfig

def default : EvaluatorConfig := ⟨5000, 10000⟩

/-- A source may set a time limit of its own. -/
def timeLimit (config : EvaluatorConfig) (s : DataSource) : Nat :=
  s.origin.timeout?.getD config.sourceTimeoutMs

end EvaluatorConfig

/-- What becomes of a source that the viewer may read. -/
def DataSource.load {m : Type → Type} [Monad m] (config : EvaluatorConfig)
    (ask : DataSource → m Reply) (s : DataSource) : m SourceResult :=
  match s.origin with
  | .static data => pure (.ready data)
  | _ => do return (← ask s).settle (config.timeLimit s)

/-- What becomes of the source of an id; only sources that are declared and that the viewer may read
are loaded. -/
def Page.loadSource {m : Type → Type} [Monad m] (config : EvaluatorConfig)
    (ask : DataSource → m Reply) (viewer : Viewer) (p : Page) (id : String) : m SourceResult :=
  match p.dataSource? id with
  | none => pure (.failed .undeclared)
  | some s => if viewer.sees s.access then s.load config ask else pure .denied

/-- Answers where no collaborator is at hand. -/
def DataRequest.offlineReply : DataRequest → Reply
  | http request => .after 0 (.error (.unavailable s!"no http client for {request.url}"))
  | service handler _ => .after 0 (.error (.unknownHandler handler))

/-- A collaborator of requests as one of sources; sources with static data need none. -/
def DataSource.askWith {m : Type → Type} [Monad m] (collaborator : DataRequest → m Reply)
    (s : DataSource) : m Reply :=
  match s.origin.request? with
  | some request => collaborator request
  | none => pure .never

end PageLayers
