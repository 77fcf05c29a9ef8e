import PageLayers.Render.Source

/-! Collaborators that follow a script: for each address and each handler a list of replies, of
which the last stands for all later ones. -/

namespace PageLayers

structure ScriptedReplies where
  http : List (String × List Reply)
  services : List (String × List Reply)

/-- The error that a scripted reply names, if it names one; a status wins over all others. -/
def CollaboratorError.ofScript? (j : Json) : Option CollaboratorError :=
  let said (name : String) := (j.field? name).map fun v => v.asString?.getD ""
  let status := (j.field? "status").map fun code =>
    .status (code.asNat?.getD 0) ((said "message").getD "")
  status <|> (said "failed").map .failed <|> (said "unavailable").map .unavailable <|>
    (said "unknown_handler").map .unknownHandler

/-- A scripted reply hangs, fails or carries a value, and may come late. -/
def Reply.ofScript (j : Json) : Reply :=
  if (j.field? "hang").isSome then .never
  else
    let delay := ((j.field? "delay_ms").bind Json.asNat?).getD 0
    .after delay (match CollaboratorError.ofScript? j with
      | some e => .error e
      | none => .ok ((j.field? "value").getD .null))

namespace ScriptedReplies

/-- The lists of replies in an object, under the names of those who give them. -/
def listsOf : Json → List (String × List Reply)
  | .obj fields => fields.map fun f =>
    (f.1, match f.2 with
      | .arr items => items.map Reply.ofScript
      | _ => [])
  | _ => []

/-- The script in the fields `http` and `services` of an object. -/
def ofJson (j : Json) : ScriptedReplies :=
  let lists (name : String) := listsOf ((j.field? name).getD .null)
  ⟨lists "http", lists "services"⟩

end ScriptedReplies

/-- What has been asked so far, and the longest wait for a reply. -/
structure Rehearsal where
  replies : ScriptedReplies
  calls : List DataRequest
  longestWait : Nat

namespace Rehearsal

def start (replies : ScriptedReplies) : Rehearsal := ⟨replies, [], 0⟩

/-- Requests for one address, or to one handler, take their replies from one list. -/
def sameQueue : DataRequest → DataRequest → Bool
  | .http a, .http b => a.url = b.url
  | .service a _, .service b _ => a = b
  | _, _ => false

/-- What answers a request that the script does not know. The handler `echo` gives back its
arguments. -/
def unscripted : DataRequest → Reply
  | .http r => .after 0 (.error (.status 404 r.url))
  | .service handler args =>
    .after 0 (if handler = "echo" then .ok args else .error (.unknownHandler handler))

def scripted? (replies : ScriptedReplies) : DataRequest → Option (List Reply)
  | .http r => replies.http.lookup r.url
  | .service handler _ => replies.services.lookup handler

def reply (r : Rehearsal) (request : DataRequest) : Reply :=
  match scripted? r.replies request with
  | none => unscripted request
  | some list =>
    let asked := (r.calls.filter (sameQueue request)).length
    (list[min asked (list.length - 1)]?).getD (unscripted request)

/-- Waits for a reply as long as the source allows. -/
def await (config : EvaluatorConfig) (s : DataSource) (reply : Reply) (r : Rehearsal) :
    Reply × Rehearsal :=
  (reply, { r with longestWait := max r.longestWait (reply.wait (config.timeLimit s)) })

/-- Answers a source by the script; requests are noted in the order in which they are made. -/
def ask (config : EvaluatorConfig) (s : DataSource) : StateM Rehearsal Reply := fun r =>
  match s.origin.request? with
  | none => (.never, r)
  | some request =>
    await config s (r.reply request) { r with calls := r.calls ++ [request] }

/-- Answers a source where no collaborator is at hand. -/
def askOffline (s : DataSource) : StateM Rehearsal Reply := fun r =>
  match s.origin.request? with
  | none => (.never, r)
  | some request => (request.offlineReply, r)

end Rehearsal

end PageLayers
