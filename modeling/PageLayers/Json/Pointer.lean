import PageLayers.Json.Value
import PageLayers.Text.Split
import PageLayers.Text.Digits

/-! Pointers to places in JSON values: names and positions behind slashes. -/

namespace PageLayers.Json

/-- The name that a token stands for; a tilde is written `~0` and a slash `~1`. -/
def tokenChars : List Char → List Char
  | '~' :: '0' :: rest => '~' :: tokenChars rest
  | '~' :: '1' :: rest => '/' :: tokenChars rest
  | c :: rest => c :: tokenChars rest
  | [] => []

/-- A position has no zeros before its first digit. -/
def position? (token : String) : Option Nat :=
  let cs := token.toList
  if cs.isEmpty ∨ !cs.all Char.isDigit ∨ (cs.head? = some '0' ∧ cs.length ≠ 1) then none
  else some (Text.number cs)

/-- Overwrites the place at the end of a path; where no such place is, nothing changes. -/
def overwrite (value : Json) : List String → Json → Json
  | [], _ => value
  | token :: rest, obj fields =>
    obj (fields.map fun f => if f.1 = token then (f.1, overwrite value rest f.2) else f)
  | token :: rest, arr items =>
    match position? token with
    | some i => arr (items.modify i (overwrite value rest))
    | none => arr items
  | _, j => j

/-- The same for a written pointer; one that is not empty starts with a slash. -/
def overwriteAt (pointer : String) (value j : Json) : Json :=
  match Text.splitAll '/' pointer.toList with
  | [[]] => value
  | [] :: tokens => overwrite value (tokens.map fun t => String.ofList (tokenChars t)) j
  | _ => j

end PageLayers.Json
