import PageLayers.Document.Node
import PageLayers.Document.Diagnostic

/-! Reading goes on after a fault: a step yields a value together with what it reports. -/

namespace PageLayers

structure Read (α : Type) where
  value : α
  reports : List Diagnostic

namespace Read

variable {α β : Type}

instance : Monad Read where
  pure a := ⟨a, []⟩
  bind r f :=
    let next := f r.value
    ⟨next.value, r.reports ++ next.reports⟩

def report (reason : Reason) (node : Option String) (message : String) : Read Unit :=
  ⟨(), [⟨reason, node, message⟩]⟩

/-- Reports a fault in place of a value. -/
def reject (reason : Reason) (node : Option String) (message : String) : Read (Option α) :=
  ⟨none, [⟨reason, node, message⟩]⟩

/-- The values that can be read, in order. -/
def collect (f : α → Read (Option β)) : List α → Read (List β)
  | [] => pure []
  | a :: rest => do
    let b ← f a
    let more ← collect f rest
    return b.toList ++ more

end Read

namespace Authoring

def angle (tag : String) : String := "<" ++ tag ++ ">"

def tick (s : String) : String := "`" ++ s ++ "`"

/-- An attribute that must be there, under the first of its names in the report. -/
def require (n : Node) (name : String) (others : List String) (owner : Option String) :
    Read (Option String) :=
  match n.getText? (name :: others) with
  | some s => return some s
  | none =>
    Read.reject .missingAttribute owner (angle n.tag ++ " requires " ++ tick name)

/-- An attribute that ends up in a layer key or an id, where bars and a lone star have a meaning. -/
def keyPart (n : Node) (name : String) (others : List String) (owner : Option String) :
    Read (Option String) :=
  match n.getText? (name :: others) with
  | none => return none
  | some s => do
    if s.toList.contains '|' then
      Read.report .invalidValue owner (tick name ++ " must not contain `|`")
    else if s = "*" then
      Read.report .invalidValue owner (tick name ++ " must not be `*`")
    return some s

/-- An id that must be there. -/
def requireId (n : Node) : Read (Option String) := do
  match ← keyPart n "id" [] none with
  | some id => return some id
  | none => require n "id" [] none

end Authoring

end PageLayers
