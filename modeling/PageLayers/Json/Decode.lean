import PageLayers.Json.Value
import PageLayers.Ordered.Set
import PageLayers.Text.Digits

/-! Reading typed data from JSON values: records, lists, maps, sets and names of alternatives. -/

namespace PageLayers.Json

abbrev Fields := List (String × Json)

/-- Each of the names stands at most once among the fields. -/
def namedOnce (names : List String) (fields : Fields) : Bool :=
  names.all fun n => (fields.filter (·.1 = n)).length ≤ 1

/-- The fields of an object; a name that the record knows may not stand twice. -/
def objectFields? (names : List String) : Json → Option Fields
  | obj fields => if namedOnce names fields then some fields else none
  | _ => none

/-- The fields of a record, written as an object or as a list in the order of the names. A list may
leave out fields at its end. -/
def recordFields? (names : List String) : Json → Option Fields
  | arr items => if items.length ≤ names.length then some (names.zip items) else none
  | j => objectFields? names j

namespace Fields

variable {α : Type}

def required? (fields : Fields) (name : String) (decode : Json → Option α) : Option α :=
  (fields.lookup name).bind decode

/-- A field that may be absent. -/
def defaulted? (fields : Fields) (name : String) (fallback : α) (decode : Json → Option α) :
    Option α :=
  match fields.lookup name with
  | some j => decode j
  | none => some fallback

/-- A field that may be absent or null. -/
def optional? (fields : Fields) (name : String) (decode : Json → Option α) : Option (Option α) :=
  match fields.lookup name with
  | none | some null => some none
  | some j => (decode j).map some

end Fields

def string? : Json → Option String := asString?

def bool? : Json → Option Bool
  | bool b => some b
  | _ => none

/-- A whole number that fits in sixty-four bits. -/
def word? (j : Json) : Option Nat :=
  (asNat? j).bind fun n => if n < Text.wordLimit then some n else none

def any? (j : Json) : Option Json := some (canonical j)

def list? {α : Type} (decode : Json → Option α) : Json → Option (List α)
  | arr items => items.mapM decode
  | _ => none

def map? {α : Type} (decode : Json → Option α) : Json → Option (OrderedMap String α)
  | obj fields => (fields.mapM fun f => (decode f.2).map (f.1, ·)).map OrderedMap.ofList
  | _ => none

def set? (j : Json) : Option (OrderedSet String) := (list? string? j).map OrderedSet.ofList

/-- The name of an alternative that carries no data: a string, or an object with null under it. -/
def alternative? : Json → Option String
  | str s => some s
  | obj [(name, null)] => some name
  | _ => none

/-- The name of an alternative where it stands among the fields of a record: it may also be given by
its place among the names. -/
def tag? (names : List String) : Json → Option String
  | str s => if names.contains s then some s else none
  | num (.int (.ofNat i)) => names[i]?
  | _ => none

/-- A value that says which alternative it is, as that name and the value itself: the name stands
among the fields of an object, or at the start of a list. -/
def tagged? (tag : String) : Json → Option (String × Json)
  | arr (str name :: items) => some (name, arr items)
  | j => do
    let fields ← objectFields? [tag] j
    return (← fields.required? tag string?, j)

/-- An alternative that carries no data. -/
def nothing? : Json → Option Unit
  | arr (_ :: _) => none
  | _ => some ()

def ofMap {α : Type} (encode : α → Json) (m : OrderedMap String α) : Json :=
  obj (m.entries.map fun e => (e.1, encode e.2))

def ofSet (s : OrderedSet String) : Json := strings s.members

end PageLayers.Json
