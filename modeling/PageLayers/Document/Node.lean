import PageLayers.Json.Decode
import PageLayers.Json.Text
import PageLayers.Text.Blank

/-! Authored documents: trees of tagged nodes with attributes. -/

namespace PageLayers

inductive Node where
  | mk (tag : String) (attrs : OrderedMap String Json) (children : List Node)

namespace Node

instance : Inhabited Node := ⟨mk "" ∅ []⟩

def tag : Node → String
  | mk tag _ _ => tag

def attrs : Node → OrderedMap String Json
  | mk _ attrs _ => attrs

def children : Node → List Node
  | mk _ _ children => children

/-- The value of the first of the names that is there. -/
def get? (n : Node) (names : List String) : Option Json := names.findSome? n.attrs.get?

/-- The text of a value: strings without the white space around them, blank ones not at all, and
numbers and truth values as they are written. -/
def attrText? : Json → Option String
  | .str s =>
    let trimmed := Text.trim s
    if trimmed.isEmpty then none else some trimmed
  | .num n => some (String.ofList n.chars)
  | .bool b => some (if b then "true" else "false")
  | _ => none

def getText? (n : Node) (names : List String) : Option String := (n.get? names).bind attrText?

def has (n : Node) (names : List String) : Bool := (n.get? names).isSome

mutual

def decEq : (a b : Node) → Decidable (a = b)
  | mk t as cs, mk u bs ds =>
    if ht : t = u then
      if ha : as = bs then
        match decEqAll cs ds with
        | isTrue h => isTrue (ht ▸ ha ▸ h ▸ rfl)
        | isFalse h => isFalse fun e => h (mk.inj e).2.2
      else isFalse fun e => ha (mk.inj e).2.1
    else isFalse fun e => ht (mk.inj e).1

def decEqAll : (a b : List Node) → Decidable (a = b)
  | [], [] => isTrue rfl
  | [], _ :: _ | _ :: _, [] => isFalse nofun
  | a :: as, b :: bs =>
    match decEq a b, decEqAll as bs with
    | isTrue h, isTrue h' => isTrue (h ▸ h' ▸ rfl)
    | isFalse h, _ => isFalse fun e => h (List.cons.inj e).1
    | _, isFalse h => isFalse fun e => h (List.cons.inj e).2

end

instance : DecidableEq Node := decEq

mutual

def toJson : Node → Json
  | mk tag attrs children =>
    .obj [("attrs", Json.ofMap id attrs), ("children", .arr (toJsonAll children)),
      ("tag", .str tag)]

def toJsonAll : List Node → List Json
  | [] => []
  | n :: rest => toJson n :: toJsonAll rest

end

/-- Attributes may be absent, but not null. -/
def attrsOf? (fields : Json.Fields) : Option (OrderedMap String Json) :=
  fields.defaulted? "attrs" ∅ (Json.map? Json.any?)

mutual

/-- Reads a node from an object, or from a list of its tag, attributes and children. -/
def ofJson? : Json → Option Node
  | .obj fields =>
    if Json.namedOnce ["tag", "attrs", "children"] fields then do
      return mk (← Json.Fields.required? fields "tag" Json.string?) (← attrsOf? fields)
        (← childrenOf? fields)
    else none
  | .arr [tag] => do return mk (← tag.asString?) ∅ []
  | .arr [tag, attrs] => do return mk (← tag.asString?) (← Json.map? Json.any? attrs) []
  | .arr [tag, attrs, .arr children] => do
    return mk (← tag.asString?) (← Json.map? Json.any? attrs) (← ofJsonAll? children)
  | _ => none

def childrenOf? : List (String × Json) → Option (List Node)
  | [] => some []
  | (k, j) :: rest =>
    if k = "children" then
      match j with
      | .arr items => ofJsonAll? items
      | _ => none
    else childrenOf? rest

def ofJsonAll? : List Json → Option (List Node)
  | [] => some []
  | j :: rest => do return (← ofJson? j) :: (← ofJsonAll? rest)

end

end Node

end PageLayers
