import PageLayers.Ordered.Map
import PageLayers.Decimal.Dyadic

/-! JSON values; whole numbers and floating numbers are different values. -/

namespace PageLayers

inductive Number where
  | int (i : Int)
  | float (x : Float)
  deriving DecidableEq

/-- An object holds its fields as a list. Values that are read or built here have them in ascending
order of the names, each name once. -/
inductive Json where
  | null
  | bool (b : Bool)
  | num (n : Number)
  | str (s : String)
  | arr (items : List Json)
  | obj (fields : List (String × Json))

namespace Number

def toFloat : Number → Float
  | int i => Float.ofInt i
  | float x => x

/-- Two floats are the same value when they compare as equal, so the two zeros are. -/
def same : Number → Number → Bool
  | int i, int j => i == j
  | float x, float y => x == y
  | _, _ => false

end Number

namespace Json

instance : Inhabited Json := ⟨null⟩

mutual

def decEq : (a b : Json) → Decidable (a = b)
  | null, null => isTrue rfl
  | bool a, bool b => if h : a = b then isTrue (h ▸ rfl) else isFalse fun e => h (bool.inj e)
  | num a, num b => if h : a = b then isTrue (h ▸ rfl) else isFalse fun e => h (num.inj e)
  | str a, str b => if h : a = b then isTrue (h ▸ rfl) else isFalse fun e => h (str.inj e)
  | arr a, arr b =>
    match decEqItems a b with
    | isTrue h => isTrue (h ▸ rfl)
    | isFalse h => isFalse fun e => h (arr.inj e)
  | obj a, obj b =>
    match decEqFields a b with
    | isTrue h => isTrue (h ▸ rfl)
    | isFalse h => isFalse fun e => h (obj.inj e)
  | null, bool _ | null, num _ | null, str _ | null, arr _ | null, obj _
  | bool _, null | bool _, num _ | bool _, str _ | bool _, arr _ | bool _, obj _
  | num _, null | num _, bool _ | num _, str _ | num _, arr _ | num _, obj _
  | str _, null | str _, bool _ | str _, num _ | str _, arr _ | str _, obj _
  | arr _, null | arr _, bool _ | arr _, num _ | arr _, str _ | arr _, obj _
  | obj _, null | obj _, bool _ | obj _, num _ | obj _, str _ | obj _, arr _ => isFalse nofun

def decEqItems : (a b : List Json) → Decidable (a = b)
  | [], [] => isTrue rfl
  | [], _ :: _ | _ :: _, [] => isFalse nofun
  | a :: as, b :: bs =>
    match decEq a b, decEqItems as bs with
    | isTrue h, isTrue h' => isTrue (h ▸ h' ▸ rfl)
    | isFalse h, _ => isFalse fun e => h (List.cons.inj e).1
    | _, isFalse h => isFalse fun e => h (List.cons.inj e).2

def decEqFields : (a b : List (String × Json)) → Decidable (a = b)
  | [], [] => isTrue rfl
  | [], _ :: _ | _ :: _, [] => isFalse nofun
  | (k, a) :: as, (l, b) :: bs =>
    if hk : k = l then
      match decEq a b, decEqFields as bs with
      | isTrue h, isTrue h' => isTrue (hk ▸ h ▸ h' ▸ rfl)
      | isFalse h, _ => isFalse fun e => h (Prod.mk.inj (List.cons.inj e).1).2
      | _, isFalse h => isFalse fun e => h (List.cons.inj e).2
    else isFalse fun e => hk (Prod.mk.inj (List.cons.inj e).1).1

end

instance : DecidableEq Json := decEq

mutual

/-- Equality of values, with numbers compared as `Number.same` does. -/
def same : Json → Json → Bool
  | null, null => true
  | bool a, bool b => a == b
  | num a, num b => a.same b
  | str a, str b => a == b
  | arr a, arr b => sameItems a b
  | obj a, obj b => sameFields a b
  | _, _ => false

def sameItems : List Json → List Json → Bool
  | [], [] => true
  | a :: as, b :: bs => same a b && sameItems as bs
  | _, _ => false

def sameFields : List (String × Json) → List (String × Json) → Bool
  | [], [] => true
  | (k, a) :: as, (l, b) :: bs => k == l && same a b && sameFields as bs
  | _, _ => false

end

def isNull : Json → Bool
  | null => true
  | _ => false

def field? (name : String) : Json → Option Json
  | obj fields => fields.lookup name
  | _ => none

/-- The numbers as doubles; no other value is a number. -/
def asFloat? : Json → Option Float
  | num n => some n.toFloat
  | _ => none

def asString? : Json → Option String
  | str s => some s
  | _ => none

/-- Whole numbers that are not negative. -/
def asNat? : Json → Option Nat
  | num (.int (.ofNat n)) => some n
  | _ => none

def ofNat (n : Nat) : Json := num (.int n)

def strings (l : List String) : Json := arr (l.map str)

/-- An object of the given fields in order of their names; of two fields of one name the later
stays. -/
def ofFields (fields : List (String × Json)) : Json := obj (OrderedMap.ofList fields).entries

/-- An object of those of the given fields that are present, in the order given. -/
def present (fields : List (String × Option Json)) : Json :=
  obj (fields.filterMap fun f => f.2.map (f.1, ·))

mutual

/-- Puts the fields of every object in ascending order; of fields of one name the last stays. -/
def canonical : Json → Json
  | arr items => arr (canonicalItems items)
  | obj fields => obj (canonicalFields fields)
  | null => null
  | bool b => bool b
  | num n => num n
  | str s => str s

def canonicalItems : List Json → List Json
  | [] => []
  | j :: rest => canonical j :: canonicalItems rest

def canonicalFields : List (String × Json) → List (String × Json)
  | [] => []
  | (k, j) :: rest =>
    let later := canonicalFields rest
    if (OrderedMap.lookupEntry k later).isSome then later
    else OrderedMap.insertEntry k (canonical j) later

end

end Json

end PageLayers
