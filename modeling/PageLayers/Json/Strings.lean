import PageLayers.Json.Value

/-! Going through all strings and fields of a JSON value. -/

namespace PageLayers.Json

mutual

/-- Changes all strings and names of fields. -/
def mapStrings (f : String → String) : Json → Json
  | str s => str (f s)
  | arr items => arr (mapStringsAll f items)
  | obj fields => obj (mapStringsFields f fields)
  | null => null
  | bool b => bool b
  | num n => num n

def mapStringsAll (f : String → String) : List Json → List Json
  | [] => []
  | j :: rest => mapStrings f j :: mapStringsAll f rest

def mapStringsFields (f : String → String) : List (String × Json) → List (String × Json)
  | [] => []
  | (k, j) :: rest => (f k, mapStrings f j) :: mapStringsFields f rest

end

mutual

/-- The strings of a value in the order in which they stand. -/
def allStrings : Json → List String
  | str s => [s]
  | arr items => allStringsOf items
  | obj fields => allStringsIn fields
  | _ => []

def allStringsOf : List Json → List String
  | [] => []
  | j :: rest => allStrings j ++ allStringsOf rest

def allStringsIn : List (String × Json) → List String
  | [] => []
  | (_, j) :: rest => allStrings j ++ allStringsIn rest

end

mutual

/-- Leaves out the fields of the given names at any depth. -/
def without (names : List String) : Json → Json
  | arr items => arr (withoutAll names items)
  | obj fields => obj (withoutFields names fields)
  | null => null
  | bool b => bool b
  | num n => num n
  | str s => str s

def withoutAll (names : List String) : List Json → List Json
  | [] => []
  | j :: rest => without names j :: withoutAll names rest

def withoutFields (names : List String) : List (String × Json) → List (String × Json)
  | [] => []
  | (k, j) :: rest =>
    if names.contains k then withoutFields names rest
    else (k, without names j) :: withoutFields names rest

end

end PageLayers.Json
