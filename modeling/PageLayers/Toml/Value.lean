import PageLayers.Json.Value

/-! Settings as tables of named values, and the rules by which lines of a settings file add to them:
nothing is defined twice, and a table is opened again only where it was not written as such. -/

namespace PageLayers

/-- How a table came to be: by its own header, by standing above the table of a header, or by a
dotted key. -/
inductive TableForm where
  | written
  | implied
  | dotted
  deriving DecidableEq

/-- Points in time are known to be well formed, and no more. A braced table is a value and is never
opened again; `tables` are those of headers in double brackets. -/
inductive Toml where
  | string (s : String)
  | integer (i : Int)
  | float (x : Float)
  | boolean (b : Bool)
  | moment
  | array (items : List Toml)
  | braced (entries : List (String × Toml))
  | table (form : TableForm) (entries : List (String × Toml))
  | tables (items : List (List (String × Toml)))

namespace Toml

instance : Inhabited Toml := ⟨moment⟩

abbrev Entries := List (String × Toml)

/-- Changes the value of a key, or gives one to a key without. -/
def update (key : String) (f : Option Toml → Option Toml) : Entries → Option Entries
  | [] => (f none).map fun v => [(key, v)]
  | (k, v) :: rest =>
    if k = key then (f (some v)).map fun v => (k, v) :: rest
    else (update key f rest).map ((k, v) :: ·)

/-- The same for the last of a list. -/
def updateLast {α : Type} (f : α → Option α) : List α → Option (List α)
  | [] => none
  | [a] => (f a).map ([·])
  | a :: rest => (updateLast f rest).map (a :: ·)

/-- Works inside a table, which is made in the given form where it is missing. A dotted key does not
reach into a table that was written by a header. -/
def inside (form : TableForm) (f : TableForm → Entries → Option Entries) :
    Option Toml → Option Toml
  | none => (f form []).map (table form)
  | some (table found entries) =>
    if form = .dotted ∧ found = .written then none else (f found entries).map (table found)
  | some (tables items) => (updateLast (f .written) items).map tables
  | some _ => none

/-- Works at the end of a path of tables. -/
def atPath (form : TableForm) (f : TableForm → Entries → Option Entries) :
    List String → TableForm → Entries → Option Entries
  | [], found, entries => f found entries
  | key :: path, _, entries => update key (inside form (atPath form f path)) entries

def define (value : Toml) : Option Toml → Option Toml
  | none => some value
  | some _ => none

/-- Adds a pair under a dotted key. Only tables that such keys have made take pairs in this way. -/
def addPair (path : List String) (key : String) (value : Toml) : Entries → Option Entries :=
  atPath .dotted (fun form entries =>
    if path ≠ [] ∧ form ≠ .dotted then none else update key (define value) entries) path .written

/-- A header opens a table that is new or only implied so far. -/
def openTable : Option Toml → Option Toml
  | none => some (table .written [])
  | some (table .implied entries) => some (table .written entries)
  | some _ => none

/-- A header in double brackets starts a further table. -/
def openItem : Option Toml → Option Toml
  | none => some (tables [[]])
  | some (tables items) => some (tables (items ++ [[]]))
  | some _ => none

def addHeader (start : Option Toml → Option Toml) (path : List String) (key : String) :
    Entries → Option Entries :=
  atPath .implied (fun _ => update key start) path .written

/-- Adds a pair to the table of the last header. -/
def addToTable (header path : List String) (key : String) (value : Toml) :
    Entries → Option Entries :=
  atPath .implied (fun _ => addPair path key value) header .written

mutual

/-- The same data as JSON. A point in time counts as an object without fields. -/
def toJson : Toml → Json
  | string s => .str s
  | integer i => .num (.int i)
  | float x => .num (.float x)
  | boolean b => .bool b
  | moment => .obj []
  | array items => .arr (toJsonAll items)
  | braced entries => .obj (fieldsJson entries)
  | table _ entries => .obj (fieldsJson entries)
  | tables items => .arr (tablesJson items)

def toJsonAll : List Toml → List Json
  | [] => []
  | v :: rest => toJson v :: toJsonAll rest

def fieldsJson : List (String × Toml) → List (String × Json)
  | [] => []
  | (k, v) :: rest => (k, toJson v) :: fieldsJson rest

def tablesJson : List (List (String × Toml)) → List Json
  | [] => []
  | entries :: rest => .obj (fieldsJson entries) :: tablesJson rest

end

end Toml

end PageLayers
