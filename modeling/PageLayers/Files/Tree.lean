import PageLayers.Files.Access
import PageLayers.Files.Path
import PageLayers.Ordered.Map

/-! A file system as a value: what stands at each place below the working directory. -/

namespace PageLayers

inductive FileNode where
  | file (text : String)
  | directory
  deriving DecidableEq

/-- Places are lists of names. The working directory has no entry of its own. -/
structure FileTree where
  nodes : OrderedMap (List String) FileNode
  deriving DecidableEq

namespace FileTree

def empty : FileTree := ⟨∅⟩

def node? (t : FileTree) : List String → Option FileNode
  | [] => some .directory
  | place => t.nodes.get? place

def at? (t : FileTree) (path : String) : Option FileNode := (FilePath.locate? path).bind t.node?

/-- Makes the directories on the way to a place; a file in the way is an error. -/
def makePlace (t : FileTree) (above : List String) : List String → Option FileTree
  | [] => some t
  | name :: rest =>
    let place := above ++ [name]
    match t.node? place with
    | some (.file _) => none
    | some .directory => makePlace t place rest
    | none => makePlace ⟨t.nodes.insert place .directory⟩ place rest

/-- Puts a file into a directory that is there, in place of an older file if need be. -/
def writePlace (t : FileTree) (place : List String) (text : String) : Option FileTree :=
  if t.node? place.dropLast = some .directory ∧ t.node? place ≠ some .directory then
    some ⟨t.nodes.insert place (.file text)⟩
  else none

def removePlace (t : FileTree) (place : List String) : FileTree := ⟨t.nodes.erase place⟩

/-- Puts a file in place, with the directories above it. -/
def put (t : FileTree) (path text : String) : FileTree :=
  match FilePath.locate? path with
  | none => t
  | some place =>
    let t := (t.makePlace [] place.dropLast).getD t
    (t.writePlace place text).getD t

/-- The names right below a place. -/
def childNames (t : FileTree) (place : List String) : List String :=
  t.nodes.keys.filterMap fun p => if p.dropLast = place then p.getLast? else none

/-- The places of all files. -/
def files (t : FileTree) : List (List String) :=
  t.nodes.entries.filterMap fun e =>
    match e.2 with
    | .file _ => some e.1
    | .directory => none

/-- A request that changes the tree, or fails and changes nothing. -/
def change (t : FileTree) (next : Option FileTree) : Option Unit × FileTree :=
  (next.map fun _ => (), next.getD t)

def answer : (c : FileCall) → FileTree → c.Result × FileTree
  | .read path, t =>
    match t.at? path with
    | some (.file text) => (some text, t)
    | _ => (none, t)
  | .has path, t => ((t.at? path).isSome, t)
  | .names dir, t =>
    match FilePath.locate? dir with
    | some place =>
      (if t.node? place = some .directory then some (t.childNames place) else none, t)
    | none => (none, t)
  | .makeDirectories path, t => t.change ((FilePath.locate? path).bind (t.makePlace []))
  | .write path text, t => t.change ((FilePath.locate? path).bind (t.writePlace · text))

/-- Runs a program on a tree. -/
def run {α : Type} (p : FileProgram α) (t : FileTree) : α × FileTree := p.runOn answer t

end FileTree

end PageLayers
