import PageLayers.Text.Split

/-! Paths of files as texts: their parts between slashes, joining, and the ending of a name. -/

namespace PageLayers.FilePath

/-- A second path after a first; no slash is added to an empty path or behind one that is there. -/
def join (dir name : String) : String :=
  if dir.isEmpty then name
  else if dir.toList.getLast? = some '/' then dir ++ name
  else dir ++ "/" ++ name

/-- Takes a part in: a point stands for the directory itself, two for the one above. -/
def step (dir : List String) (part : String) : List String :=
  if part = "" ∨ part = "." then dir
  else if part = ".." then dir.dropLast
  else dir ++ [part]

/-- Where a path leads from the working directory; one that starts with a slash leads elsewhere. -/
def locate? (path : String) : Option (List String) :=
  if path.toList.head? = some '/' then none
  else some (((Text.splitAll '/' path.toList).map String.ofList).foldl step [])

/-- The ending of a name, after its last point. A name that only starts with a point has none. -/
def hasEnding (ending name : String) : Bool :=
  let reversed := name.toList.reverse
  let wanted := ending.toList.reverse ++ ['.']
  wanted.isPrefixOf reversed && wanted.length < reversed.length

end PageLayers.FilePath
