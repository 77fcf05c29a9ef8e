/-! Cutting a text at a separator, and the parts before and after its first one. -/

namespace PageLayers.Text

/-- The pieces between the separators, always at least one. -/
def splitAll (sep : Char) : List Char → List (List Char)
  | [] => [[]]
  | c :: rest =>
    if c = sep then [] :: splitAll sep rest
    else
      match splitAll sep rest with
      | [] => [[c]]
      | piece :: more => (c :: piece) :: more

/-- What stands before the first separator, or all. -/
def before (sep : Char) (s : String) : String := String.ofList (s.toList.takeWhile (· != sep))

/-- What stands after the first separator, if there is one. -/
def after? (sep : Char) (s : String) : Option String :=
  match s.toList.dropWhile (· != sep) with
  | [] => none
  | _ :: rest => some (String.ofList rest)

end PageLayers.Text
