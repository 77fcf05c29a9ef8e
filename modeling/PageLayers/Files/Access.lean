import PageLayers.Interaction.Program

/-! What programs ask of a file system. A request that fails has no result. -/

namespace PageLayers

inductive FileCall where
  | read (path : String)
  | has (path : String)
  | names (dir : String)
  | makeDirectories (path : String)
  | write (path text : String)

/-- Reading gives a text, and listing the names in a directory. -/
def FileCall.Result : FileCall → Type
  | read _ => Option String
  | has _ => Bool
  | names _ => Option (List String)
  | makeDirectories _ => Option Unit
  | write .. => Option Unit

def fileInterface : Interface := ⟨FileCall, FileCall.Result⟩

abbrev FileProgram := Program fileInterface

/-- A step of a program with failures of its own. -/
def FileCall.step {ε α : Type} (c : FileCall) (f : c.Result → Except ε α) :
    ExceptT ε FileProgram α :=
  ExceptT.mk (.call c fun r => .done (f r))

end PageLayers
