import PageLayers.CommandLine.Run
import Std.Time.DateTime.Timestamp

/-! The program: files are read and written for it, and what a run gives is printed. -/

namespace PageLayers

/-- A request of the file system that may fail. -/
def attempt {α : Type} (action : IO α) : IO (Option α) := do
  try return some (← action)
  catch _ => return none

def hasFile (path : String) : IO Bool := do
  let found ← attempt do (← IO.FS.realPath path).metadata
  return found.isSome

def fileNames (dir : String) : IO (List String) := do
  let entries ← (← IO.FS.realPath dir).readDir
  return entries.toList.map fun e => e.fileName

/-- A file is written beside its place and then moved there, so that none is seen half written. -/
def writeWhole (path text : String) : IO Unit := do
  let draft := path ++ ".draft"
  IO.FS.writeFile draft text
  IO.FS.rename draft path

def answerFile : (c : FileCall) → IO c.Result
  | .read path => attempt (IO.FS.readFile path)
  | .has path => hasFile path
  | .names dir => attempt (fileNames dir)
  | .makeDirectories path => attempt (IO.FS.createDirAll path)
  | .write path text => attempt (writeWhole path text)

/-- Hexadecimal digits of a number, and so many of them. -/
def hexText (width n : Nat) : String :=
  String.ofList ((List.range width).reverse.map fun i => Nat.digitChar (n / Nat.pow 16 i % 16))

/-- A random id in five groups. -/
def idText (n : Nat) : String :=
  "-".intercalate [hexText 8 n, hexText 4 (n / Nat.pow 16 8), "4" ++ hexText 3 (n / Nat.pow 16 12),
    "8" ++ hexText 3 (n / Nat.pow 16 15), hexText 12 (n / Nat.pow 16 18)]

end PageLayers

open PageLayers in
def main (args : List String) : IO UInt32 := do
  let now ← Std.Time.Timestamp.now
  let seconds := now.toSecondsSinceUnixEpoch.val.toNat
  let seed ← IO.rand 0 (Nat.pow 2 120 - 1)
  let command := CommandLine.execute args (.atSecond seconds) fun i => idText (seed + i)
  let output ← command.run answerFile
  (← IO.getStdout).putStr output.text
  return output.exitCode.toUInt32
