import SheetFormula.Command.Run

/-!
# Entry point

Reads what a request needs, answers it, and writes the outcome.
-/

namespace SheetFormula

/-- **All bytes of a stream**. -/
partial def readAll (stream : IO.FS.Stream) (known : ByteArray := .empty) : IO ByteArray := do
  let chunk ← stream.read 65536
  if chunk.isEmpty then return known else readAll stream (known ++ chunk)

/-- **Content of a file**, or why it cannot be read. -/
def readPath (path : String) : IO (Except FolderError (List UInt8)) := do
  try
    let bytes ← IO.FS.readBinFile path
    return .ok bytes.toList
  catch
    | .permissionDenied .. => return .error (.denied path)
    | .inappropriateType _ _ "not a directory" => return .error (.notFolder path)
    | .inappropriateType .. => return .error (.isFolder path)
    | .invalidArgument _ 22 _ => return .error (.invalid path)
    | .invalidArgument .. => return .error (.tooLong path)
    | _ => return .error (.missing path)

/-- **Working folder** that knows the files at some paths, a leading tilde standing for the home folder. -/
def folderOf (paths : List String) : IO Folder := do
  let home ← IO.getEnv "HOME"
  let blank : Folder := { read := fun path => .error (.missing path), home }
  let expanded := paths.filterMap fun path => (blank.expand path).toOption
  let files ← (paths ++ expanded).mapM fun path => do return (path, ← readPath path)
  return { blank with read := fun path => (files.lookup path).getD (.error (.missing path)) }

/-- The paths that a request reads. -/
def Command.Request.paths : Command.Request → List String
  | .version => []
  | .decode s _ path => [s.profile, s.detect, path].filter fun p => p ≠ "" && p ≠ "-"

/-- What surrounds a request. Standard input is read when the formulas come from it and nothing else is
wrong. -/
def surroundings (r : Command.Request) : IO Command.Surroundings := do
  let around : Command.Surroundings := { folder := ← folderOf r.paths, input := [] }
  match r with
  | .decode s _ "-" =>
    if (Command.prepare around s "-").isOk then
      return { around with input := (← readAll (← IO.getStdin)).toList }
    else return around
  | _ => return around

/-- **Write an outcome**. -/
def finish (outcome : Command.Outcome) : IO UInt32 := do
  (← IO.getStdout).putStr outcome.out
  (← IO.getStderr).putStr outcome.err
  return UInt32.ofNat outcome.status

end SheetFormula

open SheetFormula in
/-- **Run the command** on its arguments. -/
def main (argv : List String) : IO UInt32 := do
  match Command.request argv with
  | .error e => finish (.ofError e)
  | .ok r =>
    match Command.answer (← surroundings r) r with
    | some outcome => finish outcome
    | none =>
      (← IO.getStderr).putStrLn "index out of range"
      return 2
