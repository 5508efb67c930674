import GoalSearch.Command.Program

/-!
# The executable

Connects the command with the file system, the standard streams and the environment.
-/

namespace GoalSearch.Command

def write (t : Transcript) : IO Unit := do
  for (channel, text) in t do
    match channel with
    | .output => (← IO.getStdout).putStr text
    | .error => (← IO.getStderr).putStr text
  (← IO.getStdout).flush

/-- The reason of an input or output error. What cannot be opened, since a file stands on the way,
is told by its name; a directory can be opened but not read. -/
def fileError : IO.Error → FileError
  | .noFileOrDirectory .. => .notFound
  | .noSuchThing .. => .notFound
  | .inappropriateType (some _) .. => .notADirectory
  | .inappropriateType none .. => .isDirectory
  | .permissionDenied .. => .notPermitted
  | .invalidArgument _ _ "name too long" => .nameTooLong
  | .invalidArgument _ _ "string contains NUL bytes" => .nulInPath
  | e => .other (toString e)

def readFile (path : String) : IO (Except FileError (List UInt8)) := do
  try
    let bytes ← IO.FS.readBinFile path
    return .ok bytes.toList
  catch e => return .error (fileError e)

/-- Reads the files that arguments may name. -/
def readFiles (arguments : List String) : IO FileReader := do
  match Request.ofArguments arguments with
  | .run i =>
    let paths := i.settings.toList ++ i.files
    let contents ← paths.mapM fun path => do return (path, ← readFile path)
    return fun path => (contents.lookup path).getD (.error .notFound)
  | _ => return fun _ => .error .notFound

/-- Feeds the console with input as it comes. -/
partial def converse (input : IO.FS.Stream) (c : Console) (begun : List UInt8) : IO UInt32 := do
  let chunk ← input.read 4096
  let (complete, begun) := Console.completeLines (begun ++ chunk.toList)
  let ended := chunk.isEmpty
  let (written, next) := c.run (if ended && begun ≠ [] then complete ++ [begun] else complete)
  write written
  match next with
  | .error failure => write [(.error, failure.report)]; return failure.code
  | .ok c => if ended then return 0 else converse input c begun

end GoalSearch.Command

open GoalSearch.Command in
def main (arguments : List String) : IO UInt32 := do
  let read ← readFiles arguments
  let (written, stage) := start read (← IO.getEnv "RUST_LOG") arguments
  write written
  match stage with
  | .ended code => return code
  | .console c => converse (← IO.getStdin) c []
