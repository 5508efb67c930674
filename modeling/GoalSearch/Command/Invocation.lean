/-!
# Command lines

A command line names program files, and may name a settings file and ask for the console. Options
may stand before, between and after the files; after `--` everything is a file.
-/

namespace GoalSearch.Command

/-- What a command line asks to be run. -/
structure Invocation where
  /-- The program files, in order. -/
  files : List String
  settings : Option String
  interactive : Bool
deriving DecidableEq, Repr

inductive Request where
  | run (invocation : Invocation)
  | version
  | help
  /-- Nothing that can be done, for a reason. -/
  | misuse (reason : String)
deriving DecidableEq, Repr

namespace Request

def nothing : Invocation := ⟨[], none, false⟩

def addFile (i : Invocation) (path : String) : Except String Invocation :=
  if path = "" then .error "a file needs a name" else .ok { i with files := i.files ++ [path] }

def setSettings (i : Invocation) (path : String) : Except String Invocation :=
  if path = "" then .error "--config needs a value"
  else if i.settings.isSome then .error "--config is given twice"
  else .ok { i with settings := some path }

def setInteractive (i : Invocation) : Except String Invocation :=
  if i.interactive then .error "--interactive is given twice"
  else .ok { i with interactive := true }

inductive Reading where
  | soFar (i : Invocation)
  /-- The invocation so far, whose settings file is the next argument. -/
  | needsValue (i : Invocation)
  | instead (r : Request)

def Reading.ofChange : Except String Invocation → Reading
  | .ok i => .soFar i
  | .error reason => .instead (.misuse reason)

/-- Reads a long option, without its dashes. -/
def readLong (i : Invocation) (option : List Char) : Reading :=
  let name := String.ofList (option.takeWhile (· ≠ '='))
  match name, option.dropWhile (· ≠ '=') with
  | "config", [] => .needsValue i
  | "config", _ :: value => .ofChange (setSettings i (String.ofList value))
  | "interactive", [] => .ofChange (setInteractive i)
  | "version", [] => .instead .version
  | "help", [] => .instead .help
  | _, _ => .instead (.misuse ("unexpected argument --" ++ String.ofList option))

/-- Reads short options that share a dash. -/
def readShort (i : Invocation) : List Char → Reading
  | [] => .soFar i
  | 'c' :: [] => .needsValue i
  | 'c' :: '=' :: value => .ofChange (setSettings i (String.ofList value))
  | 'c' :: value => .ofChange (setSettings i (String.ofList value))
  | 'i' :: later =>
    match setInteractive i with
    | .ok i => readShort i later
    | .error reason => .instead (.misuse reason)
  | 'V' :: _ => .instead .version
  | 'h' :: _ => .instead .help
  | c :: _ => .instead (.misuse ("unexpected argument -" ++ String.singleton c))

/-- Reads an argument before any `--`. -/
def readArgument (i : Invocation) (argument : String) : Reading :=
  match argument.toList with
  | '-' :: '-' :: option => readLong i option
  | '-' :: c :: later => readShort i (c :: later)
  | _ => .ofChange (addFile i argument)

/-- Whether an argument cannot be the value of an option. -/
def isOption (argument : String) : Bool :=
  argument.startsWith "-" && argument ≠ "-"

/-- Reads arguments, given what the ones before have said. -/
def readArguments (i : Invocation) : List String → Request
  | [] => .run i
  | "--" :: files =>
    match files.foldlM addFile i with
    | .ok i => .run i
    | .error reason => .misuse reason
  | argument :: later =>
    match readArgument i argument, later with
    | .soFar i, later => readArguments i later
    | .needsValue _, [] => .misuse "--config needs a value"
    | .needsValue i, value :: later =>
      if isOption value then .misuse "--config needs a value"
      else
        match setSettings i value with
        | .ok i => readArguments i later
        | .error reason => .misuse reason
    | .instead r, _ => r

def ofArguments (arguments : List String) : Request := readArguments nothing arguments

end Request

end GoalSearch.Command
