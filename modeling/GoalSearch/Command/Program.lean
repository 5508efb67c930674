import GoalSearch.Command.Console
import GoalSearch.Command.Invocation

/-!
# The command

The command loads settings, runs program files in order, and goes on with the console if it is asked
for or there are no files. A file that cannot be read, or a form in a file that is refused, ends it.
-/

namespace GoalSearch.Command

def loadSettings (read : FileReader) : Option String → Except Failure Settings
  | none => .ok Settings.standard
  | some path =>
    match read.text path with
    | .error e => .error (.of ("cannot read config file " ++ path ++ ": " ++ e.message) [e.message])
    | .ok text =>
      match Settings.ofToml text with
      | .error e =>
        let report := e.report text
        .error (.of ("invalid config: " ++ report) [report])
      | .ok settings => .ok settings

/-- Evaluates the forms of a file, up to the first that is refused. -/
def runForms (path : String) (w : Worker) : List Expr → Transcript × Except Failure Worker
  | [] => ([], .ok w)
  | form :: later =>
    let (written, outcome, w) := w.eval form
    match outcome with
    | .error e => (written, .error (.of ("in " ++ path ++ ": " ++ form.text) [e.message]))
    | .ok _ =>
      let (rest, ending) := runForms path w later
      (written ++ rest, ending)

def runFile (read : FileReader) (w : Worker) (path : String) :
    Transcript × Except Failure Worker :=
  match read.text path with
  | .error e => ([], .error (.of ("cannot read " ++ path) [e.message]))
  | .ok text =>
    match Expr.readAll text with
    | .error e => ([], .error (.of ("in " ++ path) [e.message]))
    | .ok forms => runForms path w forms

/-- Runs files, up to the first that fails. -/
def runFiles (read : FileReader) (w : Worker) : List String → Transcript × Except Failure Worker
  | [] => ([], .ok w)
  | path :: later =>
    match runFile read w path with
    | (written, .error failure) => (written, .error failure)
    | (written, .ok w) =>
      let (rest, ending) := runFiles read w later
      (written ++ rest, ending)

/-- How a command goes on. -/
inductive Stage where
  | ended (code : UInt32)
  | console (c : Console)

def giveUp (failure : Failure) : Transcript × Stage :=
  ([(.error, failure.report)], .ended failure.code)

def versionLine : String := "kanren-cps 0.1.0"

def usage : String :=
  "\n".intercalate
    ["Continuation-passing logic engine", "",
      "Usage: kanren-cps [OPTIONS] [FILES]...", "",
      "Arguments:",
      "  [FILES]...  Source files to evaluate, in order", "",
      "Options:",
      "  -c, --config <CONFIG>  Engine configuration file (TOML)",
      "  -i, --interactive      Start the interactive loop after loading the source files",
      "  -h, --help             Print help",
      "  -V, --version          Print version"]

def runInvocation (read : FileReader) (filter : LogFilter) (i : Invocation) : Transcript × Stage :=
  match loadSettings read i.settings with
  | .error failure => giveUp failure
  | .ok settings =>
    match runFiles read ⟨Engine.new settings, filter⟩ i.files with
    | (written, .error failure) =>
      let (report, stage) := giveUp failure
      (written ++ report, stage)
    | (written, .ok w) =>
      if i.files = [] || i.interactive then
        let c := Console.start w
        (written ++ c.await, .console c)
      else (written, .ended 0)

/-- Runs the command up to the console, given its arguments and the text of its log filter. -/
def start (read : FileReader) (log : Option String) (arguments : List String) :
    Transcript × Stage :=
  match Request.ofArguments arguments with
  | .version => ([Transcript.line versionLine], .ended 0)
  | .help => ([Transcript.line usage], .ended 0)
  | .misuse reason =>
    ([Transcript.errorLine ("error: " ++ reason ++ "\n\nFor more information, try '--help'.")],
      .ended 2)
  | .run i => runInvocation read (.parse log) i

def run (read : FileReader) (log : Option String) (arguments : List String) (input : List UInt8) :
    Transcript × UInt32 :=
  match start read log arguments with
  | (written, .ended code) => (written, code)
  | (written, .console c) =>
    match c.run (Console.lines input) with
    | (rest, .ok _) => (written ++ rest, 0)
    | (rest, .error failure) => (written ++ rest ++ [(.error, failure.report)], failure.code)

end GoalSearch.Command
