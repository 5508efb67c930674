import GoalSearch.Engine
import GoalSearch.File.Tree
import GoalSearch.Log.Filter
import GoalSearch.Text.Cluster

/-!
# The console

The console reads a program line by line. As long as a list is open it waits for more lines;
otherwise it evaluates the forms read so far. An error does not end it.
-/

namespace GoalSearch.Command

/-! ## What a command writes

A command writes to its output and to its error stream. A transcript holds what it wrote, in order.
-/

inductive Channel where
  | output
  | error
deriving DecidableEq, Repr

/-- Pieces of text with the streams they went to. -/
abbrev Transcript := List (Channel × String)

namespace Transcript

def line (text : String) : Channel × String := (.output, text ++ "\n")

def errorLine (text : String) : Channel × String := (.error, text ++ "\n")

def textOn (t : Transcript) (channel : Channel) : String :=
  String.join ((t.filter fun piece => piece.1 = channel).map Prod.snd)

end Transcript

/-- Why a command gives up: what it could not do, and the causes of that. -/
structure Failure where
  /-- What could not be done. -/
  summary : String
  /-- The causes, each the reason of the one before. -/
  causes : List String
  code : UInt32
deriving DecidableEq, Repr

namespace Failure

/-- A failure with the code that nearly all failures have. -/
def of (summary : String) (causes : List String) : Failure := ⟨summary, causes, 1⟩

/-- A text whose lines after the first are moved in. -/
def hangingLines (indent : String) (text : String) : String :=
  (indent.intercalate ((text.splitOn "\n").map fun l => l ++ "\n")).dropEnd 1 |>.toString

/-- The lines of numbered causes, the first of which has the given number. -/
def numberedCauses : Nat → List String → String
  | _, [] => ""
  | n, cause :: later =>
    "    " ++ toString n ++ ": " ++ hangingLines "       " cause ++ "\n"
      ++ numberedCauses (n + 1) later

/-- The report of a failure. A single cause is not numbered. -/
def report (f : Failure) : String :=
  "Error: " ++ f.summary ++ "\n" ++
    match f.causes with
    | [] => ""
    | [cause] => "\nCaused by:\n    " ++ hangingLines "    " cause ++ "\n"
    | causes => "\nCaused by:\n" ++ numberedCauses 0 causes

end Failure

/-! ## Evaluating a form -/

/-- An engine at work, and what is kept of its log. -/
structure Worker where
  engine : Engine
  filter : LogFilter

namespace Worker

/-- The lines of those log entries that are kept. -/
def logLines (filter : LogFilter) (log : List LogEntry) : Transcript :=
  (log.filter filter.keeps).map fun e => Transcript.errorLine e.line

/-- What evaluating a form writes, less its error: log entries, printed symbols, and the result of a
query. -/
def transcript (filter : LogFilter) (answer : Answer BuildError Outcome) : Transcript :=
  logLines filter answer.log
    ++ answer.printed.map (fun symbol => Transcript.line symbol.text)
    ++ match answer.outcome with
      | .ok (.answered report) => [Transcript.line report.result]
      | _ => []

def eval (w : Worker) (form : Expr) : Transcript × Except BuildError Outcome × Worker :=
  let (answer, engine) := w.engine.eval form
  (transcript w.filter answer, answer.outcome, { w with engine })

/-- Evaluates forms, going on after errors, which are written out. -/
def evalEach (w : Worker) : List Expr → Transcript × Worker
  | [] => ([], w)
  | form :: later =>
    let (written, outcome, w) := w.eval form
    let complaint := match outcome with
      | .ok _ => []
      | .error e => [Transcript.errorLine e.message]
    let (rest, w) := evalEach w later
    (written ++ complaint ++ rest, w)

end Worker

/-! ## Lines -/

/-- A console between two lines. -/
structure Console where
  worker : Worker
  /-- The lines that belong to a list which is still open. -/
  pending : String

namespace Console

def start (worker : Worker) : Console := ⟨worker, ""⟩

/-- What is written when a console begins to wait for a line. -/
def await (c : Console) : Transcript := Worker.logLines c.worker.filter [.lineAwaited]

def feed (c : Console) (line : String) : Transcript × Console :=
  let source := c.pending ++ line ++ "\n"
  match Expr.readAll source with
  | .error (.unclosed _) => ([], { c with pending := source })
  | .error e => ([Transcript.errorLine ("parse error: " ++ e.message)], ⟨c.worker, ""⟩)
  | .ok forms =>
    let (written, worker) := c.worker.evalEach forms
    (written, ⟨worker, ""⟩)

/-- The line that characters write, without its end: a line feed, and a carriage return before
it. -/
def dropLineEnd (cs : List Char) : List Char :=
  match cs.reverse with
  | '\n' :: '\r' :: rest => rest.reverse
  | '\n' :: rest => rest.reverse
  | _ => cs

def inputFailure (e : FileError) : Failure := .of "cannot read input" [e.message, e.message]

/-- The failure of a console whose input has a rubout that takes away a part of a character. -/
def rubFailure : Failure := ⟨"a rubout cuts a character", [], 101⟩

/-- The line of some bytes of input, with rubouts carried out. -/
def lineOfBytes (bytes : List UInt8) : Except Failure String :=
  match textOfBytes bytes with
  | .error e => .error (inputFailure e)
  | .ok text =>
    match Text.applyRubouts (String.ofList (dropLineEnd text.toList)) with
    | none => .error rubFailure
    | some line => .ok line

/-- Takes in the bytes of a line, and waits for the next. -/
def feedBytes (c : Console) (bytes : List UInt8) : Except Failure (Transcript × Console) := do
  let (written, c) := c.feed (← lineOfBytes bytes)
  return (written ++ c.await, c)

/-- The lines of input, each with its line feed. -/
def lines : List UInt8 → List (List UInt8)
  | [] => []
  | b :: rest =>
    if b = 10 then [b] :: lines rest
    else
      match lines rest with
      | [] => [[b]]
      | line :: later => (b :: line) :: later

/-- The lines of input that are complete, and the line that has only begun. -/
def completeLines (input : List UInt8) : List (List UInt8) × List UInt8 :=
  let all := lines input
  (all.filter fun line => line.getLast? = some 10,
    (all.filter fun line => line.getLast? ≠ some 10).flatten)

/-- Takes in lines up to the end of input, which drops a list that is still open. -/
def run (c : Console) : List (List UInt8) → Transcript × Except Failure Console
  | [] => ([], .ok c)
  | line :: later =>
    match c.feedBytes line with
    | .error failure => ([], .error failure)
    | .ok (written, c) =>
      let (rest, ending) := run c later
      (written ++ rest, ending)

end Console

end GoalSearch.Command
