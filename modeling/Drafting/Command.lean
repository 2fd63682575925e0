import Drafting.Command.Arguments
import Drafting.Command.Report
import Drafting.Scene

/-!
# The command

The command lists the scenes, or draws one, solves it and reports. It ends with one of three codes:
zero after a list or a report, one if there is no such scene, two if the arguments do not fit or
choose something that does not exist. A sketch that has no solution is reported like any other.

The reply of a second solver is an argument, for that solver runs elsewhere.
-/

namespace Drafting

/-- What a run of the command comes to: its code, what it prints, and its journal. -/
structure Outcome where
  code : Nat
  output : List String
  journal : List Record

namespace Outcome

/-- A run that succeeds at once. -/
def done (output : List String) : Outcome := ⟨0, output, []⟩

/-- A run whose arguments do not fit. -/
def misused : Outcome := ⟨2, [], []⟩

/-- A run that is refused for a reason. -/
def refused (code : Nat) (message : String) : Outcome :=
  ⟨code, [], [⟨.error, .command, message⟩]⟩

end Outcome

/-- How the command is used. -/
def usage : String :=
  "usage: drafting [--help] [--list] [--algorithm NAME] [--max-iterations COUNT] " ++
    "[--convergence TOLERANCE] [--debug-mode NAME] [--log-level NAME] [--cad slvs] [scene]"

/-- The lines that list the scenes. -/
def sceneLines : List String := Scene.all.map fun scene => scene.name ++ ": " ++ scene.summary

/-- What a word selects by: a code if it consists of digits, a name otherwise. -/
def selector (word : String) : Except Fault Value :=
  let inner := stripBlanks word.toList
  if inner.isEmpty || !inner.all isDigitLike then .ok (.text word)
  else
    match readInteger? word with
    | some n => .ok (.int n)
    | none => arithmeticFault (.unreadableInteger word)

namespace Arguments

/-- The options and the algorithm that the arguments choose. -/
def choices (arguments : Arguments) : Except Fault (SolveOptions × Algorithm) := do
  let debugMode ← selector arguments.debugMode
  let options ← SolveOptions.ofEntries
    [ ("max_iterations", .int arguments.maxIterations),
      ("convergence", .float arguments.convergence),
      ("debug_mode", debugMode) ]
  .ok (options, ← Algorithm.parseRequest (← selector arguments.algorithm))

/-- Solve the sketch, keep what was found, and report. -/
def report (arguments : Arguments) (scene : Scene) (algorithm : Algorithm)
    (reply : SolverReply) : Session (List String) := do
  let sketch ← get
  Session.note .info .command
    ("Scene " ++ scene.name ++ ": " ++ decimalText sketch.store.size ++ " parameter(s), " ++
      decimalText sketch.table.entries.length ++ " geometry(ies), " ++
      decimalText sketch.constraints.length ++ " constraint(s)")
  let status ← Session.solve .numeric (.text algorithm.name)
  let applied ← Session.apply (.bool true)
  let points ← Session.pointLines
  let crossCheck ←
    if arguments.crossCheck then
      (·.lines) <$> Session.exchange ⟨true, true⟩ reply
    else pure []
  return ["Scene: " ++ scene.name] ++ status.lines applied ++ ["Points:"] ++ points ++ crossCheck

/-- Draw a scene, solve it and report. -/
def run (arguments : Arguments) (scene : Scene) (reply : SolverReply) : Outcome :=
  match arguments.choices with
  | .error fault => .refused 2 fault.message
  | .ok (options, algorithm) =>
    let request : Session (List String) := do
      scene.draw
      arguments.report scene algorithm reply
    match request.run { Sketch.empty 0 options with journal := .full } with
    | (.ok output, sketch) => ⟨0, output, sketch.journal.records.toList⟩
    | (.error fault, sketch) =>
      ⟨1, [], sketch.journal.records.toList ++ [⟨.error, .command, fault.message⟩]⟩

end Arguments

/-- Run the command on the words of a command line. -/
def command (words : List String) (reply : SolverReply) : Outcome :=
  match Arguments.parse? words with
  | none => .misused
  | some arguments =>
    if arguments.help then .done [usage]
    else if arguments.list then .done sceneLines
    else
      match arguments.scene with
      | none | some "" => .misused
      | some name =>
        match Scene.ofName? name with
        | none => .refused 1 ("Unknown scene " ++ quoted name)
        | some scene => arguments.run scene reply

/-- Draw a scene, solve it as far as possible, and show its points. -/
def demonstrate (name : Value) : Except Fault (List String) := do
  let scene ← Scene.parse name
  let request : Session (List String) := do
    scene.draw
    discard (Session.solve .numeric (.text Algorithm.dogleg.name))
    discard (Session.apply (.bool true))
    Session.pointLines
  let (answer, _) := request.run (.empty 0 .standard)
  .ok (("Scene: " ++ scene.name) :: (← answer))

end Drafting
