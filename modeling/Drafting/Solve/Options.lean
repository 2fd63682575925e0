import Drafting.Value.Conversion

/-!
# Choices for a solve

An algorithm and a debug mode are chosen by name, whatever the letter case and however the words
are joined, or by one of the integer codes of old. The options of a solve are checked field by
field when they are read, so every `SolveOptions` at hand has positive finite tolerances.
-/

namespace Drafting

/-- How residuals are brought to zero. -/
inductive Algorithm where
  | dogleg
  | levenbergMarquardt
  | bfgs
  | sqp
deriving Repr, DecidableEq

/-- How much a solve writes to the journal. -/
inductive DebugMode where
  | none
  | minimal
  | iteration
deriving Repr, DecidableEq

/-- The spellings of a selector: as it stands in lower case with underscores, or without them. -/
def selectorSpellings (text : String) : List String :=
  let cs := (stripBlanks text.toList).map fun c => if c = '-' then '_' else c.toLower
  [String.ofList cs, String.ofList (cs.filter (· != '_'))]

/-- What a value selects by name or by code. -/
def select? (named : String → Option α) (coded : Int → Option α) : Value → Option α
  | .text s => (selectorSpellings s).findSome? named
  | .int n => coded n
  | _ => Option.none

namespace Algorithm

/-- The name of an algorithm. -/
def name : Algorithm → String
  | dogleg => "dogleg"
  | levenbergMarquardt => "levenberg_marquardt"
  | bfgs => "bfgs"
  | sqp => "sqp"

/-- The algorithm with a name or a short name. -/
def ofName? : String → Option Algorithm
  | "dogleg" | "dl" => some dogleg
  | "levenberg_marquardt" | "levenbergmarquardt" | "lm" => some levenbergMarquardt
  | "bfgs" => some bfgs
  | "sqp" => some sqp
  | _ => Option.none

/-- The algorithm with a code. -/
def ofCode? : Int → Option Algorithm
  | 0 => some bfgs
  | 1 => some levenbergMarquardt
  | 2 => some dogleg
  | _ => Option.none

/-- The algorithm that a value selects. -/
def parse (value : Value) : Except Fault Algorithm :=
  match select? ofName? ofCode? value with
  | some algorithm => .ok algorithm
  | Option.none => .error (.unknownAlgorithm value)

/-- The algorithm that a value asks for. The one for temporary constraints is chosen by their
presence and cannot be asked for. -/
def parseRequest (value : Value) : Except Fault Algorithm := do
  match ← parse value with
  | sqp => .error .algorithmNotRequestable
  | algorithm => .ok algorithm

end Algorithm

namespace DebugMode

/-- The name of a debug mode. -/
def name : DebugMode → String
  | none => "none"
  | minimal => "minimal"
  | iteration => "iteration"

/-- The debug mode with a name. -/
def ofName? : String → Option DebugMode
  | "none" | "nodebug" => some none
  | "minimal" => some minimal
  | "iteration" | "iterationlevel" | "periteration" => some iteration
  | _ => Option.none

/-- The debug mode with a code. -/
def ofCode? : Int → Option DebugMode
  | 0 => some none
  | 1 => some minimal
  | 2 => some iteration
  | _ => Option.none

/-- The debug mode that a value selects. -/
def parse (value : Value) : Except Fault DebugMode :=
  match select? ofName? ofCode? value with
  | some mode => .ok mode
  | Option.none => .error (.unknownDebugMode value)

end DebugMode

/-- The options of a solve. -/
structure SolveOptions where
  /-- The budget of steps. -/
  maxIterations : Nat
  /-- The greatest residual that counts as solved. -/
  convergence : Float
  /-- What is written to the journal. -/
  debugMode : DebugMode
  /-- The part of a row, relative to the largest, that counts as nothing new. -/
  rankTolerance : Float
  /-- The greatest residual of a constraint that does not conflict. -/
  conflictTolerance : Float
  /-- The relative step of the difference quotients. -/
  jacobianStep : Float
  /-- Whether the result for temporary constraints is refined on the others, as it was given. -/
  refine : Value

namespace SolveOptions

/-- The options unless others are chosen. -/
def standard : SolveOptions where
  maxIterations := 100
  convergence := 1e-10
  debugMode := .none
  rankTolerance := 1e-8
  conflictTolerance := 1e-6
  jacobianStep := 1e-7
  refine := .bool true

/-- The names of all options. -/
def names : List String :=
  ["max_iterations", "convergence", "debug_mode", "rank_tolerance", "conflict_tolerance",
    "jacobian_step", "sqp_refine"]

/-- A budget of steps: an integer that is at least one. -/
def checkIterations : Value → Except Fault Nat
  | .int n => if n < 1 then .error (.iterationsTooFew n) else .ok n.toNat
  | value => .error (.iterationsNotInteger value)

/-- A tolerance: a real number that is positive and finite. -/
def checkPositive (name : String) (value : Value) : Except Fault Float := do
  match value with
  | .int _ | .float _ | .entry _ =>
    let x ← value.toReal
    if x.isFinite && 0.0 < x then .ok x else throw (.optionNotPositive name value)
  | value => throw (.optionNotReal name value)

/-- The value of an option: what an entry says, once checked, or what it was. -/
def field (entries : List (String × Value)) (name : String) (current : α)
    (check : Value → Except Fault α) : Except Fault α :=
  match entries.lookup name with
  | some value => check value
  | none => .ok current

/-- The options with those entries changed that are given. The debug mode is checked last. -/
def changed (options : SolveOptions) (entries : List (String × Value)) :
    Except Fault SolveOptions := do
  let positive (name : String) (current : Float) :=
    field entries name current (checkPositive name)
  let maxIterations ← field entries "max_iterations" options.maxIterations checkIterations
  let convergence ← positive "convergence" options.convergence
  let rankTolerance ← positive "rank_tolerance" options.rankTolerance
  let conflictTolerance ← positive "conflict_tolerance" options.conflictTolerance
  let jacobianStep ← positive "jacobian_step" options.jacobianStep
  let debugMode ← field entries "debug_mode" options.debugMode DebugMode.parse
  let refine ← field entries "sqp_refine" options.refine .ok
  .ok
    { maxIterations, convergence, debugMode, rankTolerance, conflictTolerance, jacobianStep,
      refine }

/-- The entries that name no option, in ascending order. -/
def unknownNames (entries : List (String × Value)) : List String :=
  ((entries.map (·.1)).filter fun name => !names.contains name).mergeSort
    fun a b => decide (a ≤ b)

/-- The options that entries give. Unknown names are refused before any value is looked at. -/
def ofEntries (entries : List (String × Value)) : Except Fault SolveOptions :=
  match unknownNames entries with
  | [] => standard.changed entries
  | unknown => .error (.unknownOptions unknown)

/-- The options with some entries changed. -/
def withChanges (options : SolveOptions) (entries : List (String × Value)) :
    Except Fault SolveOptions :=
  if (unknownNames entries).isEmpty then options.changed entries
  else arithmeticFault .arguments

end SolveOptions

end Drafting
