import Drafting.Number.Reading
import Drafting.Fault

/-!
# Arguments of the command

The command takes the name of a scene and some options. An option is named in full or by a prefix
that no other option has, and its value follows it, either as the next word or after an equals
sign. A word that looks like a negative number is a value; after a double dash every word is.
-/

namespace Drafting

/-- An option of the command. -/
inductive Flag where
  | help
  | list
  | algorithm
  | maxIterations
  | convergence
  | debugMode
  | logLevel
  | crossCheck
deriving Repr, DecidableEq

namespace Flag

/-- Every option. -/
def all : List Flag :=
  [help, list, algorithm, maxIterations, convergence, debugMode, logLevel, crossCheck]

/-- The name of an option. -/
def name : Flag → String
  | help => "--help"
  | list => "--list"
  | algorithm => "--algorithm"
  | maxIterations => "--max-iterations"
  | convergence => "--convergence"
  | debugMode => "--debug-mode"
  | logLevel => "--log-level"
  | crossCheck => "--cad"

/-- Whether a value follows an option. -/
def takesValue : Flag → Bool
  | help | list => false
  | _ => true

/-- The options whose name begins with a prefix; one whose name is the prefix stands alone. -/
def named (start : String) : List Flag :=
  match all.find? fun flag => flag.name == start with
  | some flag => [flag]
  | none => all.filter fun flag => start.toList.isPrefixOf flag.name.toList

end Flag

/-- A word of the command line. -/
inductive Word where
  | argument (text : String)
  | flag (flag : Flag) (value : Option String)
  | stop
  | refused

/-- Whether characters are one digit or more. -/
def areDigits (cs : List Char) : Bool := !cs.isEmpty && cs.all fun c => (digitValue? c).isSome

/-- Whether a word looks like a negative number: a dash and digits, perhaps with a point before the
last of them. -/
def looksNegative : List Char → Bool
  | '-' :: cs =>
    areDigits cs ||
      (match cs.dropWhile fun c => (digitValue? c).isSome with
      | '.' :: fraction => areDigits fraction
      | _ => false)
  | _ => false

/-- A word before the first and the text after the first equals sign. -/
def splitEquals (cs : List Char) : String × Option String :=
  match cs.dropWhile (· ≠ '=') with
  | [] => (String.ofList cs, none)
  | _ :: value => (String.ofList (cs.takeWhile (· ≠ '=')), some (String.ofList value))

/-- Characters without a line break at their end. -/
def withoutLineBreak (cs : List Char) : List Char :=
  if cs.getLast? = some '\n' then cs.dropLast else cs

/-- A word that begins with a dash and names no option. -/
def unnamedWord (text : String) : Word :=
  if looksNegative (withoutLineBreak text.toList) || text.toList.contains ' ' then .argument text
  else .refused

/-- A word that begins with two dashes. -/
def longWord (text : String) : Word :=
  let (name, value) := splitEquals text.toList
  match Flag.named name with
  | [flag] => .flag flag value
  | [] => unnamedWord text
  | _ => .refused

/-- A word of the command line that does not stand after a double dash. -/
def Word.of (text : String) : Word :=
  match text.toList with
  | ['-', '-'] => .stop
  | ['-', 'h'] => .flag .help none
  | '-' :: '-' :: _ => longWord text
  | '-' :: 'h' :: _ => .refused
  | '-' :: _ :: _ => unnamedWord text
  | _ => .argument text

/-- The words of a command line. -/
def Word.all : List String → List Word
  | [] => []
  | text :: rest =>
    match Word.of text with
    | .stop => .stop :: rest.map .argument
    | word => word :: Word.all rest

/-- What the command is asked for. -/
structure Arguments where
  scene : Option String
  help : Bool
  list : Bool
  algorithm : String
  maxIterations : Int
  convergence : Float
  debugMode : String
  logLevel : String
  crossCheck : Bool

namespace Arguments

/-- What is asked for unless something else is. -/
def standard : Arguments :=
  ⟨none, false, false, "DogLeg", 100, 1e-10, "None", "INFO", false⟩

/-- Give an option its value; nothing if it does not fit. -/
def set? (arguments : Arguments) (flag : Flag) (value : String) : Option Arguments :=
  match flag with
  | .help | .list => none
  | .algorithm => some { arguments with algorithm := value }
  | .maxIterations => (readInteger? value).map ({ arguments with maxIterations := · })
  | .convergence => (readFloat? value).map ({ arguments with convergence := · })
  | .debugMode => some { arguments with debugMode := value }
  | .logLevel => some { arguments with logLevel := value }
  | .crossCheck => if value = "slvs" then some { arguments with crossCheck := true } else none

/-- Switch an option on that takes no value. -/
def switch (arguments : Arguments) (flag : Flag) : Arguments :=
  { arguments with
    help := arguments.help || flag = .help
    list := arguments.list || flag = .list }

/-- Take a word as the scene. -/
def withScene (arguments : Arguments) (scene : String) : Arguments :=
  { arguments with scene := some scene }

/-- Read words; `placed` tells whether the place of the scene has been passed. A double dash next
to the scene belongs to it. Nothing is the answer where a word does not fit. -/
def read? (placed : Bool) (arguments : Arguments) : List Word → Option Arguments
  | [] => some arguments
  | .refused :: _ => none
  | .flag flag (some value) :: rest => do (← arguments.set? flag value).read? placed rest
  | .flag flag none :: rest =>
    if flag.takesValue then
      match rest with
      | .argument text :: rest => do (← arguments.set? flag text).read? placed rest
      | _ => none
    else (arguments.switch flag).read? placed rest
  | .stop :: .argument text :: rest =>
    if placed then none else (arguments.withScene text).read? true rest
  | .stop :: rest => if placed then none else arguments.read? true rest
  | .argument text :: .stop :: rest =>
    if placed then none else (arguments.withScene text).read? true rest
  | .argument text :: rest =>
    if placed then none else (arguments.withScene text).read? true rest

/-- The arguments that a command line gives. -/
def parse? (words : List String) : Option Arguments := standard.read? false (Word.all words)

end Arguments

end Drafting
