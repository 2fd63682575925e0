import Drafting.Value

/-!
# The journal

What a sketch does is recorded line by line. A record has a level, the part of the library that
wrote it and its text; a reader who asks for a level sees the records of that level and above.
-/

namespace Drafting

/-- How much a record matters. -/
inductive Level where
  | debug
  | info
  | warning
  | error
deriving Repr, DecidableEq

namespace Level

/-- The word that opens a record. -/
def name : Level → String
  | debug => "DEBUG"
  | info => "INFO"
  | warning => "WARNING"
  | error => "ERROR"

/-- The rank of a level among all levels that can be asked for. -/
def rank : Level → Nat
  | debug => 10
  | info => 20
  | warning => 30
  | error => 40

/-- The rank from which on a reader wants records; a word that is no level asks for `info`. -/
def threshold (word : String) : Nat :=
  match word with
  | "NOTSET" => 0
  | "DEBUG" => debug.rank
  | "INFO" => info.rank
  | "WARNING" | "WARN" => warning.rank
  | "ERROR" => error.rank
  | "CRITICAL" | "FATAL" => 50
  | _ => info.rank

end Level

/-- The parts of the library that write records. -/
inductive Source where
  | store
  | geometry
  | catalog
  | constraints
  | solver
  | backend
  | diagnosis
  | sketch
  | exchange
  | command
deriving Repr, DecidableEq

/-- The name under which a part writes. -/
def Source.name : Source → String
  | store => "sketchgcs.params"
  | geometry => "sketchgcs.geometry"
  | catalog => "sketchgcs.residuals"
  | constraints => "sketchgcs.constraints"
  | solver => "sketchgcs.solver.facade"
  | backend => "sketchgcs.solver.backends"
  | diagnosis => "sketchgcs.solver.diagnosis"
  | sketch => "sketchgcs.sketch"
  | exchange => "sketchgcs.cad.slvs_adapter"
  | command => "sketchgcs.__main__"

/-- One line of the journal. -/
structure Record where
  level : Level
  source : Source
  message : String
deriving Repr, DecidableEq

/-- A record as a line of text. -/
def Record.text (record : Record) : String :=
  record.level.name ++ ":" ++ record.source.name ++ ":" ++ record.message

/-- What was recorded, in order. Records below the threshold are dropped. -/
structure Journal where
  threshold : Nat
  records : Array Record

namespace Journal

/-- A journal that keeps the records from a threshold on. -/
def keeping (threshold : Nat) : Journal := ⟨threshold, #[]⟩

/-- A journal that keeps everything. -/
def full : Journal := keeping 0

/-- A journal that keeps nothing: its threshold is above every level. -/
def silent : Journal := keeping (Level.error.rank + 1)

/-- Whether records of a level are kept. -/
def wants (journal : Journal) (level : Level) : Bool := journal.threshold ≤ level.rank

/-- Record a line, if its level is wanted. -/
def add (journal : Journal) (record : Record) : Journal :=
  if journal.wants record.level then { journal with records := journal.records.push record }
  else journal

/-- The lines of a journal. -/
def lines (journal : Journal) : List String := journal.records.toList.map Record.text

end Journal

/-- The lines of the records that reach a threshold. -/
def journalLines (threshold : Nat) (records : List Record) : List String :=
  (records.filter fun record => threshold ≤ record.level.rank).map Record.text

/-- Integers in square brackets. -/
def integersText (values : List Int) : String :=
  "[" ++ ", ".intercalate (values.map integerText) ++ "]"

/-- Naturals in square brackets. -/
def naturalsText (values : List Nat) : String :=
  "[" ++ ", ".intercalate (values.map decimalText) ++ "]"

end Drafting
