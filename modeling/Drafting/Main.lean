import Drafting.Command

/-!
# The program

The program hands its arguments to the command, prints what the command says, and writes the
journal to standard error from the level on that the arguments ask for.
-/

/-- The rank from which on the words of a command line want records. -/
def journalThreshold (words : List String) : Nat :=
  match Drafting.Arguments.parse? words with
  | some arguments => Drafting.Level.threshold arguments.logLevel.toUpper
  | none => Drafting.Level.info.rank

/-- Run the command. No second solver is at hand, so a cross-check finds everything unchanged. -/
def main (words : List String) : IO UInt32 := do
  let outcome := Drafting.command words .unchanged
  for line in outcome.output do
    IO.println line
  for line in Drafting.journalLines (journalThreshold words) outcome.journal do
    IO.eprintln line
  if outcome.code = 2 && outcome.journal.isEmpty then
    IO.eprintln Drafting.usage
  return outcome.code.toUInt32
