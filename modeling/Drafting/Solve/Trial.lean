import Drafting.Journal
import Drafting.Solve.Jacobian

/-!
# Trials

A search for values tries points: it looks at the rows there and goes on from what it sees. A trial
is a step of such a search. It may be refused where the rows have no value, and everything that
happens in it is recorded in order: the points that were looked at with the rows that were seen, and
remarks about the course of the search.
-/

namespace Drafting

/-- What happens in the course of a search. -/
inductive Event where
  /-- Rows were seen at a point. -/
  | look (x rows : List Float)
  /-- Something is said about the search. -/
  | remark (level : Level) (text : String)

/-- Whether an event is a look at the rows. -/
def Event.isLook : Event → Bool
  | look .. => true
  | remark .. => false

/-- A step of a search. -/
abbrev Trial := ExceptT Fault (StateM (Array Event))

namespace Trial

/-- Look at rows and record what is seen. -/
def look (f : RowFunction) (x : List Float) : Trial (List Float) := do
  let rows ← f x
  modify (·.push (.look x rows))
  return rows

/-- Say something about the search. -/
def remark (level : Level) (text : String) : Trial Unit := modify (·.push (.remark level text))

/-- What a trial comes to, and what happened in it. -/
def outcome (trial : Trial α) : Except Fault α × Array Event := trial.run #[]

end Trial

/-- Rows that a search looks at. -/
abbrev Looking := List Float → Trial (List Float)

end Drafting
