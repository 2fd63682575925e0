import Drafting.Proofs.Likeness
import Drafting.Solve.Backend

/-!
# Impartial backends

A refusal of the rows tells a backend its sort and, in words, what was refused. A backend is
impartial if it does not go by the words: of two problems that only differ in these it makes the
same proposal, or is refused in both for the same sort of fault. Trials match if they come to the
same or are refused for the same sort of fault, whatever happened before them; what is composed of
trials that match does so as well.
-/

namespace Drafting

/-- Two problems with the same start and the same rows, up to the words of refusals. -/
structure Problem.Resembles (problem other : Problem) : Prop where
  start : other.start = problem.start
  residual : ∀ x, Agree (problem.residual x) (other.residual x)
  wishes : Option.Rel (fun rows rows' : RowFunction => ∀ x, Agree (rows x) (rows' x))
    problem.wishes other.wishes

/-- A backend makes the same proposal for problems that resemble each other. -/
def Backend.Impartial (backend : Backend) : Prop :=
  ∀ problem other : Problem, problem.Resembles other → ∀ algorithm options,
    Agree (backend.run problem algorithm options).proposal
      (backend.run other algorithm options).proposal

namespace Trial

variable {α β : Type}

/-- Two trials come to the same, or are refused for the same sort of fault, whatever happened
before each of them. -/
def Matches (trial other : Trial α) : Prop :=
  ∀ events events',
    Agree ((ExceptT.run trial).run events).1 ((ExceptT.run other).run events').1

/-- Two trials that match come to proposals that agree. -/
theorem Matches.reply {trial other : Trial Proposal} (same : trial.Matches other) :
    Agree trial.reply.proposal other.reply.proposal := same #[] #[]

namespace Matches

/-- An answer is the same. -/
protected theorem pure (answer : α) : Matches (pure answer) (pure answer) := fun _ _ => rfl

/-- Steps without events that agree. -/
protected theorem liftM {step other : Except Fault α} (agree : Agree step other) :
    Matches (liftM step : Trial α) (liftM other) := by
  intro events events'
  cases step <;> cases other <;> exact agree

/-- What follows trials that match, after each answer. -/
protected theorem bind {trial other : Trial α} {next next' : α → Trial β}
    (first : trial.Matches other) (later : ∀ answer, (next answer).Matches (next' answer)) :
    (trial >>= next).Matches (other >>= next') := by
  intro events events'
  have same := first events events'
  rw [ExceptT.run_bind, ExceptT.run_bind, StateT.run_bind, StateT.run_bind]
  revert same
  rcases (ExceptT.run trial).run events with ⟨fault | answer, after⟩ <;>
    rcases (ExceptT.run other).run events' with ⟨fault' | answer', after'⟩ <;> intro same
  · exact same
  · exact same.elim
  · exact same.elim
  · obtain rfl : answer = answer' := same
    exact later answer after after'

/-- Trials whose answers do not matter. -/
protected theorem discard {trial other : Trial α} (same : trial.Matches other) :
    Matches (discard trial : Trial Unit) (discard other) :=
  same.bind fun _ => .pure ()

/-- Looks at rows that agree. -/
theorem look {rows rows' : RowFunction} (agree : ∀ x, Agree (rows x) (rows' x)) (x : List Float) :
    Matches (Trial.look rows x) (Trial.look rows' x) :=
  Matches.bind (.liftM (agree x)) fun _ _ _ => rfl

end Matches

end Trial

/-- The backend that proposes what is prescribed is impartial. -/
theorem Backend.impartial_prescribed (prescription : Prescription) (iterations : Int)
    (message : String) : (prescribed prescription iterations message).Impartial := by
  rintro ⟨start, residual, wishes⟩ ⟨start', residual', wishes'⟩ ⟨same, rows, wished⟩ algorithm
    options
  obtain rfl : start = start' := same.symm
  refine Trial.Matches.reply (.bind (Trial.Matches.look rows start).discard fun _ => ?_)
  cases wished with
  | none => exact .bind (.liftM (.refl _)) fun _ => .pure _
  | some agree =>
    exact .bind (Trial.Matches.liftM (agree start)).discard fun _ =>
      .bind (.liftM (.refl _)) fun _ => .pure _

end Drafting
