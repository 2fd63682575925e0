import Drafting.Proofs.MirroredRequests
import Drafting.Sketch.Solving

/-!
# Solving on sketches that mirror each other

The problems that are posed resemble each other, so an impartial backend makes the same proposal,
and that is judged alike: the status is the same and the diagnosis names the same constraints. The
same solution is applied then, and the same is measured. What is written to the journals on the way
may differ in its words.
-/

namespace Drafting

namespace Session

/-- A request that does nothing but write lines. -/
def Writes (request : Session Unit) : Prop :=
  ∀ sketch, ∃ journal, request.outcome sketch = (.ok (), sketch.withJournal journal) ∧
    journal.threshold = sketch.journal.threshold

namespace Writes

/-- Nothing is written. -/
theorem nothing : Writes (pure ()) := fun sketch => ⟨sketch.journal, rfl, rfl⟩

/-- A line is written. -/
theorem note {level : Level} {source : Source} {message : String} :
    Writes (note level source message) :=
  fun sketch => ⟨_, rfl, Journal.threshold_add sketch.journal _⟩

/-- More is written after what was written. -/
theorem bind {first second : Session Unit} (before : Writes first) (later : Writes second) :
    Writes (first >>= fun _ => second) := by
  intro sketch
  obtain ⟨journal, wrote, kept⟩ := before sketch
  obtain ⟨last, went, same⟩ := later (sketch.withJournal journal)
  rw [outcome_bind, wrote]
  exact ⟨last, went, same.trans kept⟩

/-- Something is written if a condition holds, and something else if it does not. -/
theorem ite {condition : Prop} [Decidable condition] {first second : Session Unit}
    (one : Writes first) (other : Writes second) :
    Writes (if condition then first else second) := by
  split
  · exact one
  · exact other

/-- Records are written line by line. -/
theorem records (records : List Record) :
    Writes (records.forM fun record => Session.note record.level record.source record.message) := by
  induction records with
  | nil => exact nothing
  | cons record rest ih => exact note.bind ih

/-- What happened in a search is written line by line. -/
theorem noteEvents (wanted : Bool) (number : Nat) (events : List Event) :
    Writes (noteEvents wanted number events) := by
  induction events generalizing number with
  | nil => exact nothing
  | cons event rest ih =>
    cases event with
    | remark level text => exact note.bind (ih number)
    | look x rows => exact ite (note.bind (ih _)) (ih _)

/-- The outcome of a solve is written. -/
theorem noteOutcome (level : Level) (status : SolveStatus) (looks : Nat) :
    Writes (noteOutcome level status looks) :=
  note.bind (ite nothing note)

end Writes

end Session

namespace Shift

variable {shift : Shift} {kinds : Catalog}

open Session

/-- Whatever two requests write, they do nothing else. -/
theorem simulates_of_writes {request other : Session Unit} (one : Writes request)
    (another : Writes other) : shift.Simulates kinds (· = ·) request other := by
  intro s t mirrors
  obtain ⟨journal, wrote, kept⟩ := one s
  obtain ⟨journal', wrote', kept'⟩ := another t
  rw [wrote, wrote']
  exact ⟨rfl, mirrors.withJournal (kept'.trans (mirrors.threshold.trans kept.symm))⟩

/-- The same algorithm is chosen. -/
theorem simulates_effectiveAlgorithm (request : Value) :
    shift.Simulates kinds (· = ·) (effectiveAlgorithm request) (effectiveAlgorithm request) := by
  refine .step_bind fun requested => .get_bind fun s journal _ => ?_
  have same : ((shift.sketch s).withJournal journal).algorithmFor requested =
      s.algorithmFor requested := shift.algorithmFor_sketch s requested
  rw [same]
  refine .step_bind fun effective => ?_
  by_cases other : effective ≠ requested
  · rw [if_pos other]
    exact .bind_same simulates_note fun _ => .pure rfl
  · rw [if_neg other]
    exact .pure rfl

/-- The begin of a solve is written in both journals, or neither problem can be posed. -/
theorem simulates_noteStart (level : Level) (algorithm : Algorithm) (backend : String) :
    shift.Simulates kinds (· = ·) (noteStart level algorithm backend)
      (noteStart level algorithm backend) := by
  refine .get_bind fun s journal _ => ?_
  have hard : Alike (fun _ _ => True) s.hard ((shift.sketch s).withJournal journal).hard := by
    show Alike _ _ (shift.sketch s).hard
    rw [hard_sketch]
    cases s.hard <;> trivial
  have heeded : Alike (fun _ _ => True) (s.heeded algorithm)
      (((shift.sketch s).withJournal journal).heeded algorithm) := by
    show Alike _ _ ((shift.sketch s).heeded algorithm)
    rw [heeded_sketch]
    cases s.heeded algorithm <;> trivial
  exact (Simulates.liftM hard).bind fun _ _ _ => (Simulates.liftM heeded).bind fun _ _ _ =>
    simulates_note

/-- A backend solves both sketches alike if it is impartial or all kinds are exact. -/
theorem simulates_solve {backend : Backend} (fair : backend.Impartial ∨ kinds.Exact)
    (request : Value) :
    shift.Simulates kinds (· = ·) (solve backend request) (solve backend request) := by
  refine .get_bind fun s journal _ => ?_
  have options : ((shift.sketch s).withJournal journal).options = s.options := rfl
  dsimp only
  rw [options]
  refine .bind_same (simulates_effectiveAlgorithm request) fun algorithm => ?_
  refine .bind_same (simulates_noteStart _ _ _) fun _ => ?_
  refine .get_bind fun posed journal standing => ?_
  have proposes : Alike (fun problem other : Problem =>
      Agree (backend.run problem algorithm s.options).proposal
        (backend.run other algorithm s.options).proposal)
      (posed.problem algorithm) ((shift.sketch posed).problem algorithm) := by
    rcases fair with impartial | all
    · exact (shift.problem_sketch posed algorithm).mono
        fun _ _ resembles => impartial _ _ resembles algorithm s.options
    · rw [shift.problem_sketch_of_exact posed (standing.exact (standing.known ▸ all))]
      cases posed.problem algorithm with
      | error fault => rfl
      | ok problem => exact .refl _
  refine (Simulates.liftM proposes).bind fun problem other same => ?_
  refine .bind_same (simulates_of_writes (.noteEvents _ _ _) (.noteEvents _ _ _)) fun _ => ?_
  refine .get_bind fun judged _ _ => ?_
  refine .bind_same (.liftM same) fun proposal => ?_
  refine (Simulates.liftM (shift.judge_sketch judged _ algorithm proposal)).bind ?_
  rintro attempt _ rfl
  refine .bind_same (simulates_of_writes (.records _) (.records _)) fun _ => ?_
  refine .bind_same (.modify fun _ _ standing => ⟨rfl, { standing with }, rfl⟩) fun _ => ?_
  exact .bind_same (simulates_of_writes (.noteOutcome _ _ _) (.noteOutcome _ _ _))
    fun _ => .pure rfl

/-- The same solution is applied to both sketches, and the same is measured. -/
theorem simulates_apply (bestEffort : Value) :
    shift.Simulates kinds (· = ·) (apply bestEffort) (apply bestEffort) := by
  have stale : Writes noteStale := by
    intro sketch
    unfold noteStale
    rw [outcome_get_bind]
    cases sketch.attempt with
    | none => exact Writes.nothing sketch
    | some attempt => exact Writes.ite .note .nothing sketch
  refine .bind_same (simulates_of_writes stale stale) fun _ => .get_bind fun s journal _ => ?_
  have same : ((shift.sketch s).withJournal journal).applicable? bestEffort =
      s.applicable? bestEffort := shift.applicable?_sketch s bestEffort
  rw [same]
  refine .step_bind fun pending => ?_
  cases pending with
  | none => exact .pure rfl
  | some pending =>
    obtain ⟨slots, values⟩ := pending
    have stays (store : Store) (count : Nat) (after : Store)
        (done : store.assign slots values = .ok (count, after)) :
        after.identity = store.identity := by
      obtain ⟨-, -, answered⟩ := bind_eq_ok.mp done
      have written : (store.writeFreeAll (slots.zip values)).2 = after :=
        congrArg Prod.snd (Except.ok.inj answered)
      rw [← written]
      exact congrArg Binding.store (Store.binding_writeFreeAll store _)
    have assigned : shift.Simulates kinds (· = ·) (onStore (·.assign slots values))
        (onStore (·.assign slots values)) :=
      simulates_onStore (fun store => shift.assign_store store slots values) stays
    refine .bind_same assigned.discard fun _ => .get_bind fun s _ _ => ?_
    exact .bind_same (simulates_commitMeasurements s.store.snapshot).discard fun _ => .pure rfl

end Shift

end Drafting
