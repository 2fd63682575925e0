import Drafting.Proofs.Refusal
import Drafting.Sketch
import Mathlib.Logic.Relation

/-!
# Outcomes of requests

The outcome of a request on a sketch is its answer, or the fault for which it was refused, and the
sketch it leaves. Outcomes are taken apart step by step: the equations here give the outcome of
each way to compose requests. A request proceeds by steps of some sort if the sketch it leaves,
answered or refused, is reached from the one it found by a chain of such steps; whatever its parts
do so, the request as a whole does.
-/

namespace Drafting

/-- A line more changes no threshold. -/
@[simp] theorem Journal.threshold_add (journal : Journal) (record : Record) :
    (journal.add record).threshold = journal.threshold := by
  unfold add
  split <;> rfl

/-- The sketch with another journal. -/
def Sketch.withJournal (sketch : Sketch) (journal : Journal) : Sketch := { sketch with journal }

/-- A line about a tag is never refused: the tag can be written, or the line is left out. -/
def Sketch.Tolerates (sketch : Sketch) (tag : Value) : Prop :=
  sketch.strict = false ∨ ∃ numeral, tag.toNumeral = .ok numeral

/-- An integer can be written. -/
theorem Sketch.Tolerates.int {sketch : Sketch} {n : Int} : sketch.Tolerates (.int n) :=
  .inr ⟨_, rfl⟩

namespace Session

variable {α β : Type}

/-- An answer changes nothing. -/
@[simp] theorem outcome_pure (answer : α) (sketch : Sketch) :
    (pure answer : Session α).outcome sketch = (.ok answer, sketch) := rfl

/-- A step that may be refused but knows no sketch changes nothing. -/
@[simp] theorem outcome_liftM (step : Except Fault α) (sketch : Sketch) :
    (liftM step : Session α).outcome sketch = (step, sketch) := by
  cases step <;> rfl

/-- A second step follows the first on the sketch that it left, unless the first was refused. -/
theorem outcome_bind (first : Session α) (next : α → Session β) (sketch : Sketch) :
    (first >>= next).outcome sketch =
      match first.outcome sketch with
      | (.ok answer, after) => (next answer).outcome after
      | (.error fault, after) => (.error fault, after) := by
  unfold outcome
  rw [ExceptT.run_bind, StateT.run_bind]
  rcases (ExceptT.run first).run sketch with ⟨fault | answer, after⟩ <;> rfl

/-- To answer in another form changes nothing. -/
theorem outcome_bind_pure (request : Session α) (form : α → β) (sketch : Sketch) :
    (request >>= fun answer => pure (form answer)).outcome sketch =
      ((request.outcome sketch).1.map form, (request.outcome sketch).2) := by
  rw [outcome_bind]
  rcases request.outcome sketch with ⟨fault | answer, after⟩ <;> rfl

/-- A rescue follows a refusal, on the sketch that was left. -/
theorem outcome_tryCatch (request : Session α) (rescue : Fault → Session α) (sketch : Sketch) :
    (tryCatch request rescue).outcome sketch =
      match request.outcome sketch with
      | (.ok answer, after) => (.ok answer, after)
      | (.error fault, after) => (rescue fault).outcome after := by
  unfold outcome
  rw [ExceptT.run_tryCatch, StateT.run_bind]
  rcases (ExceptT.run request).run sketch with ⟨fault | answer, after⟩ <;> rfl

/-- A step that knows no sketch, with what follows it. -/
theorem outcome_liftM_bind (step : Except Fault α) (next : α → Session β) (sketch : Sketch) :
    (liftM step >>= next : Session β).outcome sketch =
      match step with
      | .ok answer => (next answer).outcome sketch
      | .error fault => (.error fault, sketch) := by
  rw [outcome_bind, outcome_liftM]
  cases step <;> rfl

/-- A look at the sketch, with what follows it. -/
theorem outcome_get_bind (next : Sketch → Session β) (sketch : Sketch) :
    (get >>= next : Session β).outcome sketch = (next sketch).outcome sketch := rfl

/-- A selection that knows no sketch changes nothing. -/
theorem outcome_filterM_liftM (step : α → Except Fault Bool) (members : List α) (sketch : Sketch) :
    (members.filterM fun member => (liftM (step member) : Session Bool)).outcome sketch =
      (members.filterM step, sketch) := by
  have gathered (before : List α) :
      (members.filterAuxM (fun member => (liftM (step member) : Session Bool)) before).outcome
        sketch = (members.filterAuxM step before, sketch) := by
    induction members generalizing before with
    | nil => rfl
    | cons member rest ih =>
      rw [List.filterAuxM, List.filterAuxM, outcome_liftM_bind]
      cases step member with
      | error fault => rfl
      | ok answer => exact ih _
  unfold List.filterM
  rw [outcome_bind, gathered]
  cases members.filterAuxM step [] <;> rfl

/-- A change, with what follows it. -/
theorem outcome_modify_bind (change : Sketch → Sketch) (next : PUnit → Session β)
    (sketch : Sketch) :
    (modify change >>= next : Session β).outcome sketch = (next ()).outcome (change sketch) := rfl

/-- A step whose answer does not matter, with what follows it. -/
theorem outcome_discard_bind (first : Session α) (next : Unit → Session β) (sketch : Sketch) :
    (discard first >>= next).outcome sketch =
      match first.outcome sketch with
      | (.ok _, after) => (next ()).outcome after
      | (.error fault, after) => (.error fault, after) := by
  have same : (discard first : Session Unit) = first >>= fun _ => pure () := rfl
  rw [same, bind_assoc, outcome_bind]
  rfl

/-- A line in the journal changes nothing else. -/
theorem outcome_note (level : Level) (source : Source) (message : String) (sketch : Sketch) :
    (note level source message).outcome sketch =
      (.ok (), sketch.withJournal (sketch.journal.add ⟨level, source, message⟩)) := rfl

/-- A line about a tag changes nothing besides the journal, and is not refused if the sketch
tolerates the tag. -/
theorem outcome_noteTag (level : Level) (source : Source) (before : String) (tag : Value)
    (after : String) (sketch : Sketch) :
    ∃ answer journal, (noteTag level source before tag after).outcome sketch =
        (answer, sketch.withJournal journal) ∧
      (sketch.Tolerates tag → answer = .ok ()) := by
  unfold noteTag
  rw [outcome_get_bind]
  by_cases wanted : sketch.journal.wants level
  · rw [if_pos wanted]
    cases shown : tag.toNumeral with
    | ok numeral => exact ⟨.ok (), _, outcome_note _ _ _ _, fun _ => rfl⟩
    | error fault =>
      dsimp only
      rw [outcome_get_bind]
      by_cases strict : sketch.strict
      · rw [if_pos strict]
        refine ⟨.error fault, sketch.journal, rfl, ?_⟩
        rintro (lenient | ⟨numeral, numbered⟩)
        · cases lenient.symm.trans strict
        · cases shown.symm.trans numbered
      · rw [if_neg strict]
        exact ⟨.ok (), sketch.journal, rfl, fun _ => rfl⟩
  · rw [if_neg wanted]
    exact ⟨.ok (), sketch.journal, rfl, fun _ => rfl⟩

/-- Lines about a tag, whatever they say, are refused alike in journals of one level. -/
theorem outcome_noteTag_congr {level : Level} {source : Source} {before before' : String}
    {tag : Value} {after after' : String} {journal journal' : Journal}
    (same : journal'.threshold = journal.threshold) (sketch : Sketch) :
    ∃ answer last last',
      (noteTag level source before tag after).outcome (sketch.withJournal journal) =
          (answer, sketch.withJournal last) ∧
        (noteTag level source before' tag after').outcome (sketch.withJournal journal') =
          (answer, sketch.withJournal last') := by
  have wants : journal'.wants level = journal.wants level := by
    unfold Journal.wants
    rw [same]
  unfold noteTag
  rw [outcome_get_bind, outcome_get_bind, show (sketch.withJournal journal).journal = journal
    from rfl, show (sketch.withJournal journal').journal = journal' from rfl, wants]
  by_cases wanted : journal.wants level
  · rw [if_pos wanted, if_pos wanted]
    cases tag.toNumeral with
    | ok numeral => exact ⟨.ok (), _, _, rfl, rfl⟩
    | error fault =>
      dsimp only
      rw [outcome_get_bind, outcome_get_bind, show (sketch.withJournal journal).strict =
        sketch.strict from rfl, show (sketch.withJournal journal').strict = sketch.strict from rfl]
      by_cases strict : sketch.strict
      · rw [if_pos strict]
        exact ⟨.error fault, journal, journal', rfl, rfl⟩
      · rw [if_neg strict]
        exact ⟨.ok (), journal, journal', rfl, rfl⟩
  · rw [if_neg wanted, if_neg wanted]
    exact ⟨.ok (), journal, journal', rfl, rfl⟩

/-- The same with an answer that follows. -/
theorem outcome_noteTag_return (level : Level) (source : Source) (before : String) (tag : Value)
    (after : String) (answer : α) (sketch : Sketch) :
    ∃ given journal, (do
        noteTag level source before tag after
        return answer : Session α).outcome sketch = (given, sketch.withJournal journal) ∧
      (∀ told, given = .ok told → told = answer) ∧
      (sketch.Tolerates tag → given = .ok answer) := by
  obtain ⟨noted, journal, found, shown⟩ := outcome_noteTag level source before tag after sketch
  rw [outcome_bind, found]
  cases noted with
  | error fault =>
    refine ⟨.error fault, journal, rfl, fun _ told => ?_, fun tolerates => ?_⟩
    · cases told
    · cases shown tolerates
  | ok _ =>
    exact ⟨.ok answer, journal, rfl, fun _ told => (Except.ok.inj told).symm, fun _ => rfl⟩

/-- An operation on the store changes nothing if it is refused, and else only the store. -/
theorem outcome_onStore (operation : Store → Except Fault (α × Store)) (sketch : Sketch) :
    (onStore operation).outcome sketch =
      match operation sketch.store with
      | .ok (answer, store) => (.ok answer, { sketch with store })
      | .error fault => (.error fault, sketch) := by
  unfold onStore
  rw [outcome_get_bind, outcome_liftM_bind]
  cases operation sketch.store <;> rfl

/-- A request looks if it leaves every sketch as it is. What is known of its answers comes with
it. -/
def Looks (request : Session α) (known : α → Prop) : Prop :=
  ∀ sketch, (request.outcome sketch).2 = sketch ∧
    ∀ answer, (request.outcome sketch).1 = .ok answer → known answer

/-- What knows no sketch looks. -/
theorem Looks.liftM (found : Except Fault α) :
    Looks (liftM found : Session α) (found = .ok ·) := by
  intro sketch
  rw [outcome_liftM]
  exact ⟨rfl, fun _ answered => answered⟩

/-- A check that knows no sketch looks. -/
theorem Looks.check (found : Except Fault α) :
    Looks (discard (MonadLiftT.monadLift found : Session α)) fun _ => True := by
  intro sketch
  cases found <;> exact ⟨rfl, fun _ _ => trivial⟩

/-- The outcome of a look, with what follows it. -/
theorem Looks.outcome_cases {request : Session α} {known : α → Prop} (looks : Looks request known)
    (next : α → Session β) (sketch : Sketch) :
    (∃ fault, (request >>= next).outcome sketch = (.error fault, sketch)) ∨
      ∃ answer, known answer ∧
        (request >>= next).outcome sketch = (next answer).outcome sketch := by
  obtain ⟨unchanged, tells⟩ := looks sketch
  rw [outcome_bind]
  revert unchanged tells
  rcases request.outcome sketch with ⟨fault | answer, after⟩ <;> intro unchanged tells
  · obtain rfl : after = sketch := unchanged
    exact .inl ⟨fault, rfl⟩
  · obtain rfl : after = sketch := unchanged
    exact .inr ⟨answer, tells answer rfl, rfl⟩

/-- An answer looks. -/
theorem Looks.pure {known : α → Prop} {answer : α} (held : known answer) :
    Looks (pure answer) known := by
  intro sketch
  refine ⟨rfl, fun told answered => ?_⟩
  cases answered
  exact held

/-- A look that follows a look looks. -/
theorem Looks.bind {first : Session α} {next : α → Session β} {known : α → Prop}
    {known' : β → Prop} (looks : Looks first known)
    (later : ∀ answer, known answer → Looks (next answer) known') :
    Looks (first >>= next) known' := by
  intro sketch
  rcases looks.outcome_cases next sketch with ⟨fault, refused⟩ | ⟨answer, held, went⟩
  · rw [refused]
    refine ⟨rfl, fun told answered => ?_⟩
    cases answered
  · rw [went]
    exact later answer held sketch

/-- Looks at the members of a list, one after the other. -/
theorem Looks.mapM {members : List α} {request : α → Session β} {known : α → β → Prop}
    (looks : ∀ member, Looks (request member) (known member)) :
    Looks (members.mapM request) (List.Forall₂ known members) := by
  induction members with
  | nil => exact .pure .nil
  | cons member rest ih =>
    rw [List.mapM_cons]
    exact .bind (looks member) fun _ held => .bind ih fun _ others => .pure (.cons held others)

/-- A selection by looks looks. -/
theorem Looks.filterM {members : List α} {request : α → Session Bool} {known : α → Bool → Prop}
    (looks : ∀ member, Looks (request member) (known member)) :
    Looks (members.filterM request) fun _ => True := by
  have gathered (before : List α) :
      Looks (members.filterAuxM request before) fun _ => True := by
    induction members generalizing before with
    | nil => exact .pure trivial
    | cons member rest ih => exact .bind (looks member) fun _ _ => ih _
  exact .bind (gathered []) fun _ _ => .pure trivial

/-- A request proceeds by some steps if they lead from every sketch to the one it leaves. -/
def Proceeds (step : Sketch → Sketch → Prop) (request : Session α) : Prop :=
  ∀ sketch, Relation.ReflTransGen step sketch (request.outcome sketch).2

section Proceeds

variable {step : Sketch → Sketch → Prop}

/-- What changes nothing needs no step. -/
theorem Proceeds.of_unchanged {request : Session α}
    (unchanged : ∀ sketch, (request.outcome sketch).2 = sketch) : Proceeds step request := by
  intro sketch
  rw [unchanged sketch]

/-- An answer needs no step. -/
theorem Proceeds.pure (answer : α) : Proceeds step (pure answer) := .of_unchanged fun _ => rfl

/-- A refusal needs no step. -/
theorem Proceeds.throw (fault : Fault) : Proceeds step (throw fault : Session α) :=
  .of_unchanged fun _ => rfl

/-- A look needs no step. -/
theorem Proceeds.get : Proceeds step (get : Session Sketch) := .of_unchanged fun _ => rfl

/-- What knows no sketch needs no step. -/
theorem Proceeds.liftM (found : Except Fault α) : Proceeds step (liftM found : Session α) :=
  .of_unchanged fun sketch => by rw [outcome_liftM]

/-- A look needs no step, whatever is known of its answers. -/
theorem Looks.proceeds {request : Session α} {known : α → Prop} (looks : Looks request known) :
    Proceeds step request := .of_unchanged fun sketch => (looks sketch).1

/-- A change that is a step. -/
theorem Proceeds.modify {change : Sketch → Sketch} (steps : ∀ sketch, step sketch (change sketch)) :
    Proceeds step (modify change : Session PUnit) :=
  fun sketch => .single (steps sketch)

/-- Steps of the first part, then steps of what follows. -/
theorem Proceeds.bind {first : Session α} {next : α → Session β} (before : Proceeds step first)
    (later : ∀ answer, Proceeds step (next answer)) : Proceeds step (first >>= next) := by
  intro sketch
  have first_steps := before sketch
  rw [outcome_bind]
  revert first_steps
  rcases first.outcome sketch with ⟨fault | answer, after⟩ <;> intro first_steps
  · exact first_steps
  · exact first_steps.trans (later answer after)

/-- Steps for each member of a list, one after the other. -/
theorem Proceeds.forM {members : List α} {request : α → Session PUnit}
    (each : ∀ member, Proceeds step (request member)) : Proceeds step (members.forM request) := by
  induction members with
  | nil => exact .pure _
  | cons member rest ih => exact .bind (each member) fun _ => ih

/-- Steps for each member of a list, with what is known after the members before. -/
theorem Proceeds.foldlM {members : List α} {request : β → α → Session β}
    (each : ∀ known member, Proceeds step (request known member)) (known : β) :
    Proceeds step (members.foldlM request known) := by
  induction members generalizing known with
  | nil => exact .pure _
  | cons member rest ih =>
    rw [List.foldlM_cons]
    exact .bind (each known member) fun _ => ih _

/-- Steps of what follows a look, on the sketch that was seen. -/
theorem Proceeds.get_bind {next : Sketch → Session β}
    (later : ∀ sketch, Relation.ReflTransGen step sketch ((next sketch).outcome sketch).2) :
    Proceeds step (MonadState.get >>= next) := later

end Proceeds

end Session

end Drafting
