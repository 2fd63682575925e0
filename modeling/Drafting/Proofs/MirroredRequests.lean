import Drafting.Proofs.Relabelling
import Drafting.Proofs.Resolution
import Drafting.Proofs.Slots
import Drafting.Proofs.Steadiness

/-!
# Requests on sketches that mirror each other

A sketch mirrors another one if it is that sketch with its identifiers and its generations ahead, up
to what the journal says. Two requests simulate each other if, on sketches that do, their answers
are related or they are refused for the same sort of fault, and the sketches they leave mirror each
other again. Whatever is composed of requests that simulate each other does so as well.
-/

namespace Drafting

namespace Shift

variable (shift : Shift) (kinds : Catalog)

/-- A sketch stands at the source of a shift and knows some kinds. If these are exact, so are its
constraints. -/
structure Standing (s : Sketch) : Prop where
  home : s.store.identity = shift.source
  known : s.catalog = kinds
  exact : s.Exact

/-- A sketch that stands at the source mirrors into another one by a shift. -/
structure Mirrors (s t : Sketch) : Prop where
  standing : shift.Standing kinds s
  threshold : t.journal.threshold = s.journal.threshold
  same : t = (shift.sketch s).withJournal t.journal

/-- Two requests do what is related on sketches that mirror each other. -/
def Simulates (related : α → β → Prop) (request : Session α) (other : Session β) : Prop :=
  ∀ s t, shift.Mirrors kinds s t →
    Alike related (request.outcome s).1 (other.outcome t).1 ∧
      shift.Mirrors kinds (request.outcome s).2 (other.outcome t).2

variable {shift kinds} {α β γ δ : Type} {related : α → β → Prop} {related' : γ → δ → Prop}

/-- Sketches go on mirroring each other with other journals. -/
theorem Mirrors.withJournal {s t : Sketch} (mirrors : shift.Mirrors kinds s t)
    {journal journal' : Journal} (threshold : journal'.threshold = journal.threshold) :
    shift.Mirrors kinds (s.withJournal journal) (t.withJournal journal') where
  standing := { mirrors.standing with }
  threshold := threshold
  same := by
    have same := mirrors.same
    generalize t.journal = last at same
    subst same
    rfl

namespace Simulates

open Session

/-- Answers that are related. -/
theorem pure {answer : α} {other : β} (same : related answer other) :
    shift.Simulates kinds related (pure answer) (pure other) :=
  fun _ _ mirrors => ⟨same, mirrors⟩

/-- Steps that know no sketch and are alike. -/
theorem liftM {step : Except Fault α} {other : Except Fault β} (alike : Alike related step other) :
    shift.Simulates kinds related (liftM step : Session α) (liftM other : Session β) := by
  intro s t mirrors
  rw [outcome_liftM, outcome_liftM]
  exact ⟨alike, mirrors⟩

/-- Refusals for the same sort of fault. -/
theorem throw {fault other : Fault} (same : fault.category = other.category) :
    shift.Simulates kinds related (throw fault : Session α) (throw other : Session β) :=
  fun _ _ mirrors => ⟨same, mirrors⟩

/-- What follows requests that simulate each other, after answers that are related. -/
theorem bind {first : Session α} {first' : Session β} {next : α → Session γ}
    {next' : β → Session δ} (before : shift.Simulates kinds related first first')
    (later : ∀ answer other, related answer other →
      shift.Simulates kinds related' (next answer) (next' other)) :
    shift.Simulates kinds related' (first >>= next) (first' >>= next') := by
  intro s t mirrors
  obtain ⟨alike, after⟩ := before s t mirrors
  rw [outcome_bind, outcome_bind]
  revert alike after
  rcases first.outcome s with ⟨fault | answer, s'⟩ <;>
    rcases first'.outcome t with ⟨fault' | answer', t'⟩ <;> intro alike after
  · exact ⟨alike, after⟩
  · exact alike.elim
  · exact alike.elim
  · exact later _ _ alike s' t' after

/-- What follows requests with the same answers. -/
theorem bind_same {first first' : Session α} {next : α → Session γ} {next' : α → Session δ}
    (before : shift.Simulates kinds (· = ·) first first')
    (later : ∀ answer, shift.Simulates kinds related' (next answer) (next' answer)) :
    shift.Simulates kinds related' (first >>= next) (first' >>= next') :=
  before.bind fun answer _ same => same ▸ later answer

/-- Requests whose answers are given in some form. -/
theorem map {request : Session α} {other : Session β} {form : α → γ} {form' : β → δ}
    (simulates : shift.Simulates kinds related request other)
    (forms : ∀ answer answer', related answer answer' → related' (form answer) (form' answer')) :
    shift.Simulates kinds related' (request >>= fun answer => Pure.pure (form answer))
      (other >>= fun answer => Pure.pure (form' answer)) :=
  simulates.bind fun _ _ same => .pure (forms _ _ same)

/-- What follows a step that knows no sketch. -/
theorem step_bind {step : Except Fault α} {next : α → Session γ} {next' : α → Session δ}
    (later : ∀ answer, shift.Simulates kinds related' (next answer) (next' answer)) :
    shift.Simulates kinds related' (MonadLift.monadLift step >>= next)
      (MonadLift.monadLift step >>= next') :=
  bind_same (.liftM (.refl step)) later

/-- Requests whose answers do not matter. -/
theorem discard {request : Session α} {other : Session β}
    (simulates : shift.Simulates kinds related request other) :
    shift.Simulates kinds (· = ·) (discard request : Session Unit)
      (discard other : Session Unit) :=
  simulates.bind fun _ _ _ => .pure rfl

/-- What follows a look at sketches that mirror each other. -/
theorem get_bind {next : Sketch → Session α} {next' : Sketch → Session β}
    (later : ∀ s journal, shift.Standing kinds s →
      shift.Simulates kinds related (next s) (next' ((shift.sketch s).withJournal journal))) :
    shift.Simulates kinds related (get >>= next) (get >>= next') := by
  intro s t mirrors
  rw [outcome_get_bind, outcome_get_bind]
  have simulates := later s t.journal mirrors.standing
  rw [← mirrors.same] at simulates
  exact simulates s t mirrors

/-- Changes that correspond. -/
theorem modify {change change' : Sketch → Sketch}
    (changes : ∀ s journal, shift.Standing kinds s →
      change' ((shift.sketch s).withJournal journal) =
          (shift.sketch (change s)).withJournal journal ∧
        shift.Standing kinds (change s) ∧ (change s).journal = s.journal) :
    shift.Simulates kinds (· = ·) (modify change) (modify change') := by
  intro s t mirrors
  obtain ⟨same, standing, journal⟩ := changes s t.journal mirrors.standing
  rw [← mirrors.same] at same
  refine ⟨rfl, standing, ?_, ?_⟩
  · show (change' t).journal.threshold = (change s).journal.threshold
    rw [same, journal]
    exact mirrors.threshold
  · show change' t = (shift.sketch (change s)).withJournal (change' t).journal
    rw [same]
    rfl

/-- Rescues from the same sorts of fault. -/
theorem tryCatch {request : Session α} {request' : Session β} {rescue : Fault → Session α}
    {rescue' : Fault → Session β} (simulates : shift.Simulates kinds related request request')
    (rescues : ∀ fault fault' : Fault, fault.category = fault'.category →
      shift.Simulates kinds related (rescue fault) (rescue' fault')) :
    shift.Simulates kinds related (tryCatch request rescue) (tryCatch request' rescue') := by
  intro s t mirrors
  obtain ⟨alike, after⟩ := simulates s t mirrors
  rw [outcome_tryCatch, outcome_tryCatch]
  revert alike after
  rcases request.outcome s with ⟨fault | answer, s'⟩ <;>
    rcases request'.outcome t with ⟨fault' | answer', t'⟩ <;> intro alike after
  · exact rescues _ _ alike s' t' after
  · exact alike.elim
  · exact alike.elim
  · exact ⟨alike, after⟩

/-- Requests for members in another form, whose answers have another form as well. -/
theorem mapM_map {form : α → β} {form' : γ → δ} {step : α → Session γ} {step' : β → Session δ}
    (each : ∀ member, shift.Simulates kinds (fun answer other => other = form' answer)
      (step member) (step' (form member))) (members : List α) :
    shift.Simulates kinds (fun answers others => others = answers.map form') (members.mapM step)
      ((members.map form).mapM step') := by
  induction members with
  | nil => exact .pure rfl
  | cons member rest ih =>
    rw [List.map_cons, List.mapM_cons, List.mapM_cons]
    refine (each member).bind ?_
    rintro first _ rfl
    refine ih.bind ?_
    rintro others _ rfl
    exact .pure rfl

/-- Members in another form, for which the answers are the same, are selected alike. -/
theorem filterM_map {form : α → β} {step : α → Session Bool} {step' : β → Session Bool}
    (each : ∀ member, shift.Simulates kinds (· = ·) (step member) (step' (form member)))
    (members : List α) :
    shift.Simulates kinds (fun kept others => others = kept.map form) (members.filterM step)
      ((members.map form).filterM step') := by
  have gathered (before : List α) :
      shift.Simulates kinds (fun kept others => others = kept.map form)
        (members.filterAuxM step before)
        ((members.map form).filterAuxM step' (before.map form)) := by
    induction members generalizing before with
    | nil => exact .pure rfl
    | cons member rest ih =>
      rw [List.map_cons, List.filterAuxM, List.filterAuxM]
      refine (each member).bind_same fun answer => ?_
      cases answer
      · exact ih before
      · exact ih (member :: before)
  refine (gathered []).bind ?_
  rintro kept _ rfl
  exact .pure List.map_reverse.symm

/-- The same requests for each member of a list. -/
theorem forM {step step' : α → Session Unit}
    (each : ∀ member, shift.Simulates kinds (· = ·) (step member) (step' member))
    (members : List α) :
    shift.Simulates kinds (· = ·) (members.forM step) (members.forM step') := by
  induction members with
  | nil => exact .pure rfl
  | cons member rest ih => exact (each member).bind_same fun _ => ih

/-- Requests for members in another form, each with what is known after those before. -/
theorem foldlM_map {form : α → β} {step : γ → α → Session γ} {step' : γ → β → Session γ}
    (each : ∀ known member,
      shift.Simulates kinds (· = ·) (step known member) (step' known (form member)))
    (members : List α) (known : γ) :
    shift.Simulates kinds (· = ·) (members.foldlM step known)
      ((members.map form).foldlM step' known) := by
  induction members generalizing known with
  | nil => exact .pure rfl
  | cons member rest ih =>
    rw [List.map_cons, List.foldlM_cons, List.foldlM_cons]
    exact (each known member).bind_same fun _ => ih _

end Simulates

section Noting

open Session

/-- Lines in the journals, whatever they say. -/
theorem simulates_note {level : Level} {source : Source} {message message' : String} :
    shift.Simulates kinds (· = ·) (note level source message) (note level source message') := by
  intro s t mirrors
  rw [outcome_note, outcome_note]
  refine ⟨rfl, mirrors.withJournal ?_⟩
  rw [Journal.threshold_add, Journal.threshold_add]
  exact mirrors.threshold

/-- Lines about a tag are wanted in both journals or in none, and refused alike. -/
theorem simulates_noteTag {level : Level} {source : Source} {before before' : String}
    {tag : Value} {after after' : String} :
    shift.Simulates kinds (· = ·) (noteTag level source before tag after)
      (noteTag level source before' tag after') := by
  intro s t mirrors
  have wants : t.journal.wants level = s.journal.wants level := by
    unfold Journal.wants
    rw [mirrors.threshold]
  unfold noteTag
  rw [outcome_get_bind, outcome_get_bind, wants]
  by_cases wanted : s.journal.wants level
  · rw [if_pos wanted, if_pos wanted]
    cases tag.toNumeral with
    | ok numeral => exact simulates_note s t mirrors
    | error fault =>
      have strict : t.strict = s.strict := by
        rw [mirrors.same]
        rfl
      dsimp only
      rw [outcome_get_bind, outcome_get_bind, strict]
      by_cases refuses : s.strict
      · rw [if_pos refuses]
        exact ⟨rfl, mirrors⟩
      · rw [if_neg refuses]
        exact ⟨rfl, mirrors⟩
  · rw [if_neg wanted, if_neg wanted]
    exact ⟨rfl, mirrors⟩

/-- An operation on the store that does not look where the store stands. -/
theorem simulates_onStore {operation : Store → Except Fault (α × Store)}
    (commutes : ∀ store, operation (shift.store store) =
      (operation store).map fun result => (result.1, shift.store result.2))
    (stays : ∀ store answer after, operation store = .ok (answer, after) →
      after.identity = store.identity) :
    shift.Simulates kinds (· = ·) (onStore operation) (onStore operation) := by
  refine .get_bind fun s journal standing => ?_
  have alike : Alike (fun result other => other = (result.1, shift.store result.2) ∧
      result.2.identity = shift.source) (operation s.store) (operation (shift.store s.store)) := by
    rw [commutes]
    cases done : operation s.store with
    | error fault => rfl
    | ok result => exact ⟨rfl, (stays _ _ _ done).trans standing.home⟩
  refine (Simulates.liftM alike).bind ?_
  rintro ⟨answer, after⟩ _ ⟨rfl, there⟩
  refine .bind_same (.modify fun _ _ standing => ?_) fun _ => .pure rfl
  exact ⟨rfl, { standing with home := there }, rfl⟩

end Noting

section Looking

open Session

/-- A parameter that is looked up is the same slot. -/
theorem simulates_parameterSlot (name : Value) :
    shift.Simulates kinds (· = ·) (parameterSlot name) (parameterSlot name) := by
  cases name with
  | text word =>
    refine .get_bind fun s journal _ => ?_
    have same : ((shift.sketch s).withJournal journal).named? word = s.named? word := rfl
    rw [same]
    cases s.named? word with
    | none => exact .throw rfl
    | some slot => exact .pure rfl
  | _ => exact .bind_same (.liftM (.refl _)) fun _ => .throw rfl

/-- The value of a parameter is the same. -/
theorem simulates_parameter (name : Value) :
    shift.Simulates kinds (· = ·) (parameter name) (parameter name) :=
  .bind_same (simulates_parameterSlot name) fun _ => .get_bind fun _ _ _ => .liftM (.refl _)

/-- A geometry is looked up by corresponding references. -/
theorem simulates_geometry (id : Value) :
    shift.Simulates kinds (fun view other => other = shift.view view) (geometry id)
      (geometry (shift.reference id)) :=
  .get_bind fun s _ _ => .liftM (shift.get_table s.table id)

/-- The value of a property is the same. -/
theorem simulates_valueOf (id name : Value) :
    shift.Simulates kinds (· = ·) (valueOf id name) (valueOf (shift.reference id) name) := by
  refine (simulates_geometry id).bind ?_
  rintro view _ rfl
  rw [propertyIndex_view]
  exact .bind_same (.liftM (.refl _)) fun _ => .get_bind fun _ _ _ => .liftM (.refl _)

/-- A point is found by corresponding references. -/
theorem simulates_point (value : Value) :
    shift.Simulates kinds (fun view other => other = shift.view view) (point value)
      (point (shift.reference value)) :=
  .get_bind fun _ _ standing => .liftM (shift.findPoint_sketch standing.home value)

/-- The coordinates of a point are the same. -/
theorem simulates_pointCoordinates (value : Value) :
    shift.Simulates kinds (· = ·) (pointCoordinates value)
      (pointCoordinates (shift.reference value)) := by
  refine (simulates_point value).bind ?_
  rintro ⟨figure, binding⟩ _ rfl
  refine .get_bind fun s journal _ => ?_
  cases figure with
  | point x y =>
    exact .bind_same (.liftM (.refl _)) fun _ => .bind_same (.liftM (.refl _)) fun _ => .pure rfl
  | _ => exact .throw rfl

end Looking

section Storing

open Session

/-- A slot is allocated in both stores. -/
theorem simulates_push (value fixed tag : Value) :
    shift.Simulates kinds (· = ·) (onStore (·.push value fixed tag))
      (onStore (·.push value fixed tag)) := by
  refine simulates_onStore (fun store => shift.push_store store value fixed tag) ?_
  intro store slot grown pushed
  obtain ⟨_, _, _, -, rfl⟩ := Store.push_eq_ok pushed
  rfl

/-- A block is allocated in both stores. -/
theorem simulates_allocateBlock (values : List Value) (fixed tag : Value) :
    shift.Simulates kinds (· = ·) (allocateBlock values fixed tag)
      (allocateBlock values fixed tag) := by
  refine simulates_onStore (fun store => shift.pushAll_store store values fixed tag) ?_
  intro store block grown pushed
  obtain ⟨_, _, _, -, -, -, rfl⟩ := Store.pushAll_eq_ok pushed
  rfl

/-- A parameter is defined in both sketches. -/
theorem simulates_addParameter (name value fixed tag : Value) :
    shift.Simulates kinds (· = ·) (addParameter name value fixed tag)
      (addParameter name value fixed tag) := by
  cases name with
  | text word =>
    unfold addParameter
    dsimp only
    by_cases empty : word.isEmpty
    · rw [if_pos empty]
      exact .throw rfl
    rw [if_neg empty]
    refine .get_bind fun s journal _ => ?_
    have same : ((shift.sketch s).withJournal journal).named? word = s.named? word := rfl
    rw [same]
    by_cases taken : (s.named? word).isSome
    · rw [if_pos taken]
      exact .throw rfl
    rw [if_neg taken]
    refine .bind_same (simulates_push value fixed tag) fun slot => ?_
    exact .bind_same (.modify fun _ _ standing => ⟨rfl, { standing with }, rfl⟩) fun _ => .pure rfl
  | _ => exact .throw rfl

/-- The slots with a tag are retired in both stores. -/
theorem simulates_retire (tag : Value) :
    shift.Simulates kinds (· = ·) (retire tag) (retire tag) := by
  refine .bind_same (simulates_onStore (fun store => shift.retire_store store tag) ?_) ?_
  · intro store slots after retired
    obtain ⟨number, -, answered⟩ := bind_eq_ok.mp retired
    cases answered
    exact congrArg Binding.store (Store.binding_retireTag store number)
  · intro slots
    by_cases none : slots.isEmpty
    · rw [if_pos none]
      exact .pure rfl
    · rw [if_neg none]
      exact .bind_same simulates_noteTag fun _ => .pure rfl

/-- A slot is overwritten in both stores. -/
theorem simulates_setSlot (index value fixed : Value) :
    shift.Simulates kinds (· = ·) (setSlot index value fixed) (setSlot index value fixed) := by
  refine .get_bind fun s journal stands => ?_
  have written : ((shift.sketch s).withJournal journal).store.set index value fixed =
      ((s.store.set index value fixed).1, shift.store (s.store.set index value fixed).2) :=
    shift.set_store s.store index value fixed
  rw [written]
  refine .bind_same (.modify fun _ _ standing => ?_) fun _ => .liftM (.refl _)
  refine ⟨rfl, { standing with home := ?_ }, rfl⟩
  exact (congrArg Binding.store (Store.binding_set ..)).trans stands.home

/-- The slots are dropped from both stores. -/
theorem simulates_clearStore :
    shift.Simulates kinds (· = ·) clearStore clearStore := by
  refine .get_bind fun s journal _ => ?_
  refine .bind_same simulates_note fun _ => .modify fun s journal standing => ?_
  refine ⟨?_, { standing with }, rfl⟩
  exact congrArg (fun store => ({ (shift.sketch s).withJournal journal with store } : Sketch))
    (shift.clear_store s.store)

end Storing

section Constraining

open Session

/-- An allocated operand that stands for another one. -/
def allocated (shift : Shift) (found : Allocated) : Allocated :=
  { found with operand := shift.operand found.operand }

/-- A literal gets the same slot. -/
theorem simulates_allocate (tag : Value) (found : Resolved) :
    shift.Simulates kinds (fun found other => other = shift.allocated found) (allocate tag found)
      (allocate tag (shift.resolved found)) := by
  cases found with
  | operand operand => exact .pure rfl
  | literal x => exact .bind_same (simulates_push _ _ _) fun slot => .pure rfl

/-- The next identifier is taken in both sketches. -/
theorem simulates_takeId :
    shift.Simulates kinds (fun id other => other = id + shift.ids) takeId takeId := by
  refine .get_bind fun s journal _ => ?_
  have taken : ((shift.sketch s).withJournal journal).table.reserveId =
      (s.table.reserveId.1 + shift.ids, shift.table s.table.reserveId.2) :=
    shift.reserveId_table s.table
  rw [taken]
  exact .bind_same (.modify fun _ _ standing => ⟨rfl, { standing with }, rfl⟩) fun _ => .pure rfl

/-- A request with its outcome in the journal. -/
theorem simulates_traced {call : String} {arguments arguments' : List Value}
    {written written' : List String} {request request' : Session Nat}
    (simulates : shift.Simulates kinds (fun id other => other = id + shift.ids) request request') :
    shift.Simulates kinds (fun id other => other = id + shift.ids)
      (traced call arguments written request) (traced call arguments' written' request') := by
  refine .bind_same simulates_note fun _ => .tryCatch (simulates.bind ?_) ?_
  · rintro id _ rfl
    exact .bind_same simulates_note fun _ => .pure rfl
  · exact fun _ _ same => .bind_same simulates_note fun _ => .throw same

/-- The slot that is measured is the same. -/
theorem measuredSlot_allocated (position : Option Nat) (found : List Allocated) :
    measuredSlot position (found.map shift.allocated) = measuredSlot position found := by
  cases position with
  | none => rfl
  | some place =>
    show ((found.map shift.allocated)[place]?.bind (·.owned)) = found[place]?.bind (·.owned)
    rw [List.getElem?_map]
    cases found[place]? <;> rfl

/-- A further constraint stands for the further one. -/
theorem withConstraint_sketch (s : Sketch) (journal : Journal) (c : Constraint) :
    { (shift.sketch s).withJournal journal with
      constraints := ((shift.sketch s).withJournal journal).constraints ++ [shift.constraint c] } =
        (shift.sketch { s with constraints := s.constraints ++ [c] }).withJournal journal := by
  have appended : (shift.sketch s).constraints ++ [shift.constraint c] =
      (s.constraints ++ [c]).map shift.constraint := by
    rw [List.map_append]
    rfl
  exact congrArg
    (fun constraints => ({ (shift.sketch s).withJournal journal with constraints } : Sketch))
    appended

variable (impartial : kinds.Impartial)

include impartial

/-- A constraint is registered in both sketches by a builder that does not look at bindings. -/
theorem simulates_register {spec : ConstraintKind} (listed : spec ∈ kinds.kinds)
    (found : List Resolved) (modifiers : Modifiers) (tag : Value) :
    shift.Simulates kinds (fun id other => other = id + shift.ids)
      (register spec found modifiers tag)
      (register spec (found.map shift.resolved) modifiers tag) := by
  refine Simulates.bind (.mapM_map (simulates_allocate tag) found) ?_
  rintro allocated _ rfl
  refine simulates_takeId.bind ?_
  rintro id _ rfl
  have operands : (allocated.map shift.allocated).map (·.operand) =
      (allocated.map (·.operand)).map (·.rebound shift.binding) := by
    rw [List.map_map, List.map_map]
    rfl
  have owned : (allocated.map shift.allocated).filterMap (·.owned) =
      allocated.filterMap (·.owned) := by
    rw [List.filterMap_map]
    rfl
  dsimp only
  rw [operands, impartial.ignores spec listed shift.binding, owned, measuredSlot_allocated]
  refine (Simulates.liftM ((Alike.refl _).known fun _ built => built)).bind ?_
  rintro block _ ⟨rfl, built⟩
  refine .bind_same (.liftM (.refl _)) fun number => ?_
  refine .bind_same (.modify fun s journal standing => ⟨?_, ?_, rfl⟩) fun _ => ?_
  · exact withConstraint_sketch s journal
      { id, kind := spec.name, operands := allocated.map (·.operand), modifiers, tag := number
        size := spec.size, block, owned := allocated.filterMap (·.owned)
        valueSlot := measuredSlot spec.valueSlot allocated }
  · refine { standing with exact := fun all c there => ?_ }
    rcases List.mem_append.mp there with before | last
    · exact standing.exact all c before
    · rw [List.mem_singleton.mp last]
      exact all spec (standing.known.symm ▸ listed) _ block built
  · exact .bind_same simulates_noteTag fun _ => .pure rfl

/-- A constraint is added to both sketches by corresponding operands. -/
theorem simulates_constrain (kind : Value) (operands : List Value) (modifiers : Modifiers)
    (tag : Value) :
    shift.Simulates kinds (fun id other => other = id + shift.ids)
      (constrain kind operands modifiers tag)
      (constrain kind (shift.given kinds kind operands) modifiers tag) := by
  refine simulates_traced (.get_bind fun s journal standing => ?_)
  have resolves := shift.resolveRequest_sketch standing.home kind operands
  rw [standing.known] at resolves
  have listed (found : ConstraintKind × List Resolved)
      (named : s.resolveRequest kind operands = .ok found) : found.1 ∈ kinds.kinds := by
    have looked := (Sketch.resolveRequest_cases named).1
    exact Catalog.mem_of_lookup (standing.known ▸ looked)
  refine (Simulates.liftM (resolves.known listed)).bind ?_
  rintro ⟨spec, found⟩ _ ⟨rfl, listed⟩
  exact simulates_register impartial listed found modifiers tag

/-- A constraint is added to both sketches by corresponding operands, or refused for its
modifiers. -/
theorem simulates_addConstraint (kind : Value) (operands : List Value)
    (driving temporary scale tag : Value) :
    shift.Simulates kinds (fun id other => other = id + shift.ids)
      (addConstraint kind operands driving temporary scale tag)
      (addConstraint kind (shift.given kinds kind operands) driving temporary scale tag) :=
  .bind_same (.liftM (.refl _)) fun modifiers =>
    simulates_constrain impartial kind operands modifiers tag

end Constraining

section Measuring

open Session

/-- A constraint is measured alike under another identifier. -/
theorem simulates_measureOne (vector : Array Float) (c : Constraint) (slot : Nat) :
    shift.Simulates kinds (· = ·) (measureOne vector c slot)
      (measureOne vector (shift.constraint c) slot) := by
  refine Simulates.bind_same (.liftM (.refl (c.measure slot vector))) fun search => ?_
  by_cases stuck : search.stuck
  · rw [if_pos stuck, if_pos stuck]
    exact .bind_same simulates_note fun _ => .pure rfl
  · rw [if_neg stuck, if_neg stuck]
    exact .pure rfl

/-- A further constraint is measured alike under another identifier. -/
theorem simulates_measureNext (vector : Array Float) (measured : List (Nat × Float))
    (c : Constraint) :
    shift.Simulates kinds (· = ·) (measureNext vector measured c)
      (measureNext vector measured (shift.constraint c)) := by
  refine Simulates.bind_same (.liftM (.refl c.measuredSlot?)) fun slot => ?_
  cases slot with
  | none => exact .pure rfl
  | some slot => exact .bind_same (simulates_measureOne _ _ _) fun _ => .pure rfl

/-- The same is measured and stored. -/
theorem simulates_commitMeasurements (vector : Array Float) :
    shift.Simulates kinds (· = ·) (commitMeasurements vector) (commitMeasurements vector) := by
  have store (slot : Nat) (value : Float) :
      shift.Simulates kinds (· = ·) (commitMeasurement slot value)
        (commitMeasurement slot value) := by
    unfold commitMeasurement
    by_cases finite : value.isFinite
    · rw [if_pos finite]
      exact simulates_setSlot _ _ _
    · rw [if_neg finite]
      exact .pure rfl
  refine Simulates.bind_same (.get_bind fun s _ _ => ?_) fun measured => ?_
  · exact .foldlM_map (simulates_measureNext vector) s.constraints []
  · refine .bind_same (.forM (fun pair => ?_) measured) fun _ => .pure rfl
    obtain ⟨slot, value⟩ := pair
    exact store slot value

end Measuring

end Shift

end Drafting
