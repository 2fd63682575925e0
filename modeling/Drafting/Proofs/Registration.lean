import Drafting.Proofs.Resolution
import Drafting.Proofs.Session
import Drafting.Proofs.Slots

/-!
# Registering constraints

All operands of a constraint are resolved before anything changes. Then its literals get the next
slots, in the order of the operands, and only a tag that does not fit can still be refused: at the
first literal, before any slot is taken. So a request to add a constraint either changes nothing or
registers the constraint with its literals, as long as the kind's builder accepts its operands.
-/

namespace Drafting

/-- The operands of a constraint once its literals have the slots from the next one on. -/
def place : (next : Nat) → List Resolved → List Allocated
  | _, [] => []
  | next, .operand operand :: rest => ⟨operand, none⟩ :: place next rest
  | next, .literal _ :: rest => ⟨.scalar next, some next⟩ :: place (next + 1) rest

/-- The operands with which a kind is asked to build a constraint. -/
def placedOperands (next : Nat) (resolved : List Resolved) : List Operand :=
  (place next resolved).map (·.operand)

/-- The slots that are owned are new ones, one for each literal, in order. -/
theorem owned_place (next : Nat) (resolved : List Resolved) :
    (place next resolved).filterMap (·.owned) = List.range' next (literals resolved).length := by
  induction resolved generalizing next with
  | nil => rfl
  | cons item rest ih =>
    cases item with
    | operand operand => exact ih next
    | literal x =>
      show next :: (place (next + 1) rest).filterMap (·.owned) = _
      rw [ih]
      rfl

/-- A placed operand was resolved, or is the slot of a literal. -/
theorem mem_placedOperands {next : Nat} {resolved : List Resolved} {operand : Operand}
    (there : operand ∈ placedOperands next resolved) :
    .operand operand ∈ resolved ∨
      ∃ slot : Nat, slot ∈ (place next resolved).filterMap (·.owned) ∧
        operand = .scalar slot := by
  induction resolved generalizing next with
  | nil => cases there
  | cons item rest ih =>
    cases item with
    | operand first =>
      rcases List.mem_cons.mp there with rfl | later
      · exact .inl List.mem_cons_self
      · rcases ih later with before | owned
        · exact .inl (List.mem_cons_of_mem _ before)
        · exact .inr owned
    | literal x =>
      rcases List.mem_cons.mp there with rfl | later
      · exact .inr ⟨next, List.mem_cons_self, rfl⟩
      · rcases ih later with before | ⟨slot, owned, rfl⟩
        · exact .inl (List.mem_cons_of_mem _ before)
        · exact .inr ⟨slot, List.mem_cons_of_mem _ owned, rfl⟩

namespace Sketch

/-- The constraint that a registration adds. -/
def nextConstraint (sketch : Sketch) (spec : ConstraintKind) (resolved : List Resolved)
    (modifiers : Modifiers) (tag : Int) (block : Block) : Constraint where
  id := sketch.table.nextId
  kind := spec.name
  operands := placedOperands sketch.store.size resolved
  modifiers
  tag
  size := spec.size
  block
  owned := (place sketch.store.size resolved).filterMap (·.owned)
  valueSlot := measuredSlot spec.valueSlot (place sketch.store.size resolved)

/-- The sketch with slots for literals, fixed and under a tag, and with the next identifier taken:
what a registration leaves that was refused by the builder or for its tag. -/
def withTaken (sketch : Sketch) (given : List Float) (tag : Int) : Sketch :=
  { sketch with
    store :=
      { sketch.store with
        slots := sketch.store.slots ++ (given.map fun x => (⟨x, true, tag, false⟩ : Slot)).toArray }
    table := { sketch.table with nextId := sketch.table.nextId + 1 } }

/-- The sketch after a registration. -/
def withConstraint (sketch : Sketch) (spec : ConstraintKind) (resolved : List Resolved)
    (modifiers : Modifiers) (tag : Int) (block : Block) : Sketch :=
  { sketch.withTaken (literals resolved) tag with
    constraints := sketch.constraints ++
      [sketch.nextConstraint spec resolved modifiers tag block] }

end Sketch

namespace Session

variable {sketch : Sketch} {resolved : List Resolved} {tag : Value}

/-- One literal gets a slot if its tag fits. -/
theorem outcome_allocate_literal {x : Float} (finite : x.isFinite) :
    (allocate tag (.literal x)).outcome sketch =
      match Store.storedTag tag with
      | .ok t => (.ok ⟨.scalar sketch.store.size, some sketch.store.size⟩,
          { sketch with store := (sketch.store.append [x] true t).2 })
      | .error fault => (.error fault, sketch) := by
  unfold allocate
  rw [outcome_bind, outcome_onStore, Store.push_literal _ finite]
  cases Store.storedTag tag <;> rfl

/-- All literals get slots if their tag fits, which matters only if there are any. -/
theorem outcome_allocate {t : Int} (fits : literals resolved ≠ [] → Store.storedTag tag = .ok t)
    (finite : ∀ x ∈ literals resolved, x.isFinite) (sketch : Sketch) :
    (resolved.mapM (allocate tag)).outcome sketch =
      (.ok (place sketch.store.size resolved),
        { sketch with store := (sketch.store.append (literals resolved) true t).2 }) := by
  induction resolved generalizing sketch with
  | nil =>
    show (pure [] : Session _).outcome sketch = (.ok [], { sketch with store := _ })
    rw [outcome_pure, show literals [] = [] from rfl, Store.append_nil]
  | cons item rest ih =>
    rw [List.mapM_cons, outcome_bind]
    cases item with
    | operand operand =>
      have others := ih fits finite sketch
      rw [show (allocate tag (.operand operand)).outcome sketch = (.ok ⟨operand, none⟩, sketch)
        from rfl]
      dsimp only
      rw [outcome_bind, others]
      rfl
    | literal x =>
      have stored := fits (List.cons_ne_nil x (literals rest))
      have first := @outcome_allocate_literal sketch tag x
        (finite x List.mem_cons_self)
      rw [stored] at first
      have others := ih (fun _ => stored) (fun y later => finite y (List.mem_cons_of_mem _ later))
        { sketch with store := (sketch.store.append [x] true t).2 }
      rw [first]
      dsimp only
      rw [outcome_bind, others, Store.append_append, Store.size_append]
      rfl

/-- If the tag does not fit, the first literal is refused before anything has changed. -/
theorem outcome_allocate_refused {fault : Fault} (refused : Store.storedTag tag = .error fault)
    (finite : ∀ x ∈ literals resolved, x.isFinite) (some : literals resolved ≠ []) :
    (resolved.mapM (allocate tag)).outcome sketch = (.error fault, sketch) := by
  induction resolved with
  | nil => exact absurd rfl some
  | cons item rest ih =>
    rw [List.mapM_cons, outcome_bind]
    cases item with
    | operand operand =>
      rw [show (allocate tag (.operand operand)).outcome sketch = (.ok ⟨operand, none⟩, sketch)
        from rfl]
      dsimp only
      rw [outcome_bind, ih finite some]
    | literal x =>
      rw [outcome_allocate_literal (finite x List.mem_cons_self), refused]

/-- Taking an identifier is never refused. -/
theorem outcome_takeId (sketch : Sketch) :
    takeId.outcome sketch =
      (.ok sketch.table.nextId, { sketch with table := sketch.table.reserveId.2 }) := rfl

section Register

variable {spec : ConstraintKind} {modifiers : Modifiers} {t : Int}

/-- A registration whose literals get their slots fails only by the builder or for its tag, and
then leaves these slots and a gap in the sequence of identifiers behind. -/
theorem outcome_register (fits : literals resolved ≠ [] → Store.storedTag tag = .ok t)
    (read : ∀ n, tag.toInteger = .ok n → n = t) (finite : ∀ x ∈ literals resolved, x.isFinite) :
    ∃ before after, (register spec resolved modifiers tag).outcome sketch =
      match spec.build (placedOperands sketch.store.size resolved), tag.toInteger with
      | .error fault, _ => (.error fault, sketch.withTaken (literals resolved) t)
      | .ok _, .error fault => (.error fault, sketch.withTaken (literals resolved) t)
      | .ok block, .ok _ => (do
          noteTag .debug .constraints before tag after
          return sketch.table.nextId : Session Nat).outcome
            (sketch.withConstraint spec resolved modifiers t block) := by
  refine ⟨"Registered constraint #" ++ decimalText sketch.table.nextId ++ " " ++ spec.name,
    " driving=" ++ modifiers.driving.shown ++ " temporary=" ++ modifiers.temporary.shown ++
      " scale=" ++ generalText 6 modifiers.scale, ?_⟩
  unfold register
  rw [outcome_bind, outcome_allocate fits finite]
  dsimp only
  rw [outcome_bind, outcome_takeId]
  dsimp only
  rw [outcome_liftM_bind]
  unfold placedOperands
  cases spec.build ((place sketch.store.size resolved).map (·.operand)) with
  | error fault => rfl
  | ok block =>
    dsimp only
    rw [outcome_liftM_bind]
    cases number : tag.toInteger with
    | error fault => rfl
    | ok n =>
      obtain rfl := read n number
      rfl

/-- A registration changes nothing, or leaves the slots of its literals and a gap in the sequence of
identifiers behind, or registers the constraint. -/
theorem outcome_register_cases (spec : ConstraintKind) (modifiers : Modifiers) (tag : Value)
    (sketch : Sketch) (finite : ∀ x ∈ literals resolved, x.isFinite) :
    (∃ fault, (register spec resolved modifiers tag).outcome sketch = (.error fault, sketch)) ∨
      (∃ fault t, (register spec resolved modifiers tag).outcome sketch =
          (.error fault, sketch.withTaken (literals resolved) t) ∧
        (spec.build (placedOperands sketch.store.size resolved) = .error fault ∨
          tag.toInteger = .error fault)) ∨
      ∃ t block answer journal, tag.toInteger = .ok t ∧
        spec.build (placedOperands sketch.store.size resolved) = .ok block ∧
        (register spec resolved modifiers tag).outcome sketch =
          (answer, (sketch.withConstraint spec resolved modifiers t block).withJournal journal) ∧
        (∀ told, answer = .ok told → told = sketch.table.nextId) ∧
        (sketch.Tolerates tag → answer = .ok sketch.table.nextId) := by
  -- Whether the tag fits matters only if there is a literal.
  rcases Store.storedTag_cases tag (literals resolved ≠ []) with
    ⟨fault, refused, some⟩ | ⟨t, fits, read⟩
  · left
    refine ⟨fault, ?_⟩
    unfold register
    rw [outcome_bind, outcome_allocate_refused refused finite some]
  · right
    obtain ⟨before, after, found⟩ := outcome_register fits read finite
    rw [found]
    cases built : spec.build (placedOperands sketch.store.size resolved) with
    | error fault => exact .inl ⟨fault, t, rfl, .inl rfl⟩
    | ok block =>
      cases number : tag.toInteger with
      | error fault => exact .inl ⟨fault, t, rfl, .inr rfl⟩
      | ok n =>
        obtain rfl := read n number
        obtain ⟨answer, journal, noted, told, shown⟩ := outcome_noteTag_return .debug .constraints
          before tag after sketch.table.nextId
            (sketch.withConstraint spec resolved modifiers n block)
        exact .inr ⟨n, block, answer, journal, rfl, rfl, noted, told, shown⟩

/-- A registration does the same whatever the journal says. -/
theorem outcome_register_congr (spec : ConstraintKind) (modifiers : Modifiers) (tag : Value)
    (sketch : Sketch) (finite : ∀ x ∈ literals resolved, x.isFinite) {journal journal' : Journal}
    (same : journal'.threshold = journal.threshold) :
    ∃ answer left last last',
      (register spec resolved modifiers tag).outcome (sketch.withJournal journal) =
          (answer, Sketch.withJournal left last) ∧
        (register spec resolved modifiers tag).outcome (sketch.withJournal journal') =
          (answer, Sketch.withJournal left last') := by
  rcases Store.storedTag_cases tag (literals resolved ≠ []) with
    ⟨fault, refused, some⟩ | ⟨t, fits, read⟩
  · refine ⟨.error fault, sketch, journal, journal', ?_, ?_⟩ <;>
    · unfold register
      rw [outcome_bind, outcome_allocate_refused refused finite some]
  · obtain ⟨before, after, found⟩ :=
      @outcome_register (sketch.withJournal journal) resolved tag spec modifiers t fits read finite
    obtain ⟨before', after', found'⟩ :=
      @outcome_register (sketch.withJournal journal') resolved tag spec modifiers t fits read finite
    rw [found, found', show (sketch.withJournal journal).store = sketch.store from rfl,
      show (sketch.withJournal journal').store = sketch.store from rfl]
    cases spec.build (placedOperands sketch.store.size resolved) with
    | error fault =>
      exact ⟨.error fault, sketch.withTaken (literals resolved) t, journal, journal', rfl, rfl⟩
    | ok block =>
      cases tag.toInteger with
      | error fault =>
        exact ⟨.error fault, sketch.withTaken (literals resolved) t, journal, journal', rfl, rfl⟩
      | ok n =>
        obtain ⟨noted, last, last', here, there⟩ := @outcome_noteTag_congr .debug .constraints
          before before' tag after after' journal journal' same
            (sketch.withConstraint spec resolved modifiers t block)
        let told (result : Except Fault Unit × Sketch) : Except Fault Nat × Sketch :=
          (result.1.map fun _ => sketch.table.nextId, result.2)
        exact ⟨_, _, last, last', (outcome_bind_pure ..).trans (congrArg told here),
          (outcome_bind_pure ..).trans (congrArg told there)⟩

end Register

/-- Tracing a request changes nothing but the journal. -/
theorem outcome_traced (call : String) (arguments : List Value) (written : List String)
    (request : Session Nat) (sketch : Sketch) :
    ∃ before after, before.threshold = sketch.journal.threshold ∧
      (traced call arguments written request).outcome sketch =
        ((request.outcome (sketch.withJournal before)).1,
          (request.outcome (sketch.withJournal before)).2.withJournal after) := by
  refine ⟨sketch.journal.add ⟨.debug, .constraints,
    call ++ "(" ++ ", ".intercalate (arguments.map Value.summary ++ written) ++ ")"⟩, ?_⟩
  unfold traced
  rw [outcome_bind, outcome_note]
  dsimp only
  rw [outcome_tryCatch, outcome_bind]
  rcases request.outcome _ with ⟨fault | answer, left⟩
  · exact ⟨_, Journal.threshold_add .., rfl⟩
  · exact ⟨_, Journal.threshold_add .., rfl⟩

/-- A request to constrain resolves its operands and then registers, with lines in the journal
before and after. -/
theorem outcome_constrain (kind : Value) (operands : List Value) (modifiers : Modifiers)
    (tag : Value) (sketch : Sketch) :
    ∃ before after, before.threshold = sketch.journal.threshold ∧
      (constrain kind operands modifiers tag).outcome sketch =
        match sketch.resolveRequest kind operands with
        | .error fault => (.error fault, sketch.withJournal after)
        | .ok (spec, resolved) =>
          (((register spec resolved modifiers tag).outcome (sketch.withJournal before)).1,
            ((register spec resolved modifiers tag).outcome
              (sketch.withJournal before)).2.withJournal after) := by
  obtain ⟨before, after, level, found⟩ := outcome_traced "ConstraintRegistry.add"
    [kind, .tuple operands] [elided 120 modifiers.text, tag.summary]
    (do
      let request ← (← get).resolveRequest kind operands
      register request.1 request.2 modifiers tag) sketch
  refine ⟨before, after, level, ?_⟩
  have traces : (constrain kind operands modifiers tag).outcome sketch = _ := found
  rw [traces, outcome_get_bind, outcome_liftM_bind]
  have same : (sketch.withJournal before).resolveRequest kind operands =
    sketch.resolveRequest kind operands := rfl
  rw [same]
  rcases sketch.resolveRequest kind operands with fault | ⟨spec, resolved⟩ <;> rfl

/-- A request to constrain resolves its operands and then registers: it changes nothing but the
journal, or is refused by the builder or for its tag, or registers the constraint. -/
theorem outcome_constrain_cases (kind : Value) (operands : List Value) (modifiers : Modifiers)
    (tag : Value) (sketch : Sketch) :
    (∃ fault journal, (constrain kind operands modifiers tag).outcome sketch =
        (.error fault, sketch.withJournal journal)) ∨
      ∃ spec resolved, sketch.resolveRequest kind operands = .ok (spec, resolved) ∧
        ((∃ fault t journal, (constrain kind operands modifiers tag).outcome sketch =
              (.error fault, (sketch.withTaken (literals resolved) t).withJournal journal) ∧
            (spec.build (placedOperands sketch.store.size resolved) = .error fault ∨
              tag.toInteger = .error fault)) ∨
          ∃ t block answer journal, tag.toInteger = .ok t ∧
            spec.build (placedOperands sketch.store.size resolved) = .ok block ∧
            (constrain kind operands modifiers tag).outcome sketch =
              (answer,
                (sketch.withConstraint spec resolved modifiers t block).withJournal journal) ∧
            (∀ told, answer = .ok told → told = sketch.table.nextId) ∧
            (sketch.Tolerates tag → answer = .ok sketch.table.nextId)) := by
  obtain ⟨before, after, -, found⟩ := outcome_constrain kind operands modifiers tag sketch
  rw [found]
  cases named : sketch.resolveRequest kind operands with
  | error fault => exact .inl ⟨fault, after, rfl⟩
  | ok request =>
    obtain ⟨spec, resolved⟩ := request
    obtain ⟨-, -, placed⟩ := Sketch.resolveRequest_cases named
    dsimp only
    rcases outcome_register_cases spec modifiers tag (sketch.withJournal before)
        (fun x literal => finite_of_mem_literals placed literal) with
      ⟨fault, refused⟩ | ⟨fault, t, refused, reason⟩ |
      ⟨t, block, answer, journal, read, built, registered, told, shown⟩
    · rw [refused]
      exact .inl ⟨fault, after, rfl⟩
    · rw [refused]
      exact .inr ⟨spec, resolved, rfl, .inl ⟨fault, t, after, rfl, reason⟩⟩
    · rw [registered]
      exact .inr ⟨spec, resolved, rfl,
        .inr ⟨t, block, answer, after, read, built, rfl, told, shown⟩⟩

/-- A constraint is added with a checked factor, or nothing changes. -/
theorem outcome_addConstraint_cases (kind : Value) (operands : List Value)
    (driving temporary scale tag : Value) (sketch : Sketch) :
    (∃ fault, (addConstraint kind operands driving temporary scale tag).outcome sketch =
        (.error fault, sketch)) ∨
      ∃ modifiers, Modifiers.of driving temporary scale = .ok modifiers ∧
        (addConstraint kind operands driving temporary scale tag).outcome sketch =
          (constrain kind operands modifiers tag).outcome sketch := by
  unfold addConstraint
  rw [outcome_liftM_bind]
  cases Modifiers.of driving temporary scale with
  | error fault => exact .inl ⟨fault, rfl⟩
  | ok modifiers => exact .inr ⟨modifiers, rfl, rfl⟩

end Session

/-- A request to add a constraint with an integer tag changes nothing but the journal if it is
refused. If it is answered, the next identifier is taken, the literals among the operands get the
next slots in order, fixed and under the tag, and the constraint is registered last. -/
theorem addConstraint_atomic (sketch : Sketch) (kind : Value) (operands : List Value)
    (driving temporary scale : Value) (tag : Int)
    (builds : ∀ spec resolved, sketch.resolveRequest kind operands = .ok (spec, resolved) →
      ∃ block, spec.build (placedOperands sketch.store.size resolved) = .ok block) :
    (∃ fault journal,
      (Session.addConstraint kind operands driving temporary scale (.int tag)).outcome sketch =
        (.error fault, { sketch with journal })) ∨
      ∃ spec c journal, sketch.catalog.lookup kind = .ok spec ∧
        c.id = sketch.table.nextId ∧ c.kind = spec.name ∧ c.size = spec.size ∧ c.tag = tag ∧
        Modifiers.of driving temporary scale = .ok c.modifiers ∧
        c.owned = List.range' sketch.store.size (literalOperands spec.slots operands).length ∧
        (Session.addConstraint kind operands driving temporary scale (.int tag)).outcome sketch =
          (.ok sketch.table.nextId,
            { sketch with
              store :=
                { sketch.store with
                  slots := sketch.store.slots ++
                    ((literalOperands spec.slots operands).map fun x =>
                      (⟨x, true, tag, false⟩ : Slot)).toArray }
              table := { sketch.table with nextId := sketch.table.nextId + 1 }
              constraints := sketch.constraints ++ [c]
              journal }) := by
  rcases Session.outcome_addConstraint_cases kind operands driving temporary scale (.int tag) sketch
    with ⟨fault, refused⟩ | ⟨modifiers, checked, found⟩
  · exact .inl ⟨fault, sketch.journal, refused⟩
  rw [found]
  rcases Session.outcome_constrain_cases kind operands modifiers (.int tag) sketch with
    ⟨fault, journal, refused⟩ |
    ⟨spec, resolved, named, ⟨fault, t, journal, -, reason⟩ |
      ⟨t, block, answer, journal, read, -, registered, -, shown⟩⟩
  · exact .inl ⟨fault, journal, refused⟩
  · obtain ⟨block, built⟩ := builds spec resolved named
    rcases reason with failed | failed
    · cases built.symm.trans failed
    · cases failed
  · obtain ⟨known, -, placed⟩ := Sketch.resolveRequest_cases named
    have offered := literals_eq_literalOperands placed
    cases read
    refine .inr ⟨spec, sketch.nextConstraint spec resolved modifiers tag block, journal, known, rfl,
      rfl, rfl, rfl, checked, ?_, ?_⟩
    · rw [← offered]
      exact owned_place _ _
    · rw [registered, shown .int, ← offered]
      rfl

/-- In an empty sketch two literals are stated to be equal: both get a slot under the tag. -/
theorem addConstraint_atomic_literals :
    ∃ spec c journal, Catalog.builtin.lookup (.text "equal") = .ok spec ∧
      c.id = 0 ∧ c.kind = spec.name ∧ c.size = spec.size ∧ c.tag = 7 ∧
      Modifiers.of (.bool true) (.bool false) (.entry 1.0) = .ok c.modifiers ∧
      c.owned = [0, 1] ∧
      (Session.addConstraint (.text "equal") [.entry 1.0, .literal (.float 2.0)] (.bool true)
        (.bool false) (.entry 1.0) (.int 7)).outcome (.empty 0 .standard) =
          (.ok 0,
            { Sketch.empty 0 .standard with
              store := ⟨0, #[⟨1.0, true, 7, false⟩, ⟨2.0, true, 7, false⟩], 0⟩
              table := ⟨[], [], 1⟩
              constraints := [c]
              journal }) := by
  have known : (Sketch.empty 0 .standard).resolveRequest (.text "equal")
      [.entry 1.0, .literal (.float 2.0)] =
        .ok (BuiltinKind.equal.toKind, [.literal 1.0, .literal 2.0]) := rfl
  have answered : ((Session.addConstraint (.text "equal") [.entry 1.0, .literal (.float 2.0)]
      (.bool true) (.bool false) (.entry 1.0) (.int 7)).outcome
        (.empty 0 .standard)).1.toOption = some 0 := by decide +kernel
  have atomic := addConstraint_atomic (.empty 0 .standard) (.text "equal")
    [.entry 1.0, .literal (.float 2.0)] (.bool true) (.bool false) (.entry 1.0) 7
    (fun spec resolved named => by
      rw [known] at named
      cases named
      exact ⟨_, rfl⟩)
  rcases atomic with ⟨fault, journal, refused⟩ | ⟨spec, c, journal, found, rest⟩
  · rw [refused] at answered
    cases answered
  · cases found
    exact ⟨_, c, journal, rfl, rest⟩

end Drafting
