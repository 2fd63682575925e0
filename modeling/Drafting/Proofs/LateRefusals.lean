import Drafting.Proofs.Registration
import Drafting.Sketch.Request

/-!
# What a late refusal leaves behind

Once the operands of a constraint are resolved, its literals get their slots, then the next
identifier is taken, then the builder of the kind is asked for the block, and the tag is read last.
Nothing is taken back when one of these is refused. So a refusal of the tag leaves everything as it
was only where a literal asks for the tag first. The builder leaves the slots of the literals and a
gap in the sequence of identifiers behind, and a tag that no literal asks for leaves the gap.
-/

namespace Drafting

/-- A request to add a constraint is refused late if the builder refuses the resolved operands, or
the tag is no integer, or there is a literal and the tag does not fit into its slot. -/
def RefusedLate (spec : ConstraintKind) (placed : List Operand) (given : List Float)
    (tag : Value) : Prop :=
  (∃ fault, spec.build placed = .error fault) ∨ (∃ fault, tag.toInteger = .error fault) ∨
    given ≠ [] ∧ ∃ fault, Store.storedTag tag = .error fault

/-- A late refusal is one of the tag by a literal. Else the literals get their slots, and the
builder refuses the operands, or answers and the tag is no integer. -/
theorem RefusedLate.cases {spec : ConstraintKind} {placed : List Operand} {given : List Float}
    {tag : Value} (late : RefusedLate spec placed given tag) :
    (given ≠ [] ∧ ∃ fault, Store.storedTag tag = .error fault) ∨
      ∃ t fault, (given ≠ [] → Store.storedTag tag = .ok t) ∧
        (spec.build placed = .error fault ∨
          (∃ block, spec.build placed = .ok block) ∧ tag.toInteger = .error fault) := by
  rcases Store.storedTag_cases tag (given ≠ []) with ⟨fault, refused, some⟩ | ⟨t, fits, -⟩
  · exact .inl ⟨some, fault, refused⟩
  refine .inr ⟨t, ?_⟩
  rcases late with ⟨fault, failed⟩ | ⟨fault, failed⟩ | ⟨some, fault, refused⟩
  · exact ⟨fault, fits, .inl failed⟩
  · cases built : spec.build placed with
    | error first => exact ⟨first, fits, .inl rfl⟩
    | ok block => exact ⟨fault, fits, .inr ⟨⟨block, rfl⟩, failed⟩⟩
  · cases (fits some).symm.trans refused

namespace Sketch

/-- The tag of the literals that stay behind matters only if there are any. -/
theorem withTaken_congr (sketch : Sketch) {resolved : List Resolved} {tag : Value} {t t' : Int}
    (fits : literals resolved ≠ [] → Store.storedTag tag = .ok t)
    (fits' : literals resolved ≠ [] → Store.storedTag tag = .ok t') :
    sketch.withTaken (literals resolved) t = sketch.withTaken (literals resolved) t' := by
  by_cases none : literals resolved = []
  · unfold withTaken
    rw [none]
    rfl
  · cases (fits none).symm.trans (fits' none)
    rfl

end Sketch

namespace Session

variable {sketch : Sketch} {kind : Value} {operands : List Value} {spec : ConstraintKind}
  {resolved : List Resolved} {tag : Value}

/-- If the first literal refuses the tag, only the journal changes. -/
theorem outcome_constrain_refusedTag
    (named : sketch.resolveRequest kind operands = .ok (spec, resolved)) (modifiers : Modifiers)
    {fault : Fault} (some : literals resolved ≠ []) (refused : Store.storedTag tag = .error fault) :
    ∃ journal, (constrain kind operands modifiers tag).outcome sketch =
      (.error fault, sketch.withJournal journal) := by
  obtain ⟨-, -, placed⟩ := Sketch.resolveRequest_cases named
  obtain ⟨before, after, -, found⟩ := outcome_constrain kind operands modifiers tag sketch
  refine ⟨after, ?_⟩
  rw [found, named]
  dsimp only
  have stopped : (register spec resolved modifiers tag).outcome (sketch.withJournal before) =
      (.error fault, sketch.withJournal before) := by
    unfold register
    rw [outcome_bind, outcome_allocate_refused refused
      (fun x literal => finite_of_mem_literals placed literal) some]
  rw [stopped]
  rfl

/-- If the literals got their slots, a refusal by the builder, or else of the tag, leaves these
slots and a gap in the sequence of identifiers behind. Else the constraint is registered, and only
the line about it in the journal can still be refused. -/
theorem outcome_constrain_fitting
    (named : sketch.resolveRequest kind operands = .ok (spec, resolved)) (modifiers : Modifiers)
    {t : Int} (fits : literals resolved ≠ [] → Store.storedTag tag = .ok t) :
    ∃ journal,
      match spec.build (placedOperands sketch.store.size resolved), tag.toInteger with
      | .error fault, _ => (constrain kind operands modifiers tag).outcome sketch =
          (.error fault, (sketch.withTaken (literals resolved) t).withJournal journal)
      | .ok _, .error fault => (constrain kind operands modifiers tag).outcome sketch =
          (.error fault, (sketch.withTaken (literals resolved) t).withJournal journal)
      | .ok block, .ok n => ∃ answer, (constrain kind operands modifiers tag).outcome sketch =
          (answer, (sketch.withConstraint spec resolved modifiers n block).withJournal journal) ∧
        (sketch.Tolerates tag → answer = .ok sketch.table.nextId) := by
  obtain ⟨-, -, placed⟩ := Sketch.resolveRequest_cases named
  have finite : ∀ x ∈ literals resolved, x.isFinite := fun x literal =>
    finite_of_mem_literals placed literal
  rcases Store.storedTag_cases tag (literals resolved ≠ []) with
    ⟨fault, refused, some⟩ | ⟨t', fits', read⟩
  · cases (fits some).symm.trans refused
  obtain ⟨before, after, -, found⟩ := outcome_constrain kind operands modifiers tag sketch
  obtain ⟨line, rest, registered⟩ :=
    @outcome_register (sketch.withJournal before) resolved tag spec modifiers t' fits' read finite
  rw [Sketch.withTaken_congr sketch fits fits']
  refine ⟨after, ?_⟩
  rw [found, named]
  dsimp only
  rw [registered, show (sketch.withJournal before).store = sketch.store from rfl]
  cases spec.build (placedOperands sketch.store.size resolved) with
  | error fault => rfl
  | ok block =>
    cases number : tag.toInteger with
    | error fault => rfl
    | ok n =>
      obtain rfl := read n number
      obtain ⟨answer, journal, noted, -, shown⟩ := outcome_noteTag_return .debug .constraints
        line tag rest sketch.table.nextId
          ((sketch.withJournal before).withConstraint spec resolved modifiers n block)
      refine ⟨answer, ?_, shown⟩
      dsimp only
      rw [show (sketch.withJournal before).table.nextId = sketch.table.nextId from rfl, noted]
      rfl

/-- If the literals got their slots and the builder refuses the operands, or answers and the tag is
no integer, the slots of the literals and a gap in the sequence of identifiers stay behind. -/
theorem outcome_constrain_lost
    (named : sketch.resolveRequest kind operands = .ok (spec, resolved)) (modifiers : Modifiers)
    {t : Int} {fault : Fault} (fits : literals resolved ≠ [] → Store.storedTag tag = .ok t)
    (late : spec.build (placedOperands sketch.store.size resolved) = .error fault ∨
      (∃ block, spec.build (placedOperands sketch.store.size resolved) = .ok block) ∧
        tag.toInteger = .error fault) :
    ∃ journal, (constrain kind operands modifiers tag).outcome sketch =
      (.error fault, (sketch.withTaken (literals resolved) t).withJournal journal) := by
  obtain ⟨journal, went⟩ := outcome_constrain_fitting named modifiers fits
  rcases late with failed | ⟨⟨block, built⟩, failed⟩
  · rw [failed] at went
    exact ⟨journal, went⟩
  · rw [built, failed] at went
    exact ⟨journal, went⟩

end Session

/-- What a request to add a constraint comes to once its operands are resolved: by the literals
among them, the operands that the builder is asked with, and the tag. -/
structure Sketch.ConstrainLeaves (sketch : Sketch) (spec : ConstraintKind) (given : List Float)
    (placed : List Operand) (tag : Value) (request : Except Fault Nat × Sketch) : Prop where
  /-- What is refused late is refused, and the store, the constraints and the next identifier are
  then as before exactly if the tag was refused for a literal. -/
  late : RefusedLate spec placed given tag →
    (∃ fault, request.1 = .error fault) ∧
      ((request.2.store = sketch.store ∧ request.2.constraints = sketch.constraints ∧
          request.2.table.nextId = sketch.table.nextId) ↔
        given ≠ [] ∧ ∃ fault, Store.storedTag tag = .error fault)
  /-- If the tag is refused for a literal, only the journal changes. -/
  refusedTag : ∀ fault, given ≠ [] → Store.storedTag tag = .error fault →
    ∃ journal, request = (.error fault, { sketch with journal })
  /-- If the builder refuses the operands, or answers and the tag is no integer, the slots of the
  literals and a gap in the sequence of identifiers stay behind. -/
  lost : ∀ t fault, (given ≠ [] → Store.storedTag tag = .ok t) →
    (spec.build placed = .error fault ∨
      (∃ block, spec.build placed = .ok block) ∧ tag.toInteger = .error fault) →
    ∃ journal, request = (.error fault, { sketch.withTaken given t with journal })
  /-- If neither is refused, the constraint is registered under the next identifier, which is
  answered unless the line about it in the journal is refused. -/
  registered : ∀ t block, (given ≠ [] → Store.storedTag tag = .ok t) →
    spec.build placed = .ok block → tag.toInteger = .ok t →
    ∃ answer c journal, c.id = sketch.table.nextId ∧ c.kind = spec.name ∧ c.tag = t ∧
      request =
        (answer,
          { sketch.withTaken given t with constraints := sketch.constraints ++ [c], journal }) ∧
      (sketch.Tolerates tag → answer = .ok sketch.table.nextId)

/-- What a request to add a constraint leaves once its operands are resolved, whatever the builder
of its kind and its tag. If it is then refused by the builder or for its tag, the store, the
constraints and the next identifier are as before exactly if the tag was refused for a literal.
Any other such refusal leaves a gap in the sequence of identifiers, and before it the slots of the
literals, fixed and under the tag. If the builder answers and the tag is read, the constraint is
registered. -/
theorem constrain_leftovers {sketch : Sketch} {kind : Value} {operands : List Value}
    {spec : ConstraintKind} {resolved : List Resolved}
    (named : sketch.resolveRequest kind operands = .ok (spec, resolved)) (modifiers : Modifiers)
    (tag : Value) :
    sketch.ConstrainLeaves spec (literalOperands spec.slots operands)
      (placedOperands sketch.store.size resolved) tag
      ((Session.constrain kind operands modifiers tag).outcome sketch) := by
  obtain ⟨-, -, resolves⟩ := Sketch.resolveRequest_cases named
  rw [← literals_eq_literalOperands resolves]
  have refusedTag (fault : Fault) (some : literals resolved ≠ [])
      (refused : Store.storedTag tag = .error fault) :=
    Session.outcome_constrain_refusedTag named modifiers some refused
  refine ⟨fun late => ?late, refusedTag,
    fun t fault => Session.outcome_constrain_lost named modifiers,
    fun t block fits built read => ?registered⟩
  case late =>
    -- A literal refuses the tag, or the identifier is lost.
    rcases late.cases with ⟨some, fault, refused⟩ | ⟨t, fault, fits, reason⟩
    · obtain ⟨journal, went⟩ := refusedTag fault some refused
      rw [went]
      exact ⟨⟨fault, rfl⟩, fun _ => ⟨some, fault, refused⟩, fun _ => ⟨rfl, rfl, rfl⟩⟩
    · obtain ⟨journal, went⟩ := Session.outcome_constrain_lost named modifiers fits reason
      rw [went]
      refine ⟨⟨fault, rfl⟩, fun ⟨_, _, same⟩ => ?_, fun ⟨literal, _, refused⟩ => ?_⟩
      · exact absurd same (Nat.succ_ne_self _)
      · cases (fits literal).symm.trans refused
  case registered =>
    obtain ⟨journal, went⟩ := Session.outcome_constrain_fitting named modifiers fits
    rw [built, read] at went
    obtain ⟨answer, registered, shown⟩ := went
    exact ⟨answer, sketch.nextConstraint spec resolved modifiers t block, journal, rfl, rfl, rfl,
      registered, shown⟩

/-- A registered kind whose builder refuses all operands leaves the slot of its literal behind, and
a coincidence of two points under a tag that is no integer leaves a gap in the identifiers. -/
theorem constrain_leftovers_refusals :
    let wary := (Sketch.empty 0 .standard).after
      (.registerKind (.text "wary") [.text "scalar"] (.int 1)
        fun _ _ => .error (.arithmetic .emptySequence))
    let points := (Sketch.empty 0 .standard).afterAll
      [.addPoint (.float 0.0) (.float 0.0) (.bool false) (.int 0),
        .addPoint (.float 1.0) (.float 0.0) (.bool false) (.int 0)]
    (∃ journal,
      (Session.constrain (.text "wary") [.float 5.0] .standard (.int 7)).outcome wary =
        (.error (.arithmetic .emptySequence),
          { wary with
            store := ⟨0, #[⟨5.0, true, 7, false⟩], 0⟩
            table := ⟨[], [], 1⟩
            journal })) ∧
      ∃ fault journal,
        (Session.constrain (.text "p2p_coincident") [.int 0, .int 1] .standard
          (.text "x")).outcome points =
            (.error fault,
              { points with table := { points.table with nextId := 3 }, journal }) := by
  intro wary points
  constructor
  · have named : wary.resolveRequest (.text "wary") [.float 5.0] =
        .ok (⟨"wary", [.scalar], 1, fun _ => .error (.arithmetic .emptySequence)⟩,
          [.literal 5.0]) := rfl
    exact (constrain_leftovers named .standard (.int 7)).lost 7 _ (fun _ => rfl) (.inl rfl)
  · have named : points.resolveRequest (.text "p2p_coincident") [.int 0, .int 1] =
        .ok (BuiltinKind.coincident.toKind,
          [.operand (.view ⟨.point 0 1, some ⟨0, 0⟩⟩),
            .operand (.view ⟨.point 2 3, some ⟨0, 0⟩⟩)]) := rfl
    exact ⟨_, (constrain_leftovers named .standard (.text "x")).lost 0 _
      (fun some => absurd rfl some) (.inr ⟨⟨_, rfl⟩, rfl⟩)⟩

end Drafting
