import Drafting.Proofs.EditedSessions

/-!
# Where views belong

A view that was bound in a store means slots of that store, in one generation of it. Nothing that
was bound elsewhere enters a sketch: whatever is registered or referred to belongs to the store as
it is now. A request that is handed a view from elsewhere is turned away before anything changes.
Two sketches that exchange views, each cleared at times, therefore never mix.
-/

namespace Drafting

/-- A view belongs to a store if each part of it was bound nowhere, or in the store as it is now. -/
def View.Belongs (store : Store) (view : View) : Prop :=
  ∀ part ∈ view.parts, part.binding = none ∨ part.binding = some store.binding

/-- Where a view belongs is a matter of the binding only. -/
theorem View.belongs_congr {store other : Store} (same : other.binding = store.binding)
    {view : View} : view.Belongs other ↔ view.Belongs store := by
  unfold Belongs
  rw [same]

namespace Store

variable {store : Store} {view : View}

/-- A view that is accepted belongs here. -/
theorem belongs_of_checkView {found : View} (accepted : store.checkView view = .ok found) :
    view.Belongs store :=
  fun part there => checkPart_eq_ok.mp ((checkView_eq_ok.mp accepted).1 part there)

/-- A view from elsewhere is refused as such, whether its slots exist or not. -/
theorem checkView_elsewhere (elsewhere : ¬ view.Belongs store) :
    ∃ fault, store.checkView view = .error fault ∧ fault.category = .indexOutOfRange := by
  unfold checkView
  cases checked : view.parts.forM store.checkPart with
  | ok _ =>
    exact absurd (fun part there => checkPart_eq_ok.mp (forM_eq_ok.mp checked part there)) elsewhere
  | error fault =>
    refine ⟨fault, rfl, ?_⟩
    obtain ⟨part, -, refused⟩ := exists_of_forM_error checked
    unfold checkPart at refused
    split at refused
    · cases refused
    · split at refused
      · cases refused
      · cases refused
        rfl

end Store

namespace Sketch

variable {sketch after : Sketch} {scope : Scope}

/-- Geometry was bound in the store as it is now, and all that is registered or referred to belongs
there. -/
structure Native (sketch : Sketch) : Prop where
  bound : ∀ entry ∈ sketch.table.entries, entry.view.binding = some sketch.store.binding
  views : ∀ entry ∈ sketch.table.entries, entry.view.Belongs sketch.store
  operands : ∀ c ∈ sketch.constraints, ∀ view, .view view ∈ c.operands →
    view.Belongs sketch.store

/-- Nothing in a new sketch is from elsewhere. -/
theorem native_start (identity : Nat) (options : SolveOptions) (journal : Journal) :
    (start identity options journal).Native where
  bound := List.forall_mem_nil _
  views := List.forall_mem_nil _
  operands := List.forall_mem_nil _

/-- Dropping within a generation lets nothing in. -/
theorem Native.mono (native : sketch.Native) (same : after.store.binding = sketch.store.binding)
    (entries : after.table.entries.Sublist sketch.table.entries)
    (constraints : after.constraints.Sublist sketch.constraints) : after.Native where
  bound entry there := same ▸ native.bound entry (entries.subset there)
  views entry there := (View.belongs_congr same).mpr (native.views entry (entries.subset there))
  operands c there view given :=
    (View.belongs_congr same).mpr (native.operands c (constraints.subset there) view given)

/-- A view that is drawn belongs to the store. -/
theorem Draws.belongs_view {view : View} {count : Nat} (draws : sketch.Draws scope count view) :
    view.Belongs sketch.store := by
  intro part there
  rcases List.mem_cons.mp there with rfl | later
  · exact .inr draws.bound
  · exact Store.checkPart_eq_ok.mp (draws.belongs part later)

/-- An operand that is placed as a view was accepted or registered. -/
theorem Native.placed (native : sketch.Native) {kind : Value} {operands : List Value}
    {spec : ConstraintKind} {resolved : List Resolved}
    (named : sketch.resolveRequest kind operands = .ok (spec, resolved)) {view : View}
    (given : .view view ∈ placedOperands sketch.store.size resolved) :
    view.Belongs sketch.store := by
  obtain ⟨-, -, all⟩ := resolveRequest_cases named
  rcases mem_placedOperands given with there | ⟨slot, -, impossible⟩
  · obtain ⟨place, value, -, resolves⟩ := Resolves.of_mem all there
    cases resolves with
    | given geometric accepted => exact Store.belongs_of_checkView accepted
    | registered geometric registered => exact native.views _ registered
  · cases impossible

/-- No change lets anything in from elsewhere. -/
theorem Native.change (native : sketch.Native) (change : Change scope sketch after) :
    after.Native := by
  cases change with
  | @drawn view values fixed slotTag tag draws =>
    refine ⟨fun entry there => ?_, fun entry there => ?_, native.operands⟩
    · rcases List.mem_append.mp there with before | new
      · exact native.bound entry before
      · rw [List.mem_singleton.mp new]
        exact draws.bound
    · rcases List.mem_append.mp there with before | new
      · exact native.views entry before
      · rw [List.mem_singleton.mp new]
        exact (View.belongs_congr rfl).mpr draws.belongs_view
  | constrained modifiers tag known offered named =>
    refine ⟨native.bound, native.views, fun c registered view given => ?_⟩
    rcases List.mem_append.mp registered with before | last
    · exact native.operands c before view given
    · rw [List.mem_singleton.mp last] at given
      exact native.placed named given
  | removed => exact native.mono rfl (.refl _) List.filter_sublist
  | dropped => exact native.mono rfl List.filter_sublist (.refl _)
  | cleared => exact ⟨List.forall_mem_nil _, List.forall_mem_nil _, List.forall_mem_nil _⟩
  | retired tag => exact native.mono (Store.binding_retireTag ..) (.refl _) (.refl _)
  | applied => exact native.mono (Store.binding_writeFreeAll ..) (.refl _) (.refl _)
  | noted | grown | reserved | named | defined | attempted | measured =>
    exact native.mono rfl (.refl _) (.refl _)

/-- Nothing in a sketch that is reached is from elsewhere. -/
theorem Reached.native (reached : sketch.Reached scope) : sketch.Native :=
  reached.invariant native_start Native.change

end Sketch

namespace Sketch

variable {sketch : Sketch} {view : View} {before after : List Value}

/-- A point is not found by a view from elsewhere. A view of another kind is looked up as if it were
an identifier. -/
theorem findPoint_elsewhere (elsewhere : ¬ view.Belongs sketch.store) :
    ∃ fault, sketch.findPoint (.view view) = .error fault ∧
      (view.kind = .point → fault.category = .indexOutOfRange) := by
  unfold findPoint
  by_cases point : view.kind = .point
  · obtain ⟨fault, refused, sort⟩ := Store.checkView_elsewhere elsewhere
    refine ⟨fault, ?_, fun _ => sort⟩
    dsimp only
    rw [if_pos point, refused]
  · refine ⟨.missingGeometry (.view view), ?_, fun impossible => absurd impossible point⟩
    dsimp only
    rw [if_neg point]
    rfl

/-- A view from elsewhere is no operand. In a place for a scalar no view is. -/
theorem resolve_elsewhere (elsewhere : ¬ view.Belongs sketch.store) (slot : SlotKind)
    (position : Nat) :
    ∃ fault, sketch.resolve slot position (.view view) = .error fault ∧
      (slot ≠ .scalar → fault.category = .indexOutOfRange) := by
  unfold resolve
  by_cases scalar : slot = .scalar
  · rw [if_pos scalar]
    exact ⟨.operandNotScalar position (.view view), rfl, absurd scalar⟩
  · obtain ⟨fault, refused, sort⟩ := Store.checkView_elsewhere elsewhere
    refine ⟨fault, ?_, fun _ => sort⟩
    have viewed : sketch.resolveView position (.view view) = .error fault := refused
    unfold resolveGeometry
    rw [if_neg scalar, viewed]
    rfl

/-- A request for a constraint comes to look at the operand after some others: the kind is known,
takes that many operands, accepts those before, and has a place for geometry next. -/
def AcceptsUpTo (sketch : Sketch) (kind : Value) (operands before : List Value) : Prop :=
  ∃ spec slot found, sketch.catalog.lookup kind = .ok spec ∧
    operands.length = spec.slots.length ∧
      sketch.resolveAll (spec.slots.take before.length) before = .ok found ∧
        spec.slots[before.length]? = some slot ∧ slot ≠ .scalar

/-- No constraint of a kind is added with an operand between some others: the request is refused,
and only the journal has changed. If the request comes to look at the operand, the fault is of some
category. -/
def RefusesOperand (sketch : Sketch) (kind : Value) (before : List Value) (value : Value)
    (after : List Value) (category : FaultCategory) : Prop :=
  ∀ driving temporary scale tag, ∃ fault journal,
    (Session.addConstraint kind (before ++ value :: after) driving temporary scale tag).outcome
          sketch = (.error fault, sketch.withJournal journal) ∧
      ((∃ modifiers, Modifiers.of driving temporary scale = .ok modifiers) →
        sketch.AcceptsUpTo kind (before ++ value :: after) before → fault.category = category)

/-- Operands are not resolved if one of them is refused in its place. If the request comes to look
at that one, it is refused because of it. -/
theorem resolveRequest_refused {kind value : Value} {category : FaultCategory}
    (refuses : ∀ spec slot, sketch.catalog.lookup kind = .ok spec →
      spec.slots[before.length]? = some slot →
        ∃ fault, sketch.resolve slot before.length value = .error fault ∧
          (slot ≠ .scalar → fault.category = category)) :
    ∃ fault, sketch.resolveRequest kind (before ++ value :: after) = .error fault ∧
      (sketch.AcceptsUpTo kind (before ++ value :: after) before → fault.category = category) := by
  rcases sketch.resolveRequest_place_cases kind before after with
    ⟨fault, refused, misfits⟩ | ⟨spec, slot, known, placed, count⟩
  · refine ⟨fault, refused value, ?_⟩
    rintro ⟨spec, _, _, known, counted, -⟩
    exact absurd counted (misfits spec value known)
  · obtain ⟨fault, refused, sort⟩ := refuses spec slot known placed
    unfold AcceptsUpTo
    rw [resolveRequest_append_cons known (count value) placed, known]
    cases first : sketch.resolveAll (spec.slots.take before.length) before with
    | error earlier =>
      refine ⟨earlier, rfl, ?_⟩
      rintro ⟨_, _, found, ⟨⟩, -, all, -⟩
      cases first.symm.trans all
    | ok found =>
      rw [ok_bind, refused]
      refine ⟨fault, rfl, ?_⟩
      rintro ⟨_, slot, -, ⟨⟩, -, -, here, geometric⟩
      cases placed.symm.trans here
      exact sort geometric

end Sketch

namespace Session

variable {α β : Type} {sketch : Sketch}

/-- A request that looks some values up as points, in order, before it does anything else. -/
inductive LooksUp : List Value → Session α → Prop
  | none (request : Session α) : LooksUp [] request
  | point (value : Value) {rest : List Value} {next : View → Session α}
    (later : ∀ view, LooksUp rest (next view)) : LooksUp (value :: rest) (point value >>= next)

/-- What follows does not matter. -/
theorem LooksUp.bind {values : List Value} {request : Session α} (looks : LooksUp values request)
    (next : α → Session β) : LooksUp values (request >>= next) := by
  induction looks with
  | none request => exact .none _
  | point value _ ih =>
    rw [bind_assoc]
    exact .point value ih

/-- A request is refused for a value that is no point, unless it is for one before it, and then
nothing has changed. -/
theorem LooksUp.refused {request : Session α} {before after : List Value} {value : Value}
    {fault : Fault} (looks : LooksUp (before ++ value :: after) request)
    (refused : sketch.findPoint value = .error fault) :
    ∃ first, request.outcome sketch = (.error first, sketch) ∧
      ((∀ earlier ∈ before, ∃ view, sketch.findPoint earlier = .ok view) → first = fault) := by
  generalize split : before ++ value :: after = values at looks
  induction looks generalizing before with
  | none => simp at split
  | @point head rest next later ih =>
    rw [outcome_bind, outcome_point]
    cases before with
    | nil =>
      obtain ⟨rfl, -⟩ := List.cons.inj split
      rw [refused]
      exact ⟨fault, rfl, fun _ => rfl⟩
    | cons earlier others =>
      obtain ⟨rfl, rfl⟩ := List.cons.inj split
      cases found : sketch.findPoint earlier with
      | error first =>
        refine ⟨first, rfl, fun all => ?_⟩
        obtain ⟨view, answered⟩ := all earlier List.mem_cons_self
        cases found.symm.trans answered
      | ok view =>
        obtain ⟨first, outcome, same⟩ := ih view rfl
        exact ⟨first, outcome, fun all =>
          same fun other there => all other (List.mem_cons_of_mem _ there)⟩

/-- No constraint is added with an operand that is refused in its place. -/
theorem refusesOperand {kind value : Value} {before after : List Value}
    {category : FaultCategory}
    (refuses : ∀ spec slot, sketch.catalog.lookup kind = .ok spec →
      spec.slots[before.length]? = some slot →
        ∃ fault, sketch.resolve slot before.length value = .error fault ∧
          (slot ≠ .scalar → fault.category = category)) :
    sketch.RefusesOperand kind before value after category := by
  intro driving temporary scale tag
  obtain ⟨fault, refused, sort⟩ :=
    @Sketch.resolveRequest_refused sketch before after kind value category refuses
  unfold addConstraint
  rw [outcome_liftM_bind]
  cases checked : Modifiers.of driving temporary scale with
  | error first =>
    refine ⟨first, sketch.journal, rfl, ?_⟩
    rintro ⟨modifiers, impossible⟩
    cases impossible
  | ok modifiers =>
    obtain ⟨_, journal, -, found⟩ :=
      outcome_constrain kind (before ++ value :: after) modifiers tag sketch
    dsimp only
    rw [found, refused]
    exact ⟨fault, journal, rfl, fun _ accepts => sort accepts⟩

/-- No constraint is added with a view from elsewhere. -/
theorem refusesOperand_elsewhere {view : View} (elsewhere : ¬ view.Belongs sketch.store)
    (kind : Value) (before after : List Value) :
    sketch.RefusesOperand kind before (.view view) after .indexOutOfRange :=
  refusesOperand fun _ slot _ _ => Sketch.resolve_elsewhere elsewhere slot _

end Session

namespace Request

/-- The operands of a request, in the order in which it looks at them: the points that a geometry
is drawn through, or what a constraint relates. -/
def operands : Request → List Value
  | addLine start finish _ => [start, finish]
  | addCircle center .. => [center]
  | addArc center start finish .. => [center, start, finish]
  | addEllipse center focus .. | addHyperbola center focus .. | addParabola center focus _ =>
    [center, focus]
  | addArcOfEllipse center focus start finish .. | addArcOfHyperbola center focus start finish ..
  | addArcOfParabola center focus start finish .. => [center, focus, start, finish]
  | pointCoordinates value => [value]
  | addConstraint _ operands .. => operands
  | _ => []

/-- Whether a request comes to look at a view where it stands behind some operands: what is checked
before is accepted, and the view is one of a point where a point is wanted, or stands where a
constraint wants geometry. -/
def Examines (sketch : Sketch) (before : List Value) (view : View) : Request → Prop
  | addConstraint kind operands driving temporary scale _ =>
    (∃ modifiers, Modifiers.of driving temporary scale = .ok modifiers) ∧
      sketch.AcceptsUpTo kind operands before
  | _ => view.kind = .point ∧ ∀ earlier ∈ before, ∃ point, sketch.findPoint earlier = .ok point

/-- Every request but one for a constraint looks its operands up as points first. -/
theorem looksUp_operands {request : Request}
    (drawn : ∀ kind values driving temporary scale tag,
      request ≠ .addConstraint kind values driving temporary scale tag) :
    Session.LooksUp request.operands request.perform := by
  cases request with
  | addLine | addEllipse | addHyperbola | addParabola =>
    exact Session.LooksUp.bind (.point _ fun _ => .point _ fun _ => .none _) _
  | addCircle => exact Session.LooksUp.bind (.point _ fun _ => .none _) _
  | addArc =>
    exact Session.LooksUp.bind (.point _ fun _ => .point _ fun _ => .point _ fun _ => .none _) _
  | addArcOfEllipse | addArcOfHyperbola | addArcOfParabola =>
    exact Session.LooksUp.bind
      (.point _ fun _ => .point _ fun _ => .point _ fun _ => .point _ fun _ => .none _) _
  | pointCoordinates => exact Session.LooksUp.bind (.point _ fun _ => .none _) _
  | addConstraint => exact absurd rfl (drawn _ _ _ _ _ _)
  | _ => exact .none _

/-- A request that is handed a view from elsewhere is refused, and only the journal has changed. If
it comes to look at the view, it is refused because of it. -/
theorem refused_elsewhere {request : Request} {sketch : Sketch} {before after : List Value}
    {view : View} (handed : request.operands = before ++ .view view :: after)
    (elsewhere : ¬ view.Belongs sketch.store) :
    ∃ fault journal, request.perform.outcome sketch = (.error fault, sketch.withJournal journal) ∧
      (request.Examines sketch before view → fault.category = .indexOutOfRange) := by
  by_cases constrains : ∃ kind values driving temporary scale tag,
      request = .addConstraint kind values driving temporary scale tag
  · obtain ⟨kind, values, driving, temporary, scale, tag, rfl⟩ := constrains
    obtain rfl : values = before ++ .view view :: after := handed
    obtain ⟨fault, journal, refused, sort⟩ :=
      Session.refusesOperand_elsewhere elsewhere kind before after driving temporary scale tag
    refine ⟨fault, journal, ?_, fun examines => sort examines.1 examines.2⟩
    show ((Session.addConstraint kind _ driving temporary scale tag) >>=
      fun id => pure (Answer.id id)).outcome sketch = _
    rw [Session.outcome_bind_pure, refused]
    rfl
  · have looks := @looksUp_operands request fun _ _ _ _ _ _ same =>
      constrains ⟨_, _, _, _, _, _, same⟩
    rw [handed] at looks
    obtain ⟨fault, refused, sort⟩ := Sketch.findPoint_elsewhere elsewhere
    obtain ⟨first, outcome, same⟩ := looks.refused refused
    refine ⟨first, sketch.journal, outcome, fun examines => ?_⟩
    have examined : view.kind = .point ∧
        ∀ earlier ∈ before, ∃ point, sketch.findPoint earlier = .ok point := by
      cases request with
      | addConstraint => exact absurd ⟨_, _, _, _, _, _, rfl⟩ constrains
      | _ => exact examines
    rw [same examined.2]
    exact sort examined.1

end Request

end Drafting
