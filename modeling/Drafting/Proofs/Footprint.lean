import Drafting.Proofs.ResidualDomains
import Drafting.Proofs.Readiness

/-!
# Residuals keep to their operands

The residual of a built-in kind reads the slots of its operands and nothing else, whichever geometry
stands in its places. So where these slots exist no reading goes astray, the rows are as many as the
kind declares, and what is refused is refused by the formula itself: a function outside its domain,
a value beyond the largest number, the coordinates of what is no point. Parameter vectors that agree
on these slots are not told apart, not even by a refusal.
-/

namespace Drafting

/-- The faults of a formula whose slots can all be read. -/
inductive Fault.OfFormula : Fault → Prop
  | domain : OfFormula (.arithmetic .domain)
  | range : OfFormula (.arithmetic .range)
  | notPoint (kind : GeometryKind) : OfFormula (.arithmetic (.notPoint kind))

/-- A fault of a formula is none of access beyond a vector, and none about a count of rows. -/
theorem Fault.OfFormula.harmless {fault : Fault} (formula : fault.OfFormula) :
    fault.category ∉ [.index, .indexOutOfRange] ∧
      ∀ key expected given, fault ≠ .rowCount key expected given := by
  cases formula <;> exact ⟨by simp [Fault.category, ArithmeticFault.category], nofun⟩

/-- If a step is refused, then by the formula itself. -/
def Formulaic {α : Type} (step : Except Fault α) : Prop :=
  ∀ fault, step = .error fault → fault.OfFormula

section Steps

variable {α β : Type}

/-- What is there is not refused. -/
@[simp] theorem formulaic_ok (answer : α) : Formulaic (.ok answer) := nofun

/-- Two steps are refused by the formula itself if each is that comes to be made. -/
@[simp] theorem formulaic_bind {step : Except Fault α} {next : α → Except Fault β} :
    Formulaic (step >>= next) ↔
      Formulaic step ∧ ∀ answer, step = .ok answer → Formulaic (next answer) := by
  cases step with
  | error fault =>
    have refused : Formulaic (.error fault : Except Fault β) ↔
        Formulaic (.error fault : Except Fault α) := by simp [Formulaic]
    exact refused.trans ⟨fun first => ⟨first, nofun⟩, And.left⟩
  | ok answer => simp [ok_bind]

/-- What becomes of an answer does not matter to the refusal of a step. -/
@[simp] theorem formulaic_map {step : Except Fault α} {f : α → β} :
    Formulaic (step.map f) ↔ Formulaic step := by
  cases step <;> simp [Formulaic, Except.map]

end Steps

/-- A function on a domain is refused by the formula. -/
theorem formulaic_onDomain (f : Float → Float) (x : Float) : Formulaic (onDomain f x) := by
  unfold onDomain
  dsimp only
  split
  · rintro _ ⟨⟩
    exact .domain
  · exact formulaic_ok _

/-- A function with a range is refused by the formula. -/
theorem formulaic_withinRange (f : Float → Float) (x : Float) : Formulaic (withinRange f x) := by
  unfold withinRange
  dsimp only
  split
  · rintro _ ⟨⟩
    exact .range
  · exact formulaic_ok _

section Formulas

/-! ## The functions of plane geometry

What a formula takes of the values that it read is refused by the formula itself, if at all. -/

variable (x : Float) (u v w : PlaneVector Float)

@[simp] theorem formulaic_root : Formulaic (root x) := formulaic_onDomain _ _

@[simp] theorem formulaic_square : Formulaic (square x) := formulaic_withinRange _ _

@[simp] theorem formulaic_sine : Formulaic (sine x) := formulaic_onDomain _ _

@[simp] theorem formulaic_cosine : Formulaic (cosine x) := formulaic_onDomain _ _

@[simp] theorem formulaic_sineHyperbolic : Formulaic (sineHyperbolic x) := formulaic_withinRange _ _

@[simp] theorem formulaic_cosineHyperbolic : Formulaic (cosineHyperbolic x) :=
  formulaic_withinRange _ _

@[simp] theorem formulaic_length : Formulaic u.length := formulaic_root _

@[simp] theorem formulaic_safeLength : Formulaic u.safeLength :=
  formulaic_map.mpr (formulaic_length u)

@[simp] theorem formulaic_distance : Formulaic (distance u v) := formulaic_length _

@[simp] theorem formulaic_wrapAngle : Formulaic (wrapAngle x) := by simp [wrapAngle]

@[simp] theorem formulaic_conicFrame : Formulaic (ConicFrame.of u v) := by simp [ConicFrame.of]

@[simp] theorem formulaic_signedDistance (line : PlaneVector Float × PlaneVector Float) :
    Formulaic (signedDistance u line) := by simp [signedDistance]

@[simp] theorem formulaic_lineDistance (line : PlaneVector Float × PlaneVector Float) :
    Formulaic (lineDistance u line) := by simp [lineDistance]

@[simp] theorem formulaic_relative (product : PlaneVector Float → PlaneVector Float → Float) :
    Formulaic (relative product u v) := by simp [relative]

@[simp] theorem formulaic_focalDistances : Formulaic (focalDistances u v w) := by
  simp [focalDistances]

@[simp] theorem formulaic_hyperbolicMajor (minor : Float) : Formulaic (hyperbolicMajor x minor) :=
  formulaic_root _

end Formulas

section Slots

variable (value : Int → Float)

/-- The abscissa is refused where there is no point. -/
@[simp] theorem PointSlots.formulaic_x (p : PointSlots) : Formulaic p.x := by
  cases p with
  | slots x y => exact formulaic_ok x
  | missing kind =>
    rintro _ ⟨⟩
    exact .notPoint kind

/-- The ordinate is refused where there is no point. -/
@[simp] theorem PointSlots.formulaic_y (p : PointSlots) : Formulaic p.y := by
  cases p with
  | slots x y => exact formulaic_ok y
  | missing kind =>
    rintro _ ⟨⟩
    exact .notPoint kind

@[simp] theorem PointSlots.formulaic_vector (p : PointSlots) :
    Formulaic (p.vector fun slot => .ok (value slot)) := by simp [vector]

@[simp] theorem LineSlots.formulaic_directed (line : LineSlots) :
    Formulaic (line.directed fun slot => .ok (value slot)) := by simp [directed]

/-- The ends of an arc are refused by the formula if the points of its curve are. -/
theorem ArcEndSlots.formulaic_rows (ends : ArcEndSlots)
    {curve : Float → Except Fault (PlaneVector Float)} (all : ∀ t, Formulaic (curve t)) :
    Formulaic (ends.rows (fun slot => .ok (value slot)) curve) := by simp [rows, all]

/-- A relation whose slots have values is refused by the formula itself, if at all. -/
theorem Relation.formulaic_rows (relation : Relation) :
    Formulaic (relation.rows fun slot => .ok (value slot)) := by
  cases relation <;> simp [rows, ArcEndSlots.formulaic_rows]

end Slots

/-- The slots of the operands of a constraint exist in a store of some size. -/
def Constraint.Fits (c : Constraint) (size : Nat) : Prop :=
  ∀ operand ∈ c.operands, ∀ slot ∈ operand.slots, InStore size slot

/-- A constraint under the name of a built-in kind was built by that kind. -/
def Constraint.Genuine (c : Constraint) : Prop :=
  ∀ kind : BuiltinKind, c.kind = kind.name →
    c.size = kind.size ∧ kind.toKind.build c.operands = .ok c.block

namespace Constraint.Genuine

variable {c : Constraint} (genuine : c.Genuine) {kind : BuiltinKind} (name : c.kind = kind.name)
  {v w : Array Float}

include genuine name

/-- It has as many rows as the kind declares. -/
theorem exact : c.Exact := by
  obtain ⟨size, built⟩ := genuine kind name
  unfold Constraint.Exact
  rw [size]
  exact kind.exact c.operands c.block built

/-- Its rows, where there are any, are as many as the kind declares. -/
theorem length_rows {rows : List Float} (given : c.rows v = .ok rows) :
    rows.length = kind.size := by
  rw [(genuine.exact name).rows_eq] at given
  cases read : c.block (slotsOf v) with
  | error fault =>
    rw [read] at given
    cases given
  | ok answer =>
    rw [read] at given
    cases given
    rw [List.length_map]
    exact (genuine.exact name _ _ read).trans (genuine kind name).1

/-- Its block reads the slots of its operands only. -/
theorem block_congr {read read' : SlotReader Float}
    (agree : ∀ operand ∈ c.operands, ∀ slot ∈ operand.slots, read slot = read' slot) :
    c.block read = c.block read' := by
  obtain ⟨relation, stated, block⟩ := BuiltinKind.build_eq_ok (genuine kind name).2
  rw [block]
  exact BuiltinKind.block_congr stated agree

/-- Where the slots of its operands exist, its block reads their values. -/
theorem block_slotsOf (fits : c.Fits v.size) :
    c.block (slotsOf v) = c.block fun slot => .ok (valueAt v slot) :=
  genuine.block_congr name fun operand given slot among =>
    slotsOf_eq_valueAt (fits operand given slot among)

/-- Where the slots of its operands exist, its rows are refused by the formula itself, if at all. -/
theorem formulaic_rows (fits : c.Fits v.size) : Formulaic (c.rows v) := by
  obtain ⟨relation, -, block⟩ := BuiltinKind.build_eq_ok (genuine kind name).2
  rw [(genuine.exact name).rows_eq, formulaic_map, genuine.block_slotsOf name fits, block]
  exact formulaic_map.mpr (relation.formulaic_rows (valueAt v))

/-- Between points, it has rows exactly where every function that its formula takes has a value. -/
theorem answers_rows_iff (fits : c.Fits v.size)
    (pointed : ∀ operand ∈ c.operands, operand.Pointed) :
    Answers (c.rows v) ↔ c.InDomain v := by
  obtain ⟨relation, stated, block⟩ := BuiltinKind.build_eq_ok (genuine kind name).2
  exact Constraint.answers_rows_iff name stated block (genuine.exact name) pointed fits

/-- Vectors that agree on the slots of its operands are not told apart. -/
theorem rows_congr (here : c.Fits v.size) (there : c.Fits w.size)
    (agree : ∀ operand ∈ c.operands, ∀ slot ∈ operand.slots, valueAt v slot = valueAt w slot) :
    c.rows v = c.rows w := by
  have same : c.block (slotsOf v) = c.block (slotsOf w) := by
    rw [genuine.block_slotsOf name here, genuine.block_slotsOf name there]
    exact genuine.block_congr name fun operand given slot among =>
      congrArg Except.ok (agree operand given slot among)
  unfold rows
  rw [same]

end Constraint.Genuine

namespace Sketch

variable {sketch after : Sketch} {scope : Scope}

/-- The built-in kinds are known under their names, and these names are used for nothing else. -/
structure Genuine (sketch : Sketch) : Prop where
  catalog : ∀ kind : BuiltinKind, sketch.catalog.find? kind.name = some kind.toKind
  constraints : ∀ c ∈ sketch.constraints, c.Genuine

/-- A new sketch is genuine. -/
theorem genuine_start (identity : Nat) (options : SolveOptions) (journal : Journal) :
    (start identity options journal).Genuine where
  catalog := Catalog.find?_builtin
  constraints := List.forall_mem_nil _

/-- Every change keeps a sketch genuine. -/
theorem Genuine.change (genuine : sketch.Genuine) (change : Change scope sketch after) :
    after.Genuine := by
  cases change with
  | @constrained _ _ spec _ _ modifiers tag known offered named built =>
    refine ⟨genuine.catalog, fun c registered => ?_⟩
    rcases List.mem_append.mp registered with before | last
    · exact genuine.constraints c before
    · rw [List.mem_singleton.mp last]
      intro kind name
      -- The kind that was looked up has this name, which means the built-in kind.
      have same : spec.name = kind.name := name
      have found := Catalog.find?_of_lookup (resolveRequest_cases named).1
      rw [same, genuine.catalog kind] at found
      cases found
      exact ⟨rfl, built⟩
  | defined build registered =>
    exact ⟨fun kind => Catalog.find?_complete (Catalog.find?_of_register registered)
      (genuine.catalog kind) build, genuine.constraints⟩
  | removed =>
    exact ⟨genuine.catalog, fun c there => genuine.constraints c (List.mem_of_mem_filter there)⟩
  | cleared => exact ⟨genuine.catalog, List.forall_mem_nil _⟩
  | _ => exact ⟨genuine.catalog, genuine.constraints⟩

/-- Every sketch that is reached is genuine. -/
theorem Reached.genuine (reached : sketch.Reached scope) : sketch.Genuine :=
  reached.invariant genuine_start Genuine.change

/-- What requests leave of a sketch that is reached is reached. -/
theorem reached_afterAll (reached : sketch.Reached .all) (requests : List Request) :
    (sketch.afterAll requests).Reached .all := by
  obtain ⟨identity, options, journal, earlier, -, rfl⟩ := reached
  exact ⟨identity, options, journal, earlier ++ requests, fun request _ => request.within_all,
    (List.foldl_append ..).symm⟩

/-- A constraint that was added is registered under the identifier that was answered, as one of the
kind that was named. -/
theorem exists_added {kind : Value} {operands : List Value} {driving temporary scale tag : Value}
    {id : Nat} (accepted :
      (Session.addConstraint kind operands driving temporary scale tag).outcome sketch =
        (.ok id, after)) :
    ∃ spec, sketch.catalog.lookup kind = .ok spec ∧
      ∃ c ∈ after.constraints, c.id = id ∧ c.kind = spec.name := by
  rcases Session.outcome_addConstraint_cases kind operands driving temporary scale tag sketch with
    ⟨fault, refused⟩ | ⟨modifiers, -, found⟩
  · cases accepted.symm.trans refused
  rw [found] at accepted
  rcases Session.outcome_constrain_cases kind operands modifiers tag sketch with
    ⟨fault, journal, refused⟩ |
    ⟨spec, resolved, named, ⟨fault, t, journal, refused, -⟩ |
      ⟨t, block, answer, journal, -, -, registered, told, -⟩⟩
  · cases accepted.symm.trans refused
  · cases accepted.symm.trans refused
  · cases accepted.symm.trans registered
    refine ⟨spec, (resolveRequest_cases named).1, sketch.nextConstraint spec resolved modifiers t
      block, ?_, (told id rfl).symm, rfl⟩
    exact List.mem_append_right _ (List.mem_singleton_self _)

/-- The sketch that a request to add a constraint leaves, accepted. -/
theorem after_addConstraint {kind : Value} {operands : List Value}
    {driving temporary scale tag : Value} {id : Nat} (accepted :
      (Session.addConstraint kind operands driving temporary scale tag).outcome sketch =
        (.ok id, after)) :
    sketch.after (.addConstraint kind operands driving temporary scale tag) = after := by
  unfold Sketch.after Request.perform
  rw [Session.outcome_bind_pure, accepted]

end Sketch

/-- Residual blocks keep to their operands. Whichever operands are accepted for a built-in kind, the
constraint is registered under the identifier that is answered, and as long as it is, at every
parameter vector at least as long as the store: it is never refused for an access beyond the vector
or for its count of rows, and its rows, where there are any, are as many as the kind declares. If
the parts of its operands are points, there are rows exactly where every function of its formula has
a value. Two such vectors that agree on the slots of its operands give the same rows, or the same
refusal. -/
theorem residual_keeps_to_operands {sketch after : Sketch} (reached : sketch.Reached .all)
    {kind : BuiltinKind} {operands : List Value} {driving temporary scale tag : Value} {id : Nat}
    (accepted : (Session.addConstraint (.text kind.name) operands driving temporary scale
      tag).outcome sketch = (.ok id, after)) :
    ∃ c, after.constraint? id = some c ∧ c.kind = kind.name ∧
      ∀ requests, let later := after.afterAll requests
        later.constraint? id = some c →
          (∀ v : Array Float, later.store.size ≤ v.size →
            (∀ fault, c.rows v = .error fault →
              fault.OfFormula ∧ fault.category ∉ [.index, .indexOutOfRange] ∧
                ∀ key expected given, fault ≠ .rowCount key expected given) ∧
            (∀ rows, c.rows v = .ok rows → rows.length = kind.size) ∧
            ((∀ operand ∈ c.operands, operand.Pointed) → (Answers (c.rows v) ↔ c.InDomain v))) ∧
          ∀ v w : Array Float, later.store.size ≤ v.size → later.store.size ≤ w.size →
            (∀ operand ∈ c.operands, ∀ slot ∈ operand.slots, valueAt v slot = valueAt w slot) →
              c.rows v = c.rows w := by
  have adds := Sketch.after_addConstraint accepted
  have further (requests : List Request) : (after.afterAll requests).Reached .all :=
    adds ▸ Sketch.reached_afterAll reached (.addConstraint (.text kind.name) operands driving
      temporary scale tag :: requests)
  obtain ⟨spec, looked, c, registered, rfl, name⟩ := Sketch.exists_added accepted
  cases (Catalog.lookup_of_find? (reached.genuine.catalog kind)).symm.trans looked
  refine ⟨c, (further []).numbered.constraint?_id registered, name, fun requests => ?_⟩
  intro later still
  have there := (Sketch.constraint?_eq_some still).1
  have genuine := (further requests).genuine.constraints c there
  have fits {v : Array Float} (long : later.store.size ≤ v.size) : c.Fits v.size :=
    fun operand given slot among =>
      ((further requests).sound.operands c there operand given slot among).mono long
  constructor
  · refine fun v long => ⟨fun fault refused => ?_, fun rows given => genuine.length_rows name given,
      genuine.answers_rows_iff name (fits long)⟩
    have formula := genuine.formulaic_rows name (fits long) fault refused
    exact ⟨formula, formula.harmless⟩
  · exact fun v w long also agree => genuine.rows_congr name (fits long) (fits also) agree

/-- The abscissa of the first of two points is stated by a literal. Parameter vectors that differ in
the second point only give the same row. -/
theorem residual_keeps_to_operands_abscissa :
    let points := (Sketch.start 0 .standard .silent).afterAll
      [.addPoint (.float 0.0) (.float 0.0) (.bool false) (.int 0),
        .addPoint (.float 1.0) (.float 0.0) (.bool false) (.int 0)]
    let stated := points.after
      (.addConstraint (.text "coordinate_x") [.int 0, .float 2.0] (.bool true) (.bool false)
        (.float 1.0) (.int 0))
    ∃ c, stated.constraint? 2 = some c ∧ c.rows #[0.5, 1.0, 3.0, 4.0, 2.0] = .ok [-1.5] ∧
      c.rows #[0.5, 1.0, 7.0, 8.0, 2.0] = .ok [-1.5] := by
  intro points stated
  have reached : points.Reached .all := Sketch.reached_afterAll (Sketch.reached_start ..) _
  have accepted : (Session.addConstraint (.text BuiltinKind.coordinateX.name) [.int 0, .float 2.0]
      (.bool true) (.bool false) (.float 1.0) (.int 0)).outcome points = (.ok 2, stated) := rfl
  obtain ⟨c, found, -, keeps⟩ := residual_keeps_to_operands reached accepted
  obtain ⟨-, alike⟩ := keeps [] found
  have operands : c.operands = [.view ⟨.point 0 1, some ⟨0, 0⟩⟩, .scalar 4] :=
    Option.some.inj (congrArg (Option.map Constraint.operands) found.symm)
  have same : c.rows #[0.5, 1.0, 3.0, 4.0, 2.0] = c.rows #[0.5, 1.0, 7.0, 8.0, 2.0] := by
    refine alike _ _ (by decide) (by decide) ?_
    rw [operands]
    simp [Operand.slots, View.indices, Figure.indices, valueAt]
  have row : (stated.constraint? 2).map
      (fun c => (c.rows #[0.5, 1.0, 3.0, 4.0, 2.0]).toOption) = some (some [-1.5]) := by
    decide +kernel
  rw [show stated.constraint? 2 = some c from found, Option.map_some, Option.some.injEq] at row
  cases read : c.rows #[0.5, 1.0, 3.0, 4.0, 2.0] with
  | error fault =>
    rw [read] at row
    cases row
  | ok rows =>
    rw [read] at row
    cases row
    exact ⟨c, found, read, same ▸ read⟩

end Drafting
