import Drafting.Proofs.ComparedAmounts
import Drafting.Proofs.ExactFormulas
import Mathlib.Data.Rat.Sqrt

/-!
# What a measurement finds

Measuring a constraint searches the value of its slot at which the first row vanishes, everything
else being held. Where numbers are not rounded and the row depends on the value along a line, the
slope that the search estimates is that of the line, whatever the step. So one correction leads to
the zero and the search ends there. It stays where it starts if the row is small there already, and
if the line is too flat to tell a zero.
-/

namespace Drafting

/-- The search for the value in a slot at which a reading of a parameter vector vanishes, the other
slots held. -/
def searchSlot {α : Type} [Arithmetic α] (first : Array α → Except Fault α) (slot : Nat)
    (vector : Array α) : Except Fault (Search α) := do
  match vector[slot]? with
  | some value =>
    searchZero (fun value => first (vector.setIfInBounds slot value)) measureSteps value
  | none =>
    discard (first vector)
    throw (.arithmetic (.slotBeyondVector slot vector.size))

/-- A constraint is measured by searching its slot for a zero of its first row. -/
theorem Constraint.measure_eq_searchSlot (c : Constraint) (slot : Nat) (vector : Array Float) :
    c.measure slot vector = searchSlot c.reading slot vector := by
  unfold Constraint.measure searchSlot
  cases vector[slot]? <;> rfl

/-- The search over the rationals. -/
def exactSearch (first : Array ℚ → Except Fault ℚ) (slot : Nat) (vector : Array ℚ) :
    Except Fault (Search ℚ) :=
  @searchSlot ℚ (exactArithmetic ℚ) first slot vector

/-- The first row of a relation over the rationals, where some functions stand for those of plane
geometry. -/
def Relation.exactRow (relation : Relation) (functions : PlaneFunctions ℚ) (vector : Array ℚ) :
    Except Fault ℚ :=
  @Relation.firstRow ℚ functions.scalar relation vector

/-- The quantity that a relation compares with its amount, over the rationals. -/
def Relation.exactQuantity (relation : Relation) (functions : PlaneFunctions ℚ)
    (vector : Array ℚ) : Except Fault ℚ :=
  @Relation.quantity ℚ functions.scalar (slotsOf vector) relation

/-- How a value that was searched along a line relates to the one that the search started from. -/
structure Settles (height slope start value : ℚ) : Prop where
  /-- A line that is not too flat nearly vanishes at the value. -/
  small : 1e-14 < |slope| → |height + slope * value| ≤ 1e-14
  /-- It vanishes there unless it was small at the start. -/
  zero : 1e-14 < |slope| → 1e-14 < |height + slope * start| → height + slope * value = 0
  /-- Where it is small the search starts and ends. -/
  kept : |height + slope * start| ≤ 1e-14 → value = start
  /-- Along a line that is too flat nothing is searched. -/
  flat : |slope| ≤ 1e-14 → value = start

/-- Whether a rational counts as zero for the search. -/
theorem atMost_measureTolerance {x : ℚ} :
    @atMost ℚ (exactArithmetic ℚ) (@magnitude ℚ (exactArithmetic ℚ) x)
      (@measureTolerance ℚ (exactArithmetic ℚ)) = true ↔ |x| ≤ 1e-14 := decide_eq_true_iff

/-- The step of the search is positive. -/
theorem step_pos (x : ℚ) : 0 < 1e-7 * @larger ℚ (exactArithmetic ℚ) 1.0 |x| := by
  have least : (1 : ℚ) ≤ @larger ℚ (exactArithmetic ℚ) 1.0 |x| := by
    unfold larger
    split
    next above => exact le_trans (by norm_num) (of_decide_eq_true above).le
    next => norm_num
  positivity

section Line

variable {reading : ℚ → Except Fault ℚ} {height slope : ℚ}
  (line : ∀ value, reading value = .ok (height + slope * value))

include line

/-- A search ends at once where the line is small. -/
theorem searchZero_small (steps : Nat) {value : ℚ} (small : |height + slope * value| ≤ 1e-14) :
    @searchZero ℚ (exactArithmetic ℚ) reading (steps + 1) value = .ok ⟨value, false⟩ := by
  unfold searchZero
  rw [line, ok_bind, if_pos (atMost_measureTolerance.mpr small)]
  rfl

/-- A search along a line settles with its second reading at the latest. -/
theorem searchZero_line (steps : Nat) (start : ℚ) : ∃ search,
    @searchZero ℚ (exactArithmetic ℚ) reading (steps + 2) start = .ok search ∧
      Settles height slope start search.value := by
  by_cases small : |height + slope * start| ≤ 1e-14
  · refine ⟨_, searchZero_small line (steps + 1) small, fun _ => small, fun _ large => ?_,
      fun _ => rfl, fun _ => rfl⟩
    exact absurd small (not_le.mpr large)
  -- The line at the start and a step further on gives the slope, whatever the step.
  have step := step_pos start
  unfold searchZero
  rw [line, ok_bind, if_neg (atMost_measureTolerance.not.mpr small)]
  dsimp only
  rw [line, ok_bind]
  change 0 < 1e-7 * @larger ℚ (exactArithmetic ℚ) 1.0 (@magnitude ℚ (exactArithmetic ℚ) start)
    at step
  generalize 1e-7 * @larger ℚ (exactArithmetic ℚ) 1.0 (@magnitude ℚ (exactArithmetic ℚ) start) =
    width at *
  have estimate :
      (height + slope * (start + width) - (height + slope * start)) / width = slope := by
    field_simp
    ring
  rw [estimate, add_sub_cancel_right]
  by_cases flat : |slope| ≤ 1e-14
  · rw [if_pos (atMost_measureTolerance.mpr flat)]
    exact ⟨_, rfl, fun steep => absurd flat (not_le.mpr steep),
      fun steep => absurd flat (not_le.mpr steep), fun _ => rfl, fun _ => rfl⟩
  · rw [if_neg (atMost_measureTolerance.not.mpr flat)]
    have sloping : slope ≠ 0 := by
      rintro rfl
      exact flat (by norm_num)
    have zero : height + slope * (start - (height + slope * start) / slope) = 0 := by
      field_simp
      ring
    have done : |height + slope * (start - (height + slope * start) / slope)| ≤ 1e-14 := by
      rw [zero]
      norm_num
    exact ⟨_, searchZero_small line steps done, fun _ => done, fun _ _ => zero,
      fun near => absurd near small, fun level => absurd level flat⟩

end Line

/-- The value of a slot on which a reading depends along a line settles. -/
theorem exactSearch_line {first : Array ℚ → Except Fault ℚ} {slot : Nat} {vector : Array ℚ}
    {height slope : ℚ} (inside : slot < vector.size)
    (line : ∀ value, first (vector.setIfInBounds slot value) = .ok (height + slope * value)) :
    ∃ search, exactSearch first slot vector = .ok search ∧
      Settles height slope vector[slot] search.value := by
  unfold exactSearch searchSlot
  rw [Array.getElem?_eq_getElem inside]
  exact searchZero_line line 23 vector[slot]

/-- The search is refused where the first reading is. -/
theorem exactSearch_refused {first : Array ℚ → Except Fault ℚ} {slot : Nat} {vector : Array ℚ}
    (inside : slot < vector.size) {fault : Fault}
    (refused : first (vector.setIfInBounds slot vector[slot]) = .error fault) :
    exactSearch first slot vector = .error fault := by
  unfold exactSearch searchSlot
  rw [Array.getElem?_eq_getElem inside]
  show (first (vector.setIfInBounds slot vector[slot]) >>= _) = _
  rw [refused]
  rfl

namespace Relation

variable {relation : Relation} {slot : Nat} {vector : Array ℚ} (functions : PlaneFunctions ℚ)

/-- The amount that is searched is nearly the quantity that it is compared with, and the search is
refused where the quantity is. -/
theorem exactSearch_amount (states : relation.amount? = some (slot : Int))
    (inside : slot < vector.size) (apart : (slot : Int) ∉ relation.reads.dropLast)
    (positive : ∀ index ∈ relation.reads.dropLast, 0 ≤ index) :
    (∀ fault, relation.exactQuantity functions vector = .error fault →
      exactSearch (relation.exactRow functions) slot vector = .error fault) ∧
    ∀ quantity, relation.exactQuantity functions vector = .ok quantity →
      ∃ search, exactSearch (relation.exactRow functions) slot vector = .ok search ∧
        |search.value - quantity| ≤ 1e-14 := by
  have row (value : ℚ) : relation.exactRow functions (vector.setIfInBounds slot value) =
      (relation.exactQuantity functions vector).map (· - value) :=
    @firstRow_setIfInBounds ℚ functions.scalar relation slot states vector inside apart positive
      value
  constructor
  · intro fault refused
    refine exactSearch_refused inside ?_
    rw [row, refused]
    rfl
  · intro quantity compared
    have line (value : ℚ) : relation.exactRow functions (vector.setIfInBounds slot value) =
        .ok (quantity + -1 * value) := by
      rw [row, compared, neg_one_mul, ← sub_eq_add_neg]
      rfl
    obtain ⟨search, found, settles⟩ := exactSearch_line inside line
    refine ⟨search, found, ?_⟩
    have small := settles.small (by norm_num)
    rwa [neg_one_mul, ← sub_eq_add_neg, abs_sub_comm] at small

/-- The ratio that is searched nearly leads from the first of two values to the second, unless the
first nearly vanishes. -/
theorem exactSearch_ratio {a b : Int} {x y : ℚ} (inside : slot < vector.size)
    (first : 0 ≤ a ∧ (slot : Int) ≠ a) (second : 0 ≤ b ∧ (slot : Int) ≠ b)
    (base : slotsOf vector a = .ok x) (result : slotsOf vector b = .ok y) :
    ∃ search, exactSearch ((proportional a b slot).exactRow functions) slot vector = .ok search ∧
      (1e-14 < |x| → |y - search.value * x| ≤ 1e-14) := by
  have line (value : ℚ) :
      (proportional a b slot).exactRow functions (vector.setIfInBounds slot value) =
        .ok (y + -x * value) := by
    unfold exactRow firstRow
    simp only [rows, slotsOf_setIfInBounds_ne second.1 second.2, result,
      slotsOf_setIfInBounds_self inside, slotsOf_setIfInBounds_ne first.1 first.2, base, ok_bind]
    rw [neg_mul, ← sub_eq_add_neg, mul_comm x]
  obtain ⟨search, found, settles⟩ := exactSearch_line inside line
  refine ⟨search, found, fun large => ?_⟩
  have small := settles.small (by rwa [abs_neg])
  rwa [neg_mul, ← sub_eq_add_neg, mul_comm x] at small

end Relation

namespace Sketch

variable {sketch : Sketch}

/-- What is known of a constraint of a built-in kind with a place for a scalar that measures a
slot: it states a relation that reads this slot last, and before it other slots of the store. -/
theorem Measures.relation {c : Constraint} {slot : Nat} {kind : BuiltinKind}
    (measures : sketch.Measures) (registered : c ∈ sketch.constraints)
    (measured : c.measuredSlot? = .ok (some slot)) (name : c.kind = kind.name) :
    ∃ relation, kind.relation? c.operands = some relation ∧ c.block = relation.block ∧
      slot < sketch.store.size ∧ (.scalar ∈ kind.slots →
        relation.reads.getLast? = some (slot : Int) ∧
        (slot : Int) ∉ relation.reads.dropLast ∧
        ∀ index ∈ relation.reads.dropLast, InStore sketch.store.size index) := by
  obtain ⟨-, -, value⟩ := Constraint.measuredSlot?_eq_some measured
  obtain ⟨place, itself, valued, alone⟩ := measures.alone c registered slot value
  obtain ⟨relation, stated, block⟩ :=
    BuiltinKind.build_eq_ok (measures.genuine.constraints c registered kind name).2
  have fits := measures.sound.operands c registered
  have existing : InStore sketch.store.size (slot : Int) :=
    fits _ (List.mem_of_getElem? itself) slot (List.mem_singleton_self _)
  refine ⟨relation, stated, block, Int.ofNat_lt.mp existing.2, fun scalar => ?_⟩
  obtain ⟨front, last, ends⟩ := BuiltinKind.relation?_endsIn scalar stated
  obtain rfl : front.length = place := Option.some.inj (ends.place.symm.trans (valued kind name))
  rw [ends.operands, List.getElem?_concat_length] at itself
  obtain rfl : last = (slot : Int) := Operand.scalar.inj (Option.some.inj itself)
  refine ⟨ends.last, fun read => ?_, fun index read => ?_⟩
  · obtain ⟨operand, given, among⟩ := List.mem_flatMap.mp (ends.before read)
    obtain ⟨other, short, rfl⟩ := List.mem_iff_getElem.mp given
    refine alone other front[other] ?_ (by omega) among
    rw [ends.operands, List.getElem?_append_left short, List.getElem?_eq_getElem short]
  · obtain ⟨operand, given, among⟩ := List.mem_flatMap.mp (ends.before read)
    exact fits operand (by rw [ends.operands]; exact List.mem_append_left _ given) index among

/-- What measuring finds, read over the rationals. A constraint is measured by searching its slot
for a zero of its first row. However the first row reads, as long as it depends on the slot along a
line the search answers, and its value settles. A constraint of a built-in kind in a sketch that is
reached reads the first row of a relation. If it compares an amount with a quantity, the value that
is found for the amount is nearly the quantity, whatever stands for the functions of plane geometry;
if it states a ratio, the ratio that is found is nearly that of the two values, up to the same
bound on the row. -/
theorem Reached.measured_settles (reached : sketch.Reached .all) :
    (∀ (c : Constraint) (slot : Nat) (vector : Array Float),
      c.measure slot vector = searchSlot c.reading slot vector) ∧
    (∀ (first : Array ℚ → Except Fault ℚ) (slot : Nat) (vector : Array ℚ)
        (inside : slot < vector.size) (height slope : ℚ),
      (∀ value, first (vector.setIfInBounds slot value) = .ok (height + slope * value)) →
        ∃ search, exactSearch first slot vector = .ok search ∧
          Settles height slope vector[slot] search.value) ∧
    ∀ c ∈ sketch.constraints, ∀ slot, c.measuredSlot? = .ok (some slot) →
      ∀ kind : BuiltinKind, c.kind = kind.name → ∃ relation,
        kind.relation? c.operands = some relation ∧ c.reading = relation.firstRow ∧
          ∀ (functions : PlaneFunctions ℚ) (vector : Array ℚ), sketch.store.size ≤ vector.size →
            (kind ∈ BuiltinKind.comparing →
              (∀ fault, relation.exactQuantity functions vector = .error fault →
                exactSearch (relation.exactRow functions) slot vector = .error fault) ∧
              ∀ quantity, relation.exactQuantity functions vector = .ok quantity →
                ∃ search, exactSearch (relation.exactRow functions) slot vector = .ok search ∧
                  |search.value - quantity| ≤ 1e-14) ∧
            (kind = .proportional → ∃ a b x y, relation = .proportional a b slot ∧
              slotsOf vector a = .ok x ∧ slotsOf vector b = .ok y ∧
                ∃ search, exactSearch (relation.exactRow functions) slot vector = .ok search ∧
                  (1e-14 < |x| → |y - search.value * x| ≤ 1e-14)) := by
  refine ⟨Constraint.measure_eq_searchSlot, fun first slot vector inside height slope line =>
    exactSearch_line inside line, fun c registered slot measured kind name => ?_⟩
  obtain ⟨relation, stated, block, existing, reads⟩ :=
    reached.measures.relation registered measured name
  refine ⟨relation, stated, Constraint.reading_of_block block, fun functions vector long => ?_⟩
  have inside : slot < vector.size := existing.trans_le long
  constructor
  · intro among
    obtain ⟨last, apart, before⟩ := reads (BuiltinKind.scalar_of_comparing among)
    have states := (BuiltinKind.amount?_of_comparing among stated).trans last
    exact Relation.exactSearch_amount functions states inside apart
      fun index read => (before index read).1
  · rintro rfl
    obtain ⟨last, apart, before⟩ := reads (by decide)
    obtain ⟨a, b, ratio, rfl⟩ := BuiltinKind.eq_proportional stated
    obtain rfl : ratio = (slot : Int) := Option.some.inj last
    have first := before a List.mem_cons_self
    have second := before b (List.mem_cons_of_mem _ List.mem_cons_self)
    obtain ⟨x, base⟩ := slotsOf_ok (first.mono long)
    obtain ⟨y, result⟩ := slotsOf_ok (second.mono long)
    refine ⟨a, b, x, y, rfl, base, result, ?_⟩
    refine Relation.exactSearch_ratio functions inside ⟨first.1, ?_⟩ ⟨second.1, ?_⟩ base result
    · rintro rfl
      exact apart List.mem_cons_self
    · rintro rfl
      exact apart (List.mem_cons_of_mem _ List.mem_cons_self)

/-- The functions of plane geometry at rationals where their values are known to be rational. -/
def rationalFunctions : PlaneFunctions ℚ where
  root x := if Rat.sqrt x * Rat.sqrt x = x then .ok (Rat.sqrt x) else .error (.arithmetic .domain)
  square x := .ok (x ^ 2)
  sine x := if x = 0 then .ok 0 else .error (.arithmetic .domain)
  cosine x := if x = 0 then .ok 1 else .error (.arithmetic .domain)
  sineHyperbolic x := if x = 0 then .ok 0 else .error (.arithmetic .domain)
  cosineHyperbolic x := if x = 0 then .ok 1 else .error (.arithmetic .domain)
  direction _ _ := 0

/-- The distance of two points is measured from a literal of two. Where the points are five apart,
the value that is found is nearly five. -/
theorem measured_settles_distance :
    let sketch := (start 0 .standard .silent).afterAll
      [.addPoint (.float 0.0) (.float 0.0) (.bool false) (.int 0),
        .addPoint (.float 1.0) (.float 0.0) (.bool false) (.int 0),
        .addConstraint (.text "p2p_distance") [.int 0, .int 1, .float 2.0] (.bool false)
          (.bool false) (.float 1.0) (.int 0)]
    ∃ c ∈ sketch.constraints, c.measuredSlot? = .ok (some 4) ∧
      ∃ (relation : Relation) (search : Search ℚ), c.reading = relation.firstRow ∧
        exactSearch (relation.exactRow rationalFunctions) 4 #[0, 0, 3, 4, 2] = .ok search ∧
          |search.value - 5| ≤ 1e-14 := by
  intro sketch
  have reached : sketch.Reached .all := reached_afterAll (reached_start ..) _
  obtain ⟨c, listed⟩ : ∃ c, sketch.constraints = [c] := ⟨_, rfl⟩
  have registered : c ∈ sketch.constraints := listed ▸ List.mem_singleton_self c
  have kind : c.kind = BuiltinKind.pointDistance.name :=
    List.singleton_injective (congrArg (List.map Constraint.kind) listed).symm
  have operands : c.operands =
      [.view ⟨.point 0 1, some ⟨0, 0⟩⟩, .view ⟨.point 2 3, some ⟨0, 0⟩⟩, .scalar 4] :=
    List.singleton_injective (congrArg (List.map Constraint.operands) listed).symm
  have measured : c.measuredSlot? = .ok (some 4) :=
    List.singleton_injective (congrArg (List.map Constraint.measuredSlot?) listed).symm
  obtain ⟨-, -, built⟩ := reached.measured_settles
  obtain ⟨relation, stated, reading, found⟩ := built c registered 4 measured .pointDistance kind
  rw [operands] at stated
  cases stated
  obtain ⟨compared, -⟩ := found rationalFunctions #[0, 0, 3, 4, 2] (by decide)
  have five : (Relation.exactQuantity (.pointDistance (.slots 0 1) (.slots 2 3) 4)
      rationalFunctions #[0, 0, 3, 4, 2]).toOption = some 5 := by decide +kernel
  cases quantity : Relation.exactQuantity (.pointDistance (.slots 0 1) (.slots 2 3) 4)
      rationalFunctions #[0, 0, 3, 4, 2] with
  | error fault =>
    rw [quantity] at five
    cases five
  | ok q =>
    obtain rfl : q = 5 := by
      rw [quantity] at five
      exact Option.some.inj five
    obtain ⟨search, ended, near⟩ := (compared (by decide)).2 5 quantity
    exact ⟨c, registered, measured, _, search, reading, ended, near⟩

end Sketch

end Drafting
