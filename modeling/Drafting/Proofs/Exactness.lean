import Drafting.Proofs.Kinds

/-!
# Kinds that give as many rows as they declare

A kind declares a count of rows, and its constraints are refused wherever their blocks give another
one. A kind is exact if this never happens. The built-in kinds are exact: the count of rows of a
relation shows in the relation itself, whatever is read.
-/

namespace Drafting

/-- Whatever values there are, they are as many as that. -/
def Counts {α : Type} (count : Nat) (rows : Except Fault (List α)) : Prop :=
  ∀ values, rows = .ok values → values.length = count

namespace Counts

variable {α β : Type} {count : Nat}

/-- Values that are there. -/
protected theorem ok {values : List α} (length : values.length = count) :
    Counts count (.ok values) := by
  rintro _ ⟨⟩
  exact length

/-- Values that come after a step. -/
protected theorem bind {step : Except Fault β} {next : β → Except Fault (List α)}
    (later : ∀ answer, Counts count (next answer)) : Counts count (step >>= next) := by
  intro values given
  obtain ⟨answer, -, followed⟩ := bind_eq_ok.mp given
  exact later answer values followed

end Counts

/-- How many rows a relation has. -/
def Relation.count : Relation → Nat
  | coincident .. => 2
  | arcRules .. | ellipseArcRules .. | hyperbolaArcRules .. | parabolaArcRules ..
  | splineEndRules _ => 4
  | _ => 1

section Relations

variable {α : Type} [Scalar α] (read : SlotReader α)

/-- The two ends of an arc miss its curve by two rows each. -/
theorem ArcEndSlots.counts_rows (ends : ArcEndSlots) (curve : α → Except Fault (PlaneVector α)) :
    Counts 4 (ends.rows read curve) :=
  .bind fun _ => .bind fun _ => .bind fun _ => .bind fun _ => .bind fun _ => .bind fun _ => .ok rfl

/-- A relation has that many rows. -/
theorem Relation.counts_rows (relation : Relation) :
    Counts relation.count (relation.rows read) := by
  cases relation with
  | arcRules circle ends => exact .bind fun _ => .bind fun _ => ends.counts_rows read _
  | ellipseArcRules conic ends =>
    exact .bind fun _ => .bind fun _ => .bind fun _ => .bind fun _ => .bind fun _ =>
      ends.counts_rows read _
  | hyperbolaArcRules conic ends =>
    exact .bind fun _ => .bind fun _ => .bind fun _ => .bind fun _ => .bind fun _ =>
      ends.counts_rows read _
  | parabolaArcRules parabola ends =>
    exact .bind fun _ => .bind fun _ => .bind fun _ => ends.counts_rows read _
  | _ =>
    unfold rows
    repeat refine .bind fun _ => ?_
    exact .ok rfl

end Relations

namespace BuiltinKind

variable {kind : BuiltinKind} {operands : List Operand} {relation : Relation}

/-- A relation that a built-in kind states has as many rows as the kind declares. -/
theorem count_of_relation? (stated : kind.relation? operands = some relation) :
    relation.count = kind.size := by
  cases states_of_relation? stated
  all_goals rfl

end BuiltinKind

/-- A block gives as many rows as that wherever it gives any. -/
def GivesRows (block : Block) (count : Nat) : Prop :=
  ∀ read value, block read = .ok value → value.toRows.length = count

/-- A kind gives as many rows as it declares. -/
def ConstraintKind.Exact (kind : ConstraintKind) : Prop :=
  ∀ operands block, kind.build operands = .ok block → GivesRows block kind.size

/-- A constraint gives as many rows as its kind declares. -/
def Constraint.Exact (c : Constraint) : Prop := GivesRows c.block c.size

/-- All kinds of a catalog give as many rows as they declare. -/
def Catalog.Exact (catalog : Catalog) : Prop := ∀ kind ∈ catalog.kinds, kind.Exact

/-- A built-in kind is exact. -/
theorem BuiltinKind.exact (kind : BuiltinKind) : kind.toKind.Exact := by
  intro operands block built read value given
  obtain ⟨relation, stated, rfl⟩ := build_eq_ok built
  unfold Relation.block at given
  cases rows : relation.rows read with
  | error fault =>
    rw [rows] at given
    cases given
  | ok values =>
    rw [rows] at given
    cases given
    exact (relation.counts_rows read values rows).trans (count_of_relation? stated)

namespace Catalog

variable {catalog : Catalog}

/-- The built-in kinds are exact. -/
theorem exact_builtin : builtin.Exact := by
  intro kind listed
  obtain ⟨known, -, rfl⟩ := List.mem_map.mp listed
  exact known.exact

/-- A kind that is looked up is found under its own name. -/
theorem find?_of_lookup {name : Value} {kind : ConstraintKind}
    (found : catalog.lookup name = .ok kind) : catalog.find? kind.name = some kind := by
  cases name with
  | text word =>
    unfold lookup at found
    dsimp only at found
    cases there : catalog.find? word with
    | none =>
      rw [there] at found
      cases found
    | some known =>
      rw [there] at found
      cases found
      have same := @List.find?_some _ (fun known : ConstraintKind => known.name == word) _ _ there
      rw [eq_of_beq same, there]
  | _ => cases found

/-- A kind that is looked up is one of the catalog. -/
theorem mem_of_lookup {name : Value} {kind : ConstraintKind}
    (found : catalog.lookup name = .ok kind) : kind ∈ catalog.kinds :=
  List.mem_of_find?_eq_some (find?_of_lookup found)

section Completing

variable {name : Value} {slots : List Value} {size : Value} {pending : PendingKind}
  (registered : catalog.register name slots size = .ok pending)

include registered

/-- A kind that is completed comes last. -/
theorem kinds_complete (build : List Operand → Except Fault Block) :
    (catalog.complete pending build).kinds =
      catalog.kinds ++ [⟨pending.name, pending.slots, pending.size, build⟩] := by
  have new : ¬ (catalog.find? pending.name).isSome := by
    rw [find?_of_register registered]
    exact Bool.false_ne_true
  unfold Catalog.complete define
  rw [if_neg new]

/-- A catalog stays exact with a further kind that is exact. -/
theorem Exact.complete (all : catalog.Exact) {build : List Operand → Except Fault Block}
    (exact : ConstraintKind.Exact ⟨pending.name, pending.slots, pending.size, build⟩) :
    (catalog.complete pending build).Exact := by
  intro kind listed
  rw [kinds_complete registered] at listed
  rcases List.mem_append.mp listed with before | last
  · exact all kind before
  · rw [List.mem_singleton.mp last]
    exact exact

end Completing

end Catalog

/-- The rows of an exact constraint are those of its block, scaled. -/
theorem Constraint.Exact.rows_eq {c : Constraint} (exact : c.Exact) (vector : Array Float) :
    c.rows vector =
      (c.block (slotsOf vector)).map fun value => value.toRows.map (· * c.modifiers.scale) := by
  unfold rows
  cases given : c.block (slotsOf vector) with
  | error fault => rfl
  | ok value =>
    have count : value.toRows.length = c.size := exact _ _ given
    rw [ok_bind]
    dsimp only
    rw [if_neg (not_not.mpr count)]
    rfl

namespace Sketch

variable {sketch last : Sketch} {scope : Scope}

/-- If all kinds that a sketch knows are exact, so are its constraints. -/
def Exact (sketch : Sketch) : Prop := sketch.catalog.Exact → ∀ c ∈ sketch.constraints, c.Exact

/-- Every change keeps constraints of exact kinds exact. -/
theorem Exact.change (exact : sketch.Exact) (change : Change scope sketch last) :
    last.Exact := by
  cases change with
  | constrained modifiers tag known offered named built =>
    intro all c there
    rcases List.mem_append.mp there with before | last
    · exact exact all c before
    · rw [List.mem_singleton.mp last]
      have looked := (resolveRequest_cases named).1
      exact all _ (Catalog.mem_of_lookup looked) _ _ built
  | defined build registered =>
    intro all
    refine exact fun kind listed => all kind ?_
    show kind ∈ (Catalog.complete ..).kinds
    rw [Catalog.kinds_complete registered]
    exact List.mem_append_left _ listed
  | removed kept => exact fun all c there => exact all c (List.mem_of_mem_filter there)
  | cleared => exact fun _ => List.forall_mem_nil _
  | _ => exact exact

/-- Every request leaves constraints of exact kinds exact. -/
theorem Exact.after (exact : sketch.Exact) (request : Request) : (sketch.after request).Exact := by
  have changes : Changes .all sketch (sketch.after request) :=
    Request.proceeds request.within_all sketch
  generalize sketch.after request = after at changes ⊢
  induction changes with
  | refl => exact exact
  | tail _ change ih => exact ih.change change

/-- Requests leave constraints of exact kinds exact. -/
theorem Exact.afterAll (exact : sketch.Exact) (requests : List Request) :
    (sketch.afterAll requests).Exact := by
  induction requests generalizing sketch with
  | nil => exact exact
  | cons request rest ih => exact ih (exact.after request)

end Sketch

end Drafting
