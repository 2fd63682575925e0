import Drafting.Proofs.Change
import Drafting.Proofs.Slots

/-!
# Looking, defining and constraining proceed by changes

Every request, whether it is answered or refused, leaves a sketch that is reached from the one it
found by a chain of changes. Most steps of a request are looks and checks, which change nothing;
the proofs follow the text of each request and name the change where one is made. Here are the
requests that draw nothing and solve nothing.
-/

namespace Drafting

variable {α β : Type} {scope : Scope}

open Session

namespace Session

/-- A line in the journal is a change. -/
theorem proceeds_note {level : Level} {source : Source} {message : String} :
    Proceeds (Change scope) (note level source message) :=
  fun _ => .single (.noted _)

/-- A line about a tag is a change, or nothing. -/
theorem proceeds_noteTag {level : Level} {source : Source} {before after : String} {tag : Value} :
    Proceeds (Change scope) (noteTag level source before tag after) := by
  intro sketch
  obtain ⟨answer, journal, noted, -⟩ := outcome_noteTag level source before tag after sketch
  rw [noted]
  exact .single (.noted journal)

/-- An operation on the store is a change if each of its successes is one. -/
theorem proceeds_onStore {operation : Store → Except Fault (α × Store)}
    (steps : ∀ (sketch : Sketch) answer store, operation sketch.store = .ok (answer, store) →
      Change scope sketch { sketch with store }) :
    Proceeds (Change scope) (onStore operation) := by
  intro sketch
  rw [outcome_onStore]
  cases done : operation sketch.store with
  | error fault => exact .refl
  | ok result => exact .single (steps sketch result.1 result.2 done)

section Looking

variable {step : Sketch → Sketch → Prop}

/-- Looking a parameter up changes nothing. -/
theorem proceeds_parameter {name : Value} : Proceeds step (parameter name) := by
  refine .bind ?_ fun slot => .bind .get fun sketch => .liftM _
  unfold parameterSlot
  split
  · refine .bind .get fun sketch => ?_
    split
    · exact .pure _
    · exact .throw _
  · exact .bind (.liftM _) fun _ => .throw _

/-- Looking a geometry up changes nothing. -/
theorem proceeds_geometry {id : Value} : Proceeds step (geometry id) :=
  .bind .get fun _ => .liftM _

/-- Looking a value up changes nothing. -/
theorem proceeds_valueOf {id name : Value} : Proceeds step (valueOf id name) :=
  .bind proceeds_geometry fun _ => .bind (.liftM _) fun _ => .bind .get fun _ => .liftM _

/-- Looking coordinates up changes nothing. -/
theorem proceeds_pointCoordinates {value : Value} :
    Proceeds step (pointCoordinates value) := by
  refine .bind (.bind .get fun _ => .liftM _) fun view => .bind .get fun sketch => ?_
  dsimp only
  split
  · exact .bind (.liftM _) fun _ => .bind (.liftM _) fun _ => .pure _
  · exact .liftM _

end Looking

/-- A parameter is defined over a new slot, or nothing changes. -/
theorem proceeds_addParameter {name value fixed tag : Value} :
    Proceeds (Change scope) (addParameter name value fixed tag) := by
  unfold addParameter
  split
  next name =>
    split
    · exact .throw _
    refine .get_bind fun sketch => ?_
    by_cases taken : (sketch.named? name).isSome
    · rw [if_pos taken]
      exact .refl
    rw [if_neg taken]
    have new : sketch.named? name = none := by simpa using taken
    rw [outcome_bind, outcome_onStore]
    cases pushed : sketch.store.push value fixed tag with
    | error fault => exact .refl
    | ok result =>
      obtain ⟨index, grown⟩ := result
      obtain ⟨x, b, t, rfl, rfl⟩ := Store.push_eq_ok pushed
      exact .single (.named x b t new)
  next => exact .throw _

/-- A kind is defined, or nothing changes. -/
theorem proceeds_registerKind {name : Value} {slots : List Value} {size : Value}
    {build : Nat → List Operand → Except Fault Block} :
    Proceeds (Change scope) (registerKind name slots size build) := by
  refine .get_bind fun sketch => ?_
  rw [outcome_liftM_bind]
  cases registered : sketch.catalog.register name slots size with
  | error fault => exact .refl
  | ok pending =>
    dsimp only
    rw [outcome_modify_bind]
    exact .head (.defined (build pending.size) registered) (proceeds_note _)

/-- A constraint is registered, or leaves slots and a gap behind, or nothing changes. -/
theorem proceeds_constrain {kind : Value} {operands : List Value} (known : scope.kind kind)
    (offered : ∀ operand ∈ operands, scope.operand operand) {modifiers : Modifiers} {tag : Value} :
    Proceeds (Change scope) (constrain kind operands modifiers tag) := by
  intro sketch
  rcases outcome_constrain_cases kind operands modifiers tag sketch with
    ⟨fault, journal, refused⟩ |
    ⟨spec, resolved, named, ⟨fault, t, journal, refused, -⟩ |
      ⟨t, block, answer, journal, -, built, registered, -⟩⟩
  · rw [refused]
    exact .single (.noted journal)
  · rw [refused]
    have grown : Changes scope sketch _ := .single (.grown (literals resolved) true t)
    exact (grown.tail .reserved).tail (.noted journal)
  · rw [registered]
    exact .head (.constrained modifiers t known offered named built) (.single (.noted journal))

/-- A request to add a constraint proceeds as one to constrain. -/
theorem proceeds_addConstraint {kind : Value} {operands : List Value} (known : scope.kind kind)
    (offered : ∀ operand ∈ operands, scope.operand operand)
    {driving temporary scale tag : Value} :
    Proceeds (Change scope) (addConstraint kind operands driving temporary scale tag) :=
  .bind (.liftM _) fun _ => proceeds_constrain known offered

end Session

end Drafting
