import Drafting.Constraint
import Drafting.Proofs.Refusal

/-!
# Outcomes that are alike

Two outcomes are alike if both are answers that are related, or both are refusals of the same sort.
The words of a refusal may name things by identifiers, so sessions that only differ by their
identifiers have outcomes that are alike. What computes by steps that are alike comes to outcomes
that are alike.
-/

namespace Drafting

/-- Two answers that are related, or two refusals of the same sort. -/
def Alike (related : α → β → Prop) : Except Fault α → Except Fault β → Prop
  | .ok answer, .ok other => related answer other
  | .error fault, .error other => fault.category = other.category
  | .ok _, .error _ | .error _, .ok _ => False

/-- The same answer, or two refusals of the same sort. -/
abbrev Agree : Except Fault α → Except Fault α → Prop := Alike (· = ·)

namespace Alike

variable {α β γ δ : Type} {related : α → β → Prop} {related' : γ → δ → Prop}

/-- What is known of an answer comes with it. -/
theorem known {first : Except Fault α} {other : Except Fault β} {holds : α → Prop}
    (alike : Alike related first other) (known : ∀ answer, first = .ok answer → holds answer) :
    Alike (fun answer answer' => related answer answer' ∧ holds answer) first other := by
  cases first <;> cases other
  · exact alike
  · exact alike.elim
  · exact alike.elim
  · exact ⟨alike, known _ rfl⟩

/-- Answers that are related in one way are so in a weaker one. -/
theorem mono {first : Except Fault α} {other : Except Fault β} {weaker : α → β → Prop}
    (alike : Alike related first other)
    (weakens : ∀ answer answer', related answer answer' → weaker answer answer') :
    Alike weaker first other := by
  cases first <;> cases other
  · exact alike
  · exact alike.elim
  · exact alike.elim
  · exact weakens _ _ alike

/-- An outcome agrees with itself. -/
theorem refl (outcome : Except Fault α) : Agree outcome outcome := by
  cases outcome <;> rfl

/-- What follows outcomes that are alike is alike if it is so after answers that are related. -/
theorem bind {first : Except Fault α} {other : Except Fault β} {next : α → Except Fault γ}
    {next' : β → Except Fault δ} (alike : Alike related first other)
    (later : ∀ answer answer', related answer answer' →
      Alike related' (next answer) (next' answer')) :
    Alike related' (first >>= next) (other >>= next') := by
  cases first <;> cases other
  · exact alike
  · exact alike.elim
  · exact alike.elim
  · exact later _ _ alike

/-- What follows outcomes that agree is alike if it is so after each answer. -/
theorem bind_agree {first other : Except Fault α} {next : α → Except Fault γ}
    {next' : α → Except Fault δ} (agree : Agree first other)
    (later : ∀ answer, Alike related' (next answer) (next' answer)) :
    Alike related' (first >>= next) (other >>= next') :=
  agree.bind fun answer _ same => same ▸ later answer

/-- Steps for members in another form, whose answers have another form as well, gather these. -/
theorem mapM_map {form : α → β} {form' : γ → δ} {step : α → Except Fault γ}
    {step' : β → Except Fault δ}
    (alike : ∀ member, Alike (fun answer other => other = form' answer) (step member)
      (step' (form member))) (members : List α) :
    Alike (fun answers others => others = answers.map form') (members.mapM step)
      ((members.map form).mapM step') := by
  induction members with
  | nil => rfl
  | cons member rest ih =>
    rw [List.map_cons, List.mapM_cons, List.mapM_cons]
    refine (alike member).bind ?_
    rintro first _ rfl
    refine ih.bind ?_
    rintro others _ rfl
    rfl

/-- Steps that agree for members in another form gather the same answers. -/
theorem mapM_agree {form : α → β} {step : α → Except Fault γ} {step' : β → Except Fault γ}
    (agree : ∀ member, Agree (step member) (step' (form member))) (members : List α) :
    Agree (members.mapM step) ((members.map form).mapM step') := by
  induction members with
  | nil => rfl
  | cons member rest ih =>
    rw [List.map_cons, List.mapM_cons, List.mapM_cons]
    exact (agree member).bind_agree fun _ => ih.bind_agree fun _ => rfl

/-- Steps that agree for members in another form are refused alike. -/
theorem forM_agree {form : α → β} {step : α → Except Fault Unit} {step' : β → Except Fault Unit}
    (agree : ∀ member, Agree (step member) (step' (form member))) (members : List α) :
    Agree (members.forM step) ((members.map form).forM step') := by
  induction members with
  | nil => rfl
  | cons member rest ih => exact (agree member).bind_agree fun _ => ih

end Alike

/-- Quotients of functions that agree agree. -/
theorem differenceQuotients_agree {rows rows' : RowFunction}
    (agree : ∀ x, Agree (rows x) (rows' x)) (x : List Float) (step : Float) :
    Agree (differenceQuotients rows x step) (differenceQuotients rows' x step) := by
  have quotient (place : Nat) :
      Agree (differenceQuotient rows x step place) (differenceQuotient rows' x step place) :=
    (agree _).bind_agree fun _ => (agree _).bind_agree fun _ => rfl
  unfold differenceQuotients
  refine (agree x).bind_agree fun base => ?_
  by_cases rowless : base.isEmpty
  · rw [if_pos rowless, if_pos rowless]
    rfl
  · have columns := Alike.mapM_agree (@fun place => quotient place) (List.range x.length)
    rw [List.map_id'] at columns
    rw [if_neg rowless, if_neg rowless]
    exact columns.bind_agree fun _ => rfl

end Drafting
