import Drafting.Relation.Catalog

/-!
# Ready-made blocks

A few blocks that a registered kind can use without a formula of its own: they combine the values
of all slots that the operands refer to, in order.
-/

namespace Drafting

/-- A ready-made block. -/
inductive BlockTemplate where
  | sum
  | product
  | squares
  | constant
  | short
  | bare
deriving Repr, DecidableEq

namespace BlockTemplate

/-- The template with a name. -/
def ofName? : String → Option BlockTemplate
  | "sum" => some sum
  | "product" => some product
  | "squares" => some squares
  | "constant" => some constant
  | "short" => some short
  | "scalar" => some bare
  | _ => none

/-- The product of all values but the last, minus the last. -/
def productGap (values : List Float) : Except Fault Float :=
  match values.getLast? with
  | some last => .ok (values.dropLast.foldl (· * ·) 1.0 - last)
  | none => .error (.arithmetic .emptySequence)

/-- The block of a template with `size` rows over some slots. -/
def block (template : BlockTemplate) (size : Nat) (slots : List Int) : Block := fun read =>
  match template with
  | sum => do .ok (.rows [(← slots.mapM read).foldl (· + ·) 0.0])
  | product => do .ok (.rows [← productGap (← slots.mapM read)])
  | squares => do .ok (.rows ((← (slots.take size).mapM read).map fun x => x * x))
  | constant => .ok (.rows (List.replicate size 1.0))
  | short => .ok (.rows [0.0])
  | bare =>
    match slots with
    | slot :: _ => (read slot).map .bare
    | [] => .error (.arithmetic .emptySequence)

/-- The builder of a template with `size` rows. -/
def build (template : BlockTemplate) (size : Nat) (operands : List Operand) :
    Except Fault Block :=
  .ok (template.block size (operands.flatMap Operand.slots))

end BlockTemplate

end Drafting
