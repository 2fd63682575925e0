import Drafting.Store

/-!
# Calls of a store

Everything that can be asked of a store, as data: slots are pushed, set, updated, retired and
cleared, and read one by one or as a whole. A call is answered or refused, and leaves a store
behind either way.
-/

namespace Drafting

/-- What can be asked of a store. -/
inductive StoreCall where
  | push (value fixed tag : Value)
  | pushAll (values fixed tag : Value)
  | set (index value fixed : Value)
  | update (indices values : Value)
  | retire (tag : Value)
  | clear
  | get (index : Value)
  | isFixed (index : Value)
  | tagOf (index : Value)
  | isRetired (index : Value)
  | check (index : Value)
  | size
  | snapshot
  | freeIndices
  | generation
  | text

/-- What a call is answered with. -/
inductive StoreAnswer where
  | done
  /-- An index, a count of slots or a generation. -/
  | count (n : Nat)
  | indices (indices : List Nat)
  | number (x : Float)
  | flag (b : Bool)
  | tag (n : Int)
  | numbers (xs : List Float)
  | text (s : String)

/-- A call of something with a state, which is answered or refused. -/
abbrev Performing (σ : Type) := σ → StoreCall → Except Fault StoreAnswer × σ

/-- Calls one after the other: what they are answered with, and the state that they leave. -/
def performAll (perform : Performing σ) (state : σ) :
    List StoreCall → List (Except Fault StoreAnswer) × σ
  | [] => ([], state)
  | call :: rest =>
    let (answer, state) := perform state call
    let (answers, state) := performAll perform state rest
    (answer :: answers, state)

/-- A change that either is made or is refused and leaves the state as it was. -/
def settle (state : σ) (answer : α → StoreAnswer) :
    Except Fault (α × σ) → Except Fault StoreAnswer × σ
  | .ok (result, changed) => (.ok (answer result), changed)
  | .error fault => (.error fault, state)

namespace Store

/-- The slot at an index that is given as a value. -/
def slotOf (store : Store) (index : Value) : Except Fault Slot := do
  store.slotAt (← store.check index)

/-- What a call of the store comes to. -/
def perform : Performing Store
  | store, .push value fixed tag => settle store .count (store.push value fixed tag)
  | store, .pushAll values fixed tag =>
    settle store .indices do store.pushAll (← values.toItems) fixed tag
  | store, .set index value fixed =>
    let (result, store) := store.set index value fixed
    (result.map fun _ => .done, store)
  | store, .update indices values => settle store .count (store.update indices values)
  | store, .retire tag => settle store .indices (store.retire tag)
  | store, .clear => (.ok .done, store.clear)
  | store, .get index => ((store.slotOf index).map fun slot => .number slot.value, store)
  | store, .isFixed index => ((store.slotOf index).map fun slot => .flag slot.fixed, store)
  | store, .tagOf index => ((store.slotOf index).map fun slot => .tag slot.tag, store)
  | store, .isRetired index => ((store.slotOf index).map fun slot => .flag slot.retired, store)
  | store, .check index => ((store.check index).map .count, store)
  | store, .size => (.ok (.count store.size), store)
  | store, .snapshot => (.ok (.numbers store.snapshot.toList), store)
  | store, .freeIndices => (.ok (.indices store.freeIndices), store)
  | store, .generation => (.ok (.count store.generation), store)
  | store, .text => (.ok (.text store.text), store)

end Store

end Drafting
