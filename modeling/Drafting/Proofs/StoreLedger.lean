import Drafting.Proofs.Steadiness
import Drafting.Proofs.Storing

/-!
# A store as a plain list

What a store is meant to be is said by a ledger: a list of slots, and how often it was emptied. A
call of a ledger either is carried out as a whole or is refused and changes nothing. A store does
what its ledger does, with one exception: a value that is set stays although the flag that comes
with it has no truth value.
-/

namespace Drafting

/-- A plain list of slots, and how often it was emptied. -/
structure Ledger where
  entries : List Slot
  generation : Nat

namespace Ledger

/-- The index of an entry: an integer, but no truth value. -/
def check (ledger : Ledger) (index : Value) : Except Fault Nat :=
  match index with
  | .int n =>
    if 0 ≤ n ∧ n < ledger.entries.length then .ok n.toNat
    else .error (.slotOutOfRange n ledger.entries.length)
  | value => .error (.slotNotInteger value)

/-- The entry at an index. -/
def entry (ledger : Ledger) (index : Value) : Except Fault Slot := do
  let place ← ledger.check index
  match ledger.entries[place]? with
  | some entry => .ok entry
  | none => .error (.slotOutOfRange place ledger.entries.length)

/-- The indices of the entries that satisfy a condition, in ascending order. -/
def indicesWhere (ledger : Ledger) (condition : Slot → Bool) : List Nat :=
  (List.range ledger.entries.length).filter fun place => ledger.entries[place]?.any condition

/-- Whether an entry is free. -/
def isFree (ledger : Ledger) (place : Nat) : Bool := ledger.entries[place]?.any (!·.fixed)

/-- The indices of the entries that are not fixed. -/
def freeIndices (ledger : Ledger) : List Nat := ledger.indicesWhere (!·.fixed)

/-- New entries at the end, one for each number. -/
def append (ledger : Ledger) (xs : List Float) (fixed : Bool) (tag : Int) : Ledger :=
  { ledger with entries := ledger.entries ++ xs.map fun value => ⟨value, fixed, tag, false⟩ }

/-- Offer a number to an entry, which takes it unless it is fixed. -/
def offer (ledger : Ledger) (place : Nat) (x : Float) : Ledger :=
  { ledger with entries := ledger.entries.modify place (·.taking x) }

/-- The numbers that a sequence gives for some entries, and how many of these are to take one:
none may be if the sequence consists of rows. -/
def offered (ledger : Ledger) (places : List Nat) (values : Value) :
    Except Fault (List (Nat × Float)) := do
  match ← (Value.list (← values.toItems)).toArray with
  | (count :: _ :: _, numbers) =>
    Store.checkRow places count numbers
    if places.any ledger.isFree then arithmeticFault .rowInSlot else .ok []
  | (_, numbers) =>
    Store.checkRow places numbers.length numbers
    .ok (places.zip numbers)

/-- What a call answers and leaves, if it is not refused. -/
def change (ledger : Ledger) : StoreCall → Except Fault (StoreAnswer × Ledger)
  | .push value fixed tag => do
    let x ← Store.finiteReal value
    let fixed ← fixed.truth
    let tag ← Store.storedTag tag
    .ok (.count ledger.entries.length, ledger.append [x] fixed tag)
  | .pushAll values fixed tag => do
    let xs ← (← values.toItems).mapM Store.finiteReal
    let fixed ← fixed.truth
    let tag ← Store.storedTag tag
    .ok (.indices (.range' ledger.entries.length xs.length), ledger.append xs fixed tag)
  | .set index value fixed => do
    let place ← ledger.check index
    let value ← Store.finiteReal value
    let fixed ← fixed.truth
    .ok (.done, { ledger with
      entries := ledger.entries.modify place fun entry => { entry with value, fixed } })
  | .update indices values => do
    let places ← (← indices.toItems).mapM ledger.check
    let pairs ← ledger.offered places values
    .ok (.count (pairs.countP (ledger.isFree ·.1)),
      pairs.foldl (fun ledger pair => ledger.offer pair.1 pair.2) ledger)
  | .retire tag => do
    let tag ← tag.toInteger
    .ok (.indices (ledger.indicesWhere fun entry => entry.tag = tag && !entry.retired),
      { ledger with entries := ledger.entries.map (·.retiring tag) })
  | .clear => .ok (.done, ⟨[], ledger.generation + 1⟩)
  | .get index => do .ok (.number (← ledger.entry index).value, ledger)
  | .isFixed index => do .ok (.flag (← ledger.entry index).fixed, ledger)
  | .tagOf index => do .ok (.tag (← ledger.entry index).tag, ledger)
  | .isRetired index => do .ok (.flag (← ledger.entry index).retired, ledger)
  | .check index => do .ok (.count (← ledger.check index), ledger)
  | .size => .ok (.count ledger.entries.length, ledger)
  | .snapshot => .ok (.numbers (ledger.entries.map (·.value)), ledger)
  | .freeIndices => .ok (.indices ledger.freeIndices, ledger)
  | .generation => .ok (.count ledger.generation, ledger)
  | .text =>
    .ok (.text (fieldsText "ParameterStore"
      [("size", decimalText ledger.entries.length),
        ("free", decimalText ledger.freeIndices.length)]), ledger)

/-- A call that is refused changes nothing. -/
def perform : Performing Ledger := fun ledger call => settle ledger id (ledger.change call)

/-- A slot is set, but the flag that comes with a value for it has no truth value. -/
def Interrupts (ledger : Ledger) (call : StoreCall) (place : Nat) (x : Float) (fault : Fault) :
    Prop :=
  ∃ index value fixed, call = .set index value fixed ∧ ledger.check index = .ok place ∧
    Store.finiteReal value = .ok x ∧ fixed.truth = .error fault

end Ledger

namespace Store

/-- The slots and the generation of a store. -/
def toLedger (store : Store) : Ledger := ⟨store.slots.toList, store.generation⟩

variable {store : Store}

/-- Indices are checked alike. -/
theorem check_toLedger (store : Store) : store.toLedger.check = store.check := by
  funext index
  cases index <;> rfl

/-- The slot at an index is looked up alike. -/
theorem entry_toLedger (store : Store) (index : Value) :
    store.toLedger.entry index = store.slotOf index := by
  unfold Ledger.entry slotOf
  rw [check_toLedger]
  cases store.check index with
  | error fault => rfl
  | ok place =>
    show (match store.slots.toList[place]? with
      | some entry => Except.ok entry
      | none => .error (.slotOutOfRange place store.slots.toList.length)) = store.slotAt place
    unfold slotAt
    rw [Int.toNat_natCast, Array.getElem?_toList]
    cases store.slots[place]? with
    | none => rfl
    | some slot => exact (if_pos (Int.natCast_nonneg place)).symm

/-- Slots are selected alike. -/
theorem indicesWhere_toLedger (store : Store) (condition : Slot → Bool) :
    store.toLedger.indicesWhere condition = store.indicesWhere condition := by
  unfold Ledger.indicesWhere indicesWhere toLedger size
  simp only [Array.length_toList, Array.getElem?_toList]

/-- Slots that are appended are. -/
theorem toLedger_append (store : Store) (xs : List Float) (fixed : Bool) (tag : Int) :
    (store.append xs fixed tag).2.toLedger = store.toLedger.append xs fixed tag := by
  simp [append, toLedger, Ledger.append]

/-- A value that is overwritten is. -/
theorem toLedger_write (store : Store) (place : Nat) (value : Float) :
    (store.write place value).toLedger =
      { store.toLedger with
        entries := store.toLedger.entries.modify place fun entry => { entry with value } } := by
  simp [write, toLedger]

/-- A slot that is overwritten, value and flag, is. -/
theorem toLedger_mark_write (store : Store) (place : Nat) (value : Float) (fixed : Bool) :
    ((store.write place value).mark place fixed).toLedger =
      { store.toLedger with
        entries := store.toLedger.entries.modify place
          fun entry => { entry with value, fixed } } := by
  unfold toLedger mark write
  simp only [Array.toList_modify, List.modify_modify_eq]
  rfl

/-- A slot to which a number is offered takes it unless it is fixed. -/
theorem toLedger_writeFree (store : Store) (place : Nat) (x : Float) :
    (store.writeFree place x).2.toLedger = store.toLedger.offer place x := by
  have aged : (store.writeFree place x).2.generation = store.generation := by
    unfold writeFree
    split
    · split <;> rfl
    · rfl
  unfold toLedger Ledger.offer
  rw [aged]
  refine congrArg (Ledger.mk · _) (List.ext_getElem? fun index => ?_)
  rw [Array.getElem?_toList, slots_writeFree, List.getElem?_modify, Array.getElem?_toList]
  by_cases here : place = index
  · simp only [if_pos here]
    rfl
  · simp only [if_neg here]
    exact Option.map_id'.symm

/-- A slot is as free as its entry. -/
theorem isFree_toLedger (store : Store) (place : Nat) :
    store.toLedger.isFree place = store.slots[place]?.any (!·.fixed) := by
  unfold Ledger.isFree toLedger
  rw [Array.getElem?_toList]

/-- Offering a number leaves every entry as free as it was. -/
theorem isFree_offer (ledger : Ledger) (place : Nat) (x : Float) :
    (ledger.offer place x).isFree = ledger.isFree := by
  funext other
  unfold Ledger.isFree Ledger.offer
  rw [List.getElem?_modify]
  cases ledger.entries[other]? with
  | none => rfl
  | some entry =>
    simp only [Option.map_eq_map, Option.map_some, Option.any_some, Slot.taking]
    split
    · split <;> rfl
    · rfl

/-- Slots to which numbers are offered take them unless they are fixed, and those that do are
counted. -/
theorem toLedger_writeFreeAll (store : Store) (pairs : List (Nat × Float)) :
    (store.writeFreeAll pairs).1 = pairs.countP (store.toLedger.isFree ·.1) ∧
      (store.writeFreeAll pairs).2.toLedger =
        pairs.foldl (fun ledger pair => ledger.offer pair.1 pair.2) store.toLedger := by
  induction pairs generalizing store with
  | nil => exact ⟨rfl, rfl⟩
  | cons pair rest ih =>
    obtain ⟨counted, offered⟩ := ih (store.writeFree pair.1 pair.2).2
    have written : (store.writeFree pair.1 pair.2).1 = store.toLedger.isFree pair.1 := by
      rw [isFree_toLedger]
      unfold writeFree
      cases store.slots[pair.1]? with
      | none => rfl
      | some slot => cases fixed : slot.fixed <;> simp [fixed]
    rw [toLedger_writeFree] at counted offered
    rw [isFree_offer] at counted
    constructor
    · rw [List.countP_cons, ← counted, ← written]
      rfl
    · rw [writeFreeAll_cons, offered, List.foldl_cons]

/-- Retiring a tag changes the flags of the slots that have it. -/
theorem toLedger_retireTag (store : Store) (tag : Int) :
    (store.retireTag tag).2.toLedger =
      { store.toLedger with entries := store.toLedger.entries.map (·.retiring tag) } := by
  have aged : (store.retireTag tag).2.generation = store.generation :=
    congrArg Binding.generation (binding_retireTag store tag)
  unfold toLedger
  rw [aged]
  refine congrArg (Ledger.mk · _) (List.ext_getElem? fun index => ?_)
  rw [Array.getElem?_toList, slots_retireTag, List.getElem?_map, Array.getElem?_toList]

/-- Updating writes what the ledger offers. -/
theorem update_eq (store : Store) (indices values : Value) :
    store.update indices values = (do
      let places ← (← indices.toItems).mapM store.check
      .ok (store.writeFreeAll (← store.toLedger.offered places values))) := by
  unfold update Ledger.offered
  cases indices.toItems with
  | error fault => rfl
  | ok items =>
    rw [ok_bind, ok_bind]
    cases items.mapM store.check with
    | error fault => rfl
    | ok places =>
      rw [ok_bind, ok_bind]
      cases values.toItems with
      | error fault => rfl
      | ok values =>
        rw [ok_bind, ok_bind]
        cases (Value.list values).toArray with
        | error fault => rfl
        | ok array =>
          rw [ok_bind, ok_bind]
          obtain ⟨_ | ⟨count, _ | ⟨width, inner⟩⟩, numbers⟩ := array
          · dsimp only [assign]
            cases checkRow places numbers.length numbers <;> rfl
          · dsimp only [assign]
            cases checkRow places numbers.length numbers <;> rfl
          · dsimp only [assignRows]
            cases checkRow places count numbers with
            | error fault => rfl
            | ok _ =>
              have free : store.toLedger.isFree = _ := funext (isFree_toLedger store)
              rw [ok_bind, ok_bind, free]
              split <;> rfl

/-- What is only looked at is left as it is. -/
theorem settle_look (state : σ) (answer : α → StoreAnswer) (result : Except Fault α) :
    settle state id (do .ok (answer (← result), state)) = (result.map answer, state) := by
  cases result <;> rfl

/-- Changes of a store and of its ledger that look at the same thing first come to the same if they
do with whatever is seen. -/
theorem settle_bind {α β : Type} {look : Except Fault α}
    {next : α → Except Fault (StoreAnswer × Ledger)} {next' : α → Except Fault (β × Store)}
    {answer : β → StoreAnswer}
    (alike : ∀ seen, settle store.toLedger id (next seen) =
      Prod.map id toLedger (settle store answer (next' seen))) :
    settle store.toLedger id (look >>= next) =
      Prod.map id toLedger (settle store answer (look >>= next')) := by
  cases look with
  | error fault => rfl
  | ok seen => exact alike seen

/-- A call whose flag, if it sets one, has a truth value comes to what it does with the ledger. -/
theorem perform_toLedger {call : StoreCall}
    (whole : ∀ place x fault, ¬store.toLedger.Interrupts call place x fault) :
    store.toLedger.perform call = Prod.map id toLedger (store.perform call) := by
  show settle store.toLedger id (store.toLedger.change call) = _
  cases call with
  | push value fixed tag =>
    refine settle_bind fun x => settle_bind fun b => settle_bind fun t => ?_
    exact congrArg (Except.ok (StoreAnswer.count _), ·) (toLedger_append ..).symm
  | pushAll values fixed tag =>
    refine settle_bind fun items => settle_bind fun xs => settle_bind fun b =>
      settle_bind fun t => ?_
    exact congrArg (Except.ok (StoreAnswer.indices _), ·) (toLedger_append ..).symm
  | set index value fixed =>
    show _ = (Except.map _ (store.set index value fixed).1,
      (store.set index value fixed).2.toLedger)
    unfold set setValue Ledger.change
    dsimp only
    rw [check_toLedger]
    cases checked : store.check index with
    | error fault => rfl
    | ok place =>
      rw [ok_bind, ok_bind]
      cases finite : finiteReal value with
      | error fault => rfl
      | ok x =>
        rw [ok_bind, ok_bind]
        cases truth : fixed.truth with
        | error fault =>
          rw [← check_toLedger] at checked
          exact absurd ⟨index, value, fixed, rfl, checked, finite, truth⟩ (whole place x fault)
        | ok b => exact congrArg (Except.ok StoreAnswer.done, ·) (toLedger_mark_write ..).symm
  | update indices values =>
    show _ = Prod.map id toLedger (settle store _ (store.update indices values))
    rw [update_eq]
    unfold Ledger.change
    dsimp only
    rw [check_toLedger]
    refine settle_bind fun items => settle_bind fun places => settle_bind fun pairs => ?_
    obtain ⟨counted, offered⟩ := toLedger_writeFreeAll store pairs
    rw [← counted, ← offered]
    rfl
  | retire tag =>
    refine settle_bind fun t => ?_
    rw [indicesWhere_toLedger, ← toLedger_retireTag]
    rfl
  | clear => rfl
  | get index => exact (settle_look ..).trans (by rw [entry_toLedger]; rfl)
  | isFixed index => exact (settle_look ..).trans (by rw [entry_toLedger]; rfl)
  | tagOf index => exact (settle_look ..).trans (by rw [entry_toLedger]; rfl)
  | isRetired index => exact (settle_look ..).trans (by rw [entry_toLedger]; rfl)
  | check index => exact (settle_look ..).trans (by rw [check_toLedger]; rfl)
  | size => rfl
  | snapshot =>
    exact congrArg (fun xs => (Except.ok (StoreAnswer.numbers xs), store.toLedger))
      Array.toList_map.symm
  | freeIndices =>
    exact congrArg (fun places => (Except.ok (StoreAnswer.indices places), store.toLedger))
      (indicesWhere_toLedger ..)
  | generation => rfl
  | text =>
    show (Except.ok (StoreAnswer.text (fieldsText _ [(_, decimalText store.slots.toList.length),
      (_, decimalText (store.toLedger.indicesWhere _).length)])), store.toLedger) = _
    rw [indicesWhere_toLedger, Array.length_toList]
    rfl

/-- Where a slot is set and the flag that comes with the value has no truth value, the call is
refused, and the value is there. -/
theorem perform_of_interrupts {call : StoreCall} {place : Nat} {x : Float} {fault : Fault}
    (interrupts : store.toLedger.Interrupts call place x fault) :
    store.perform call = (.error fault, store.write place x) := by
  obtain ⟨index, value, fixed, rfl, checked, finite, unread⟩ := interrupts
  rw [check_toLedger] at checked
  show (Except.map _ (store.set index value fixed).1, (store.set index value fixed).2) = _
  unfold set setValue
  rw [checked, ok_bind, finite, ok_bind]
  dsimp only
  rw [unread]
  rfl

end Store

/-! ## What a call can do -/

/-- A slot that is changed in place: it keeps its tag, and its value stays finite. -/
structure Slot.Altered (before after : Slot) : Prop where
  tag : after.tag = before.tag
  finite : before.value.isFinite → after.value.isFinite

/-- The indices that a call hands out. -/
def StoreCall.handed : StoreCall → Except Fault StoreAnswer → List Nat
  | .push .., .ok (.count place) => [place]
  | .pushAll .., .ok (.indices places) => places
  | _, _ => []

namespace Ledger

/-- What a call can do to a ledger: new entries come last and their indices are handed out, or the
entries are altered in place, or all of them are dropped. -/
inductive Steps (ledger : Ledger) (call : StoreCall) (answer : Except Fault StoreAnswer) :
    Ledger → Prop
  | appended (xs : List Float) (fixed : Bool) (tag : Int) (finite : ∀ x ∈ xs, x.isFinite)
      (handed : call.handed answer = .range' ledger.entries.length xs.length) :
      Steps ledger call answer (ledger.append xs fixed tag)
  | altered (entries : List Slot) (kept : List.Forall₂ Slot.Altered ledger.entries entries)
      (handed : call.handed answer = []) :
      Steps ledger call answer { ledger with entries }
  | emptied (clear : call = .clear) : Steps ledger call answer ⟨[], ledger.generation + 1⟩

/-- Entries that stay as they are. -/
theorem altered_refl (entries : List Slot) : List.Forall₂ Slot.Altered entries entries :=
  List.forall₂_same.mpr fun _ _ => ⟨rfl, id⟩

/-- Entries that are altered twice. -/
theorem altered_trans {before middle after : List Slot}
    (first : List.Forall₂ Slot.Altered before middle)
    (second : List.Forall₂ Slot.Altered middle after) :
    List.Forall₂ Slot.Altered before after := by
  induction first generalizing after with
  | nil => exact second
  | cons head _ ih =>
    cases second with
    | cons next others =>
      exact .cons ⟨next.tag.trans head.tag, next.finite ∘ head.finite⟩ (ih others)

/-- Entries that are altered keep their tags. -/
theorem tags_of_altered {before after : List Slot} (kept : List.Forall₂ Slot.Altered before after) :
    after.map (·.tag) = before.map (·.tag) := by
  induction kept with
  | nil => rfl
  | cons head _ ih => rw [List.map_cons, List.map_cons, head.tag, ih]

/-- An entry that is altered where it stands. -/
theorem altered_modify (entries : List Slot) (place : Nat) {change : Slot → Slot}
    (kept : ∀ entry, Slot.Altered entry (change entry)) :
    List.Forall₂ Slot.Altered entries (entries.modify place change) := by
  induction entries generalizing place with
  | nil => rw [List.modify_nil]; exact .nil
  | cons entry rest ih =>
    cases place with
    | zero => exact .cons (kept entry) (altered_refl rest)
    | succ place => exact .cons ⟨rfl, id⟩ (ih place)

/-- Numbers that are offered alter entries if they are finite. -/
theorem altered_offers (ledger : Ledger) {pairs : List (Nat × Float)}
    (finite : ∀ pair ∈ pairs, pair.2.isFinite) :
    ∃ entries, List.Forall₂ Slot.Altered ledger.entries entries ∧
      pairs.foldl (fun ledger pair => ledger.offer pair.1 pair.2) ledger =
        { ledger with entries } := by
  induction pairs generalizing ledger with
  | nil => exact ⟨_, altered_refl _, rfl⟩
  | cons pair rest ih =>
    obtain ⟨entries, later, reached⟩ := ih (ledger.offer pair.1 pair.2)
      fun other there => finite other (List.mem_cons_of_mem _ there)
    have taken (entry : Slot) : Slot.Altered entry (entry.taking pair.2) := by
      unfold Slot.taking
      split
      · exact ⟨rfl, id⟩
      · exact ⟨rfl, fun _ => finite pair List.mem_cons_self⟩
    exact ⟨entries, altered_trans (altered_modify _ pair.1 taken) later, reached⟩

/-- A number that is stored is finite. -/
theorem isFinite_of_finiteReal {value : Value} {x : Float}
    (read : Store.finiteReal value = .ok x) : x.isFinite := by
  obtain ⟨y, -, checked⟩ := bind_eq_ok.mp read
  split at checked
  · cases checked
    assumption
  · cases checked

/-- Numbers that are offered are finite. -/
theorem isFinite_of_offered {ledger : Ledger} {places : List Nat} {values : Value}
    {pairs : List (Nat × Float)} (offered : ledger.offered places values = .ok pairs) :
    ∀ pair ∈ pairs, pair.2.isFinite := by
  have checked {count : Nat} {numbers : List Float}
      (passed : Store.checkRow places count numbers = .ok ()) :
      ∀ x ∈ numbers, x.isFinite := by
    unfold Store.checkRow at passed
    split at passed
    · cases passed
    · split at passed
      · rename_i all
        exact List.all_eq_true.mp all
      · cases passed
  obtain ⟨items, -, rest⟩ := bind_eq_ok.mp offered
  obtain ⟨⟨counts, numbers⟩, -, rest⟩ := bind_eq_ok.mp rest
  intro pair there
  split at rest
  · obtain ⟨_, -, rest⟩ := bind_eq_ok.mp rest
    split at rest
    · cases rest
    · cases rest
      cases there
  · obtain ⟨_, passed, rest⟩ := bind_eq_ok.mp rest
    cases rest
    exact checked passed pair.2 (List.of_mem_zip there).2

/-- A call that is carried out appends entries, alters them in place or drops them all. -/
theorem steps_of_change {ledger next : Ledger} {call : StoreCall} {answer : StoreAnswer}
    (changed : ledger.change call = .ok (answer, next)) :
    ledger.Steps call (.ok answer) next := by
  have looked {α : Type} {result : Except Fault α} {look : α → StoreAnswer}
      (handed : ∀ seen, call.handed (.ok (look seen)) = [])
      (seen : (do .ok (look (← result), ledger)) = Except.ok (answer, next)) :
      ledger.Steps call (.ok answer) next := by
    obtain ⟨found, -, rest⟩ := bind_eq_ok.mp seen
    cases rest
    exact .altered _ (altered_refl _) (handed found)
  cases call with
  | push value fixed tag =>
    obtain ⟨x, finite, rest⟩ := bind_eq_ok.mp changed
    obtain ⟨b, -, rest⟩ := bind_eq_ok.mp rest
    obtain ⟨t, -, rest⟩ := bind_eq_ok.mp rest
    cases rest
    exact .appended [x] b t (List.forall_mem_singleton.mpr (isFinite_of_finiteReal finite)) rfl
  | pushAll values fixed tag =>
    obtain ⟨items, -, rest⟩ := bind_eq_ok.mp changed
    obtain ⟨xs, finite, rest⟩ := bind_eq_ok.mp rest
    obtain ⟨b, -, rest⟩ := bind_eq_ok.mp rest
    obtain ⟨t, -, rest⟩ := bind_eq_ok.mp rest
    cases rest
    refine .appended xs b t (fun x there => ?_) rfl
    obtain ⟨_, -, read⟩ := mem_of_mapM finite there
    exact isFinite_of_finiteReal read
  | set index value fixed =>
    obtain ⟨place, -, rest⟩ := bind_eq_ok.mp changed
    obtain ⟨x, finite, rest⟩ := bind_eq_ok.mp rest
    obtain ⟨b, -, rest⟩ := bind_eq_ok.mp rest
    cases rest
    exact .altered _
      (altered_modify _ _ fun entry => ⟨rfl, fun _ => isFinite_of_finiteReal finite⟩) rfl
  | update indices values =>
    obtain ⟨items, -, rest⟩ := bind_eq_ok.mp changed
    obtain ⟨places, -, rest⟩ := bind_eq_ok.mp rest
    obtain ⟨pairs, offered, rest⟩ := bind_eq_ok.mp rest
    obtain ⟨entries, kept, reached⟩ := altered_offers ledger (isFinite_of_offered offered)
    rw [reached] at rest
    cases rest
    exact .altered entries kept rfl
  | retire tag =>
    obtain ⟨t, -, rest⟩ := bind_eq_ok.mp changed
    cases rest
    refine .altered _ ?_ rfl
    rw [List.forall₂_map_right_iff]
    refine List.forall₂_same.mpr fun entry _ => ?_
    unfold Slot.retiring
    split <;> exact ⟨rfl, id⟩
  | clear =>
    cases changed
    exact .emptied rfl
  | get index => exact looked (fun _ => rfl) changed
  | isFixed index => exact looked (fun _ => rfl) changed
  | tagOf index => exact looked (fun _ => rfl) changed
  | isRetired index => exact looked (fun _ => rfl) changed
  | check index => exact looked (fun _ => rfl) changed
  | size | snapshot | freeIndices | generation | text =>
    cases changed
    exact .altered _ (altered_refl _) rfl

/-- A call of a ledger, carried out or refused. -/
theorem steps_perform (ledger : Ledger) (call : StoreCall) :
    ledger.Steps call (ledger.perform call).1 (ledger.perform call).2 := by
  unfold perform settle
  cases changed : ledger.change call with
  | ok result => exact steps_of_change changed
  | error fault =>
    refine .altered _ (altered_refl _) ?_
    unfold StoreCall.handed
    split <;> simp_all

end Ledger

/-- A call of a store, carried out, refused or interrupted. -/
theorem Store.steps_perform (store : Store) (call : StoreCall) :
    store.toLedger.Steps call (store.perform call).1 (store.perform call).2.toLedger := by
  by_cases interrupted : ∃ place x fault, store.toLedger.Interrupts call place x fault
  · obtain ⟨place, x, fault, interrupts⟩ := interrupted
    rw [perform_of_interrupts interrupts]
    obtain ⟨index, value, fixed, rfl, -, finite, -⟩ := interrupts
    rw [toLedger_write]
    exact .altered _ (Ledger.altered_modify _ _ fun entry =>
      ⟨rfl, fun _ => Ledger.isFinite_of_finiteReal finite⟩) rfl
  · have whole : store.toLedger.perform call = Prod.map id toLedger (store.perform call) :=
      perform_toLedger fun place x fault interrupts =>
        interrupted ⟨place, x, fault, interrupts⟩
    have steps := store.toLedger.steps_perform call
    rw [whole] at steps
    exact steps

/-! ## Runs of calls -/

/-- The slots and the generation of an arena. -/
def Arena.toLedger (arena : Arena) : Ledger :=
  ⟨(List.range arena.size).map arena.slot, arena.generation⟩

/-- An arena has the ledger of the store that it stands for. -/
theorem Arena.toLedger_toStore (arena : Arena) (identity : Nat) :
    (arena.toStore identity).toLedger = arena.toLedger := by
  unfold Store.toLedger toStore toLedger
  simp

/-- A call of an arena comes to what it does with the store that the arena stands for. -/
theorem Arena.perform_toLedger (arena : Arena) (call : StoreCall) :
    (((arena.toStore 0).perform call).1, ((arena.toStore 0).perform call).2.toLedger) =
      ((arena.perform call).1, (arena.perform call).2.toLedger) := by
  rw [perform_toStore]
  exact congrArg (_, ·) (toLedger_toStore ..)

/-- The indices that calls hand out, one call after the other. -/
def handedOut (calls : List StoreCall) (answers : List (Except Fault StoreAnswer)) : List Nat :=
  (List.zipWith StoreCall.handed calls answers).flatten

/-- Ranges that follow each other make one range. -/
theorem range'_append_sub {first middle last : Nat} (grown : first ≤ middle)
    (more : middle ≤ last) :
    List.range' first (middle - first) ++ List.range' middle (last - middle) =
      List.range' first (last - first) := by
  have split : last - first = middle - first + (last - middle) := by omega
  have start : first + 1 * (middle - first) = middle := by omega
  rw [split, ← List.range'_append, start]

namespace Ledger

/-- The tags of the entries. -/
def tags (ledger : Ledger) : List Int := ledger.entries.map (·.tag)

variable {ledger next : Ledger} {call : StoreCall} {answer : Except Fault StoreAnswer}

/-- Entries stay finite. -/
theorem Steps.finite (steps : ledger.Steps call answer next)
    (finite : ∀ entry ∈ ledger.entries, entry.value.isFinite) :
    ∀ entry ∈ next.entries, entry.value.isFinite := by
  cases steps with
  | appended xs b t new handed =>
    intro entry there
    rcases List.mem_append.mp there with old | added
    · exact finite entry old
    · obtain ⟨x, among, rfl⟩ := List.mem_map.mp added
      exact new x among
  | altered entries kept handed =>
    intro entry there
    obtain ⟨place, inside, rfl⟩ := List.getElem_of_mem there
    have same := kept.length_eq
    have related := List.forall₂_iff_get.mp kept
    exact (related.2 place (same ▸ inside) inside).finite
      (finite _ (List.getElem_mem (same ▸ inside)))
  | emptied clear =>
    intro entry there
    cases there

/-- Unless all entries are dropped, their tags stay and the indices that are handed out are those
of the entries that are new. -/
theorem Steps.grows (steps : ledger.Steps call answer next) (kept : call ≠ .clear) :
    ledger.tags <+: next.tags ∧
      call.handed answer =
        .range' ledger.entries.length (next.entries.length - ledger.entries.length) := by
  cases steps with
  | appended xs b t new handed =>
    constructor
    · exact ⟨_, List.map_append.symm⟩
    · rw [handed]
      simp [append]
  | altered entries altered handed =>
    constructor
    · show _ <+: entries.map (·.tag)
      rw [tags_of_altered altered]
      exact List.prefix_refl _
    · rw [handed, ← altered.length_eq, Nat.sub_self]
      rfl
  | emptied clear => exact absurd clear kept

end Ledger

namespace Arena

/-- A call of an arena appends entries to its ledger, alters them in place or drops them all. -/
theorem steps_perform (arena : Arena) (call : StoreCall) :
    arena.toLedger.Steps call (arena.perform call).1 (arena.perform call).2.toLedger := by
  have steps := (arena.toStore 0).steps_perform call
  rw [perform_toStore] at steps
  simpa only [toLedger_toStore, seen] using steps

/-- Every value that a run of calls leaves is finite if all were before. -/
theorem finite_performAll {arena : Arena}
    (finite : ∀ entry ∈ arena.toLedger.entries, entry.value.isFinite) (calls : List StoreCall) :
    ∀ entry ∈ (performAll perform arena calls).2.toLedger.entries, entry.value.isFinite := by
  induction calls generalizing arena with
  | nil => exact finite
  | cons call rest ih => exact ih ((arena.steps_perform call).finite finite)

/-- A run of calls without a clearing keeps all tags, and hands out the indices of the entries that
are new, in order. -/
theorem grows_performAll (arena : Arena) {calls : List StoreCall} (kept : .clear ∉ calls) :
    arena.toLedger.tags <+: (performAll perform arena calls).2.toLedger.tags ∧
      handedOut calls (performAll perform arena calls).1 =
        .range' arena.size ((performAll perform arena calls).2.size - arena.size) := by
  have count (arena : Arena) : arena.toLedger.entries.length = arena.size := by
    simp [toLedger]
  have grown {arena next : Arena} (longer : arena.toLedger.tags <+: next.toLedger.tags) :
      arena.size ≤ next.size := by
    simpa [Ledger.tags, count] using longer.length_le
  induction calls generalizing arena with
  | nil =>
    refine ⟨List.prefix_refl _, ?_⟩
    show [] = List.range' arena.size (arena.size - arena.size)
    rw [Nat.sub_self]
    rfl
  | cons call rest ih =>
    obtain ⟨here, later⟩ := not_or.mp (mt List.mem_cons.mpr kept)
    obtain ⟨longer, handed⟩ := (arena.steps_perform call).grows fun clear => here clear.symm
    obtain ⟨longer', handed'⟩ := ih (arena.perform call).2 later
    refine ⟨longer.trans longer', ?_⟩
    show call.handed (arena.perform call).1 ++
      handedOut rest (performAll perform (arena.perform call).2 rest).1 = _
    rw [handed, handed', count, count]
    exact range'_append_sub (grown longer) (grown longer')

/-- A run of calls whose flags have a truth value comes to what it does with the ledger. -/
theorem performAll_toLedger (arena : Arena) {calls : List StoreCall}
    (readable : ∀ index value fixed, .set index value fixed ∈ calls → ∃ b, fixed.truth = .ok b) :
    performAll Ledger.perform arena.toLedger calls =
      ((performAll perform arena calls).1, (performAll perform arena calls).2.toLedger) := by
  induction calls generalizing arena with
  | nil => rfl
  | cons call rest ih =>
    have whole (place : Nat) (x : Float) (fault : Fault) :
        ¬(arena.toStore 0).toLedger.Interrupts call place x fault := by
      rintro ⟨index, value, fixed, rfl, -, -, unread⟩
      obtain ⟨b, read⟩ := readable index value fixed List.mem_cons_self
      rw [unread] at read
      cases read
    have step := (Store.perform_toLedger whole).trans (arena.perform_toLedger call)
    rw [toLedger_toStore] at step
    rw [performAll, step]
    show (_ :: (performAll Ledger.perform (arena.perform call).2.toLedger rest).1, _) = _
    rw [ih _ fun index value fixed there =>
      readable index value fixed (List.mem_cons_of_mem _ there)]
    rfl

/-- Arenas with the same ledger answer alike for ever: how much room there is and what lies behind
the last slot never shows. -/
theorem answers_performAll {arena other : Arena} (same : other.toLedger = arena.toLedger)
    (calls : List StoreCall) :
    (performAll perform other calls).1 = (performAll perform arena calls).1 := by
  have stored : other.toStore 0 = arena.toStore 0 := by
    have entries : (other.toStore 0).slots.toList = (arena.toStore 0).slots.toList :=
      congrArg Ledger.entries
        ((toLedger_toStore other 0).trans (same.trans (toLedger_toStore arena 0).symm))
    exact congrArg₂ (Store.mk 0) (Array.toList_inj.mp entries) (congrArg Ledger.generation same)
  have first := performAll_toStore other 0 calls
  rw [stored, performAll_toStore arena 0 calls] at first
  exact (congrArg Prod.fst first).symm

end Arena

/-- A store is a plain list of slots with a generation. Whatever room an arena starts with and
whatever is asked of it, it answers every call as the ledger does and keeps the slots that the
ledger lists, and so does the store of a sketch, if every flag that a slot is set with has a truth
value. Where one has none the call is refused but the value is there, and that is the only
difference. Growing loses and reorders nothing and makes the room that is needed, what lies behind
the last slot never shows, every value is finite, and until the arena is cleared tags stay and the
indices that are handed out count on without a gap. -/
theorem arena_keeps_ledger (room : Int) (calls : List StoreCall) (identity : Nat) :
    let answers := (performAll Arena.perform (.withRoom room) calls).1
    let arena := (performAll Arena.perform (.withRoom room) calls).2
    performAll Store.perform (.empty identity) calls = (answers, arena.toStore identity) ∧
    ((∀ index value fixed, .set index value fixed ∈ calls → ∃ b, fixed.truth = .ok b) →
      performAll Ledger.perform ⟨[], 0⟩ calls = (answers, arena.toLedger)) ∧
    (∀ call, (∀ place x fault, ¬arena.toLedger.Interrupts call place x fault) →
      arena.toLedger.perform call =
        ((arena.perform call).1, (arena.perform call).2.toLedger)) ∧
    (∀ call place x fault, arena.toLedger.Interrupts call place x fault →
      (arena.perform call).1 = .error fault ∧
        (arena.perform call).2.toLedger =
          { arena.toLedger with
            entries := arena.toLedger.entries.modify place ({ · with value := x }) }) ∧
    (∀ needed, (arena.grow needed).toLedger = arena.toLedger ∧
      needed ≤ (arena.grow needed).room) ∧
    (∀ other : Arena, other.toLedger = arena.toLedger → ∀ later,
      (performAll Arena.perform other later).1 = (performAll Arena.perform arena later).1) ∧
    (∀ entry ∈ arena.toLedger.entries, entry.value.isFinite) ∧
    (arena.perform .clear).2.toLedger = ⟨[], arena.generation + 1⟩ ∧
    ∀ later, .clear ∉ later →
      let after := (performAll Arena.perform arena later).2
      arena.toLedger.tags <+: after.toLedger.tags ∧
        handedOut later (performAll Arena.perform arena later).1 =
          .range' arena.size (after.size - arena.size) := by
  intro answers arena
  have empty : (Arena.withRoom room).toLedger = ⟨[], 0⟩ := rfl
  have stored := Arena.performAll_toStore (.withRoom room) identity calls
  rw [Arena.toStore_withRoom] at stored
  refine ⟨stored, fun readable => ?_, fun call whole => ?_, fun call place x fault interrupts => ?_,
    fun needed => ⟨?_, Arena.le_room_grow arena needed⟩, fun other same =>
    Arena.answers_performAll same, ?_, ?_, fun later kept => Arena.grows_performAll arena kept⟩
  · rw [← empty]
    exact Arena.performAll_toLedger _ readable
  · rw [← arena.toLedger_toStore 0] at whole ⊢
    exact (Store.perform_toLedger whole).trans (arena.perform_toLedger call)
  · rw [← arena.toLedger_toStore 0] at interrupts
    have step := (arena.perform_toLedger call).symm
    rw [Store.perform_of_interrupts interrupts, Store.toLedger_write,
      arena.toLedger_toStore] at step
    exact ⟨congrArg Prod.fst step, congrArg Prod.snd step⟩
  · rw [← Arena.toLedger_toStore _ 0, Arena.toStore_grow, Arena.toLedger_toStore]
  · refine Arena.finite_performAll ?_ calls
    rw [empty]
    exact fun entry there => nomatch there
  · rfl

/-- A slot that is pushed into an arena with no room asked for is listed, and a value that is set
with a flag of two entries is refused but there. -/
theorem arena_keeps_ledger_interrupted :
    let calls : List StoreCall := [.push (.float 1.0) (.bool false) (.int 7)]
    let call : StoreCall := .set (.int 0) (.float 2.0) (.array [2] [1.0, 0.0])
    let arena := (performAll Arena.perform (.withRoom 0) calls).2
    performAll Ledger.perform ⟨[], 0⟩ calls = ([.ok (.count 0)], ⟨[⟨1.0, false, 7, false⟩], 0⟩) ∧
      performAll Ledger.perform ⟨[], 0⟩ calls =
        ((performAll Arena.perform (.withRoom 0) calls).1, arena.toLedger) ∧
      (arena.perform call).1 = .error (.arithmetic (.ambiguousTruth 2)) ∧
      (arena.perform call).2.toLedger = ⟨[⟨2.0, false, 7, false⟩], 0⟩ := by
  intro calls call arena
  obtain ⟨-, listed, -, interrupted, -⟩ := arena_keeps_ledger 0 calls 0
  have same := listed fun index value fixed there => by
    rcases List.mem_singleton.mp there with ⟨⟩
  have plain : performAll Ledger.perform ⟨[], 0⟩ calls =
      ([.ok (.count 0)], ⟨[⟨1.0, false, 7, false⟩], 0⟩) := rfl
  have kept : arena.toLedger = ⟨[⟨1.0, false, 7, false⟩], 0⟩ :=
    (congrArg Prod.snd same).symm.trans (congrArg Prod.snd plain)
  have interrupts : arena.toLedger.Interrupts call 0 2.0 (.arithmetic (.ambiguousTruth 2)) := by
    rw [kept]
    exact ⟨_, _, _, rfl, rfl, rfl, rfl⟩
  obtain ⟨refused, left⟩ := interrupted call 0 2.0 _ interrupts
  refine ⟨plain, same, refused, left.trans ?_⟩
  rw [kept]
  rfl

end Drafting
