import Drafting.Proofs.StoreLedger
import Drafting.Proofs.EditedSessions
import Drafting.Proofs.TagRemoval

/-!
# Retired slots

To retire a tag fixes its slots and marks them as retired. The mark and the flag are separate: the
mark stays until the store is cleared, but the flag is overwritten whenever a slot is set, and to
retire the tag again passes over what has the mark. So a retired slot is fixed unless it was set
with another flag since it was retired, and requests of a sketch, which never do that, keep what is
removed out of all further solves.
-/

namespace Drafting

namespace StoreCall

variable {call : StoreCall} {place : Nat}

/-- A call sets the slot at a place with a flag: its value is finite and its flag has that truth
value. -/
def Sets (call : StoreCall) (place : Nat) (flag : Bool) : Prop :=
  ∃ value x fixed, call = .set (.int place) value fixed ∧ Store.finiteReal value = .ok x ∧
    fixed.truth = .ok flag

/-- A call neither drops all slots nor sets the one at a place. -/
def Spares (call : StoreCall) (place : Nat) : Prop :=
  call ≠ .clear ∧ ∀ flag, ¬ call.Sets place flag

/-- A call sets a slot with one flag. -/
theorem Sets.unique {flag other : Bool} (sets : call.Sets place flag)
    (also : call.Sets place other) : flag = other := by
  obtain ⟨value, x, fixed, rfl, -, read⟩ := sets
  obtain ⟨value', x', fixed', same, -, read'⟩ := also
  cases same
  exact Except.ok.inj (read.symm.trans read')

/-- A call that sets a slot drops none. -/
theorem Sets.kept {flag : Bool} (sets : call.Sets place flag) : call ≠ .clear := by
  obtain ⟨value, x, fixed, rfl, -⟩ := sets
  nofun

/-- A call of another kind spares every slot. -/
theorem spares_of_ne (kept : call ≠ .clear)
    (other : ∀ index value fixed, call ≠ .set index value fixed) : call.Spares place :=
  ⟨kept, fun _ ⟨_, _, _, same, _⟩ => other _ _ _ same⟩

end StoreCall

/-- What a call that drops nothing does to a slot: a new value at most, or a new value and the flag
that it sets, or the flag and the mark of what is retired. -/
inductive Slot.Undergoes (slot : Slot) (call : StoreCall) (place : Nat) : Slot → Prop
  | valued (value : Float) (spares : call.Spares place) :
      Undergoes slot call place { slot with value }
  | flagged (value : Float) {flag : Bool} (sets : call.Sets place flag) :
      Undergoes slot call place { slot with value, fixed := flag }
  | retired {tag : Value} (asked : call = .retire tag) (active : slot.retired = false) :
      Undergoes slot call place { slot with fixed := true, retired := true }

/-- What a place holds after a call: nothing once all slots are dropped, at most a slot that is not
retired if there was none, or the slot that was there after it underwent the call. -/
inductive Becomes (before : Option Slot) (call : StoreCall) (place : Nat) : Option Slot → Prop
  | dropped (asked : call = .clear) : Becomes before call place none
  | fresh {after : Option Slot} (kept : call ≠ .clear) (absent : before = none)
      (active : ∀ slot, after = some slot → slot.retired = false) : Becomes before call place after
  | changed {slot later : Slot} (present : before = some slot)
      (undergoes : slot.Undergoes call place later) : Becomes before call place (some later)

section Becomes

variable {before after : Option Slot} {call : StoreCall} {place : Nat}

/-- A slot that undergoes a call is not dropped by it. -/
theorem Slot.Undergoes.kept {slot later : Slot} (undergoes : slot.Undergoes call place later) :
    call ≠ .clear := by
  cases undergoes with
  | valued _ spares => exact spares.1
  | flagged _ sets => exact sets.kept
  | retired asked =>
    rw [asked]
    nofun

/-- A call that spares a place changes the value there at most. -/
theorem Becomes.of_spares (spares : call.Spares place) (value : Slot → Float) :
    Becomes before call place (before.map fun slot => { slot with value := value slot }) := by
  cases before with
  | none => exact .fresh spares.1 rfl nofun
  | some slot => exact .changed rfl (.valued (value slot) spares)

/-- A call that spares a place may leave it as it is. -/
theorem Becomes.same (spares : call.Spares place) : Becomes before call place before := by
  have unchanged := @Becomes.of_spares before call place spares (·.value)
  rwa [show before.map (fun slot => { slot with value := slot.value }) = before from
    Option.map_id'] at unchanged

/-- A slot with a mark keeps it, and its tag, through every call that drops nothing. -/
theorem Becomes.retired {slot : Slot} (becomes : Becomes before call place after)
    (kept : call ≠ .clear) (present : before = some slot) (marked : slot.retired) :
    ∃ later, after = some later ∧ later.tag = slot.tag ∧ later.retired := by
  cases becomes with
  | dropped asked => exact absurd asked kept
  | fresh _ absent => cases absent.symm.trans present
  | changed there undergoes =>
    cases there.symm.trans present
    cases undergoes with
    | valued value => exact ⟨_, rfl, rfl, marked⟩
    | flagged value => exact ⟨_, rfl, rfl, marked⟩
    | retired => exact ⟨_, rfl, rfl, rfl⟩

/-- A slot has the mark of what is retired. -/
def Marked (held : Option Slot) : Prop := ∃ slot, held = some slot ∧ slot.retired

/-- A slot has the mark of what is retired and is not fixed. -/
def Loose (held : Option Slot) : Prop :=
  ∃ slot, held = some slot ∧ slot.retired ∧ slot.fixed = false

/-- A slot is retired and not fixed after a call exactly if the call sets a retired slot with a
false flag, or the slot was so before and the call neither drops it nor sets it with a true one. -/
theorem Becomes.loose_iff (becomes : Becomes before call place after) :
    Loose after ↔
      (Marked before ∧ call.Sets place false) ∨
        Loose before ∧ call ≠ .clear ∧ ¬ call.Sets place true := by
  cases becomes with
  | dropped asked =>
    refine iff_of_false (fun ⟨_, impossible, _⟩ => nomatch impossible) ?_
    rintro (⟨-, sets⟩ | ⟨-, kept, -⟩)
    · exact sets.kept asked
    · exact kept asked
  | fresh _ absent active =>
    refine iff_of_false ?_ ?_
    · rintro ⟨slot, there, marked, -⟩
      cases (active slot there).symm.trans marked
    · rintro (⟨⟨_, there, -⟩, -⟩ | ⟨⟨_, there, -⟩, -⟩) <;> cases absent.symm.trans there
  | @changed slot later present undergoes =>
    subst present
    have marked_iff : Marked (some slot) ↔ slot.retired :=
      ⟨fun ⟨_, same, marked⟩ => Option.some.inj same ▸ marked, fun marked => ⟨slot, rfl, marked⟩⟩
    have loose_iff (slot : Slot) : Loose (some slot) ↔ slot.retired ∧ slot.fixed = false :=
      ⟨fun ⟨_, same, loose⟩ => Option.some.inj same ▸ loose, fun loose => ⟨slot, rfl, loose⟩⟩
    rw [loose_iff, loose_iff, marked_iff]
    have kept := undergoes.kept
    cases undergoes with
    | valued value spares =>
      constructor
      · exact fun loose => .inr ⟨loose, kept, spares.2 true⟩
      · rintro (⟨-, sets⟩ | ⟨loose, -⟩)
        · exact absurd sets (spares.2 false)
        · exact loose
    | @flagged value flag sets =>
      constructor
      · rintro ⟨marked, rfl⟩
        exact .inl ⟨marked, sets⟩
      · rintro (⟨marked, also⟩ | ⟨⟨marked, -⟩, -, unset⟩)
        · exact ⟨marked, sets.unique also⟩
        · cases flag with
          | true => exact absurd sets unset
          | false => exact ⟨marked, rfl⟩
    | retired asked active =>
      refine iff_of_false (fun loose => nomatch loose.2) ?_
      rintro (⟨marked, -⟩ | ⟨⟨marked, -⟩, -⟩) <;> cases active.symm.trans marked

end Becomes

namespace Store

variable {store : Store} {call : StoreCall} {place : Nat}

/-- What places hold after slots are appended. -/
theorem becomes_append (spares : call.Spares place) (xs : List Float) (fixed : Bool) (tag : Int) :
    Becomes store.slots[place]? call place (store.append xs fixed tag).2.slots[place]? := by
  rw [show (store.append xs fixed tag).2.slots = store.slots ++ _ from rfl]
  rcases Nat.lt_or_ge place store.slots.size with old | new
  · rw [Array.getElem?_append_left old]
    exact .same spares
  · refine .fresh spares.1 (Array.getElem?_eq_none new) fun slot there => ?_
    rw [Array.getElem?_append_right new, List.getElem?_toArray, List.getElem?_map] at there
    obtain ⟨value, -, rfl⟩ := Option.map_eq_some_iff.mp there
    rfl

/-- What places hold after values are offered. -/
theorem becomes_writeFreeAll (spares : call.Spares place) (pairs : List (Nat × Float)) :
    Becomes store.slots[place]? call place (store.writeFreeAll pairs).2.slots[place]? := by
  have values : ∃ value : Slot → Float, (store.writeFreeAll pairs).2.slots[place]? =
      store.slots[place]?.map fun slot => { slot with value := value slot } := by
    induction pairs generalizing store with
    | nil => exact ⟨(·.value), Option.map_id'.symm⟩
    | cons pair rest ih =>
      obtain ⟨value, later⟩ := @ih (store.writeFree pair.1 pair.2).2
      rw [writeFreeAll_cons, later, slots_writeFree]
      by_cases here : pair.1 = place
      · refine ⟨fun slot => value (slot.taking pair.2), ?_⟩
        rw [if_pos here, Option.map_map]
        refine congrArg (Option.map · _) (funext fun slot => ?_)
        dsimp only [Function.comp, Slot.taking]
        split <;> rfl
      · exact ⟨value, by rw [if_neg here]⟩
  obtain ⟨value, same⟩ := values
  rw [same]
  exact .of_spares spares value

/-- What places hold after a tag is retired. -/
theorem becomes_retireTag {tag : Value} (asked : call = .retire tag) (number : Int) :
    Becomes store.slots[place]? call place (store.retireTag number).2.slots[place]? := by
  have spares : call.Spares place := by
    rw [asked]
    exact StoreCall.spares_of_ne nofun nofun
  rw [slots_retireTag]
  cases store.slots[place]? with
  | none => exact .fresh spares.1 rfl nofun
  | some slot =>
    refine .changed rfl ?_
    dsimp only [Slot.retiring]
    by_cases due : slot.tag = number && !slot.retired
    · rw [if_pos due]
      exact .retired asked (by simpa using (Bool.and_eq_true_iff.mp due).2)
    · rw [if_neg due]
      exact .valued slot.value spares

/-- An index that is set is refused, or is the one of a slot. -/
theorem setValue_cases (store : Store) (index value : Value) :
    (∃ fault, store.setValue index value = .error fault ∧
      ∀ (place : Nat) x, place < store.size → index = .int place → finiteReal value ≠ .ok x) ∨
      ∃ (here : Nat) (x : Float), index = .int here ∧ finiteReal value = .ok x ∧
        store.setValue index value = .ok (here, store.write here x) := by
  cases written : store.setValue index value with
  | error fault =>
    refine .inl ⟨fault, rfl, ?_⟩
    rintro place x inside rfl finite
    have checked : store.check (.int place) = .ok place :=
      if_pos ⟨Int.natCast_nonneg place, Int.ofNat_lt.mpr inside⟩
    unfold setValue at written
    rw [checked, ok_bind, finite] at written
    cases written
  | ok result =>
    obtain ⟨here, checked, rest⟩ := bind_eq_ok.mp written
    obtain ⟨x, finite, answered⟩ := bind_eq_ok.mp rest
    cases answered
    refine .inr ⟨here, x, ?_, finite, rfl⟩
    cases index with
    | int n =>
      dsimp only [check, checkIndex] at checked
      split at checked
      · rename_i bounds
        cases checked
        rw [Int.toNat_of_nonneg bounds.1]
      · cases checked
    | _ => cases checked

/-- What places hold after one of them is set. -/
theorem becomes_set (index value fixed : Value) :
    Becomes store.slots[place]? (.set index value fixed) place
      (store.set index value fixed).2.slots[place]? := by
  unfold set
  rcases setValue_cases store index value with
    ⟨fault, refused, outside⟩ | ⟨here, x, rfl, finite, written⟩
  · rw [refused]
    cases there : store.slots[place]? with
    | none => exact .fresh nofun rfl nofun
    | some slot =>
      -- A slot that is there is not refused for its index.
      have spares : (StoreCall.set index value fixed).Spares place := by
        refine ⟨nofun, ?_⟩
        rintro flag ⟨_, x, _, ⟨⟩, finite, -⟩
        exact outside place x (Array.getElem?_eq_some_iff.mp there).1 rfl finite
      rw [← there]
      exact .same spares
  · rw [written]
    dsimp only
    by_cases same : here = place
    · subst same
      cases truth : fixed.truth with
      | error fault =>
        dsimp only
        have spares : (StoreCall.set (.int here) value fixed).Spares here := by
          refine ⟨nofun, ?_⟩
          rintro flag ⟨_, _, _, ⟨⟩, -, read⟩
          cases truth.symm.trans read
        rw [slots_write, if_pos rfl]
        exact .of_spares spares fun _ => x
      | ok flag =>
        dsimp only
        rw [slots_mark, if_pos rfl, slots_write, if_pos rfl]
        cases store.slots[here]? with
        | none => exact .fresh nofun rfl nofun
        | some slot => exact .changed rfl (.flagged x ⟨value, x, fixed, rfl, finite, truth⟩)
    · have spares : (StoreCall.set (.int here) value fixed).Spares place := by
        refine ⟨nofun, ?_⟩
        rintro flag ⟨_, _, _, again, -⟩
        cases again
        exact same rfl
      cases fixed.truth with
      | error fault =>
        dsimp only
        rw [slots_write, if_neg same]
        exact .same spares
      | ok flag =>
        dsimp only
        rw [slots_mark, if_neg same, slots_write, if_neg same]
        exact .same spares

/-- What every place holds after a call. -/
theorem becomes_perform (store : Store) (call : StoreCall) (place : Nat) :
    Becomes store.slots[place]? call place (store.perform call).2.slots[place]? := by
  cases call with
  | push value fixed tag =>
    have spares : (StoreCall.push value fixed tag).Spares place :=
      StoreCall.spares_of_ne nofun nofun
    show Becomes _ _ _ (settle store _ (store.push value fixed tag)).2.slots[place]?
    cases pushed : store.push value fixed tag with
    | error fault => exact .same spares
    | ok result =>
      obtain ⟨x, b, t, -, grown⟩ := push_eq_ok pushed
      show Becomes _ _ _ result.2.slots[place]?
      rw [grown]
      exact becomes_append spares ..
  | pushAll values fixed tag =>
    have spares : (StoreCall.pushAll values fixed tag).Spares place :=
      StoreCall.spares_of_ne nofun nofun
    show Becomes _ _ _ (settle store _ (do
      store.pushAll (← values.toItems) fixed tag)).2.slots[place]?
    cases pushed : (do store.pushAll (← values.toItems) fixed tag) with
    | error fault => exact .same spares
    | ok result =>
      obtain ⟨items, -, pushed⟩ := bind_eq_ok.mp pushed
      obtain ⟨reals, b, t, -, -, -, grown⟩ := pushAll_eq_ok pushed
      show Becomes _ _ _ result.2.slots[place]?
      rw [grown]
      exact becomes_append spares ..
  | set index value fixed => exact becomes_set index value fixed
  | update indices values =>
    have spares : (StoreCall.update indices values).Spares place :=
      StoreCall.spares_of_ne nofun nofun
    show Becomes _ _ _ (settle store _ (store.update indices values)).2.slots[place]?
    rw [update_eq]
    cases updated : (do
        let places ← (← indices.toItems).mapM store.check
        Except.ok (store.writeFreeAll (← store.toLedger.offered places values))) with
    | error fault => exact .same spares
    | ok result =>
      obtain ⟨items, -, rest⟩ := bind_eq_ok.mp updated
      obtain ⟨places, -, rest⟩ := bind_eq_ok.mp rest
      obtain ⟨pairs, -, answered⟩ := bind_eq_ok.mp rest
      cases answered
      exact becomes_writeFreeAll spares pairs
  | retire tag =>
    show Becomes _ _ _ (settle store _ (store.retire tag)).2.slots[place]?
    unfold Store.retire
    cases tag.toInteger with
    | error fault => exact .same (StoreCall.spares_of_ne nofun nofun)
    | ok number => exact becomes_retireTag rfl number
  | clear => exact .dropped rfl
  | _ => exact .same (StoreCall.spares_of_ne nofun nofun)

end Store

namespace Store

variable {store : Store} {place : Nat} {tag : Int}

/-- A slot with a tag is retired. -/
def Retires (store : Store) (place : Nat) (tag : Int) : Prop :=
  ∃ slot, store.slots[place]? = some slot ∧ slot.tag = tag ∧ slot.retired

/-- What a place holds after a call that drops nothing is as retired as before. -/
theorem Retires.becomes {after : Store} {call : StoreCall} (retires : store.Retires place tag)
    (becomes : Becomes store.slots[place]? call place after.slots[place]?) (kept : call ≠ .clear) :
    after.Retires place tag := by
  obtain ⟨slot, there, rfl, marked⟩ := retires
  obtain ⟨later, found, same, still⟩ := becomes.retired kept there marked
  exact ⟨later, found, same, still⟩

/-- A slot stays retired when slots are appended. -/
theorem Retires.append (retires : store.Retires place tag) (xs : List Float) (fixed : Bool)
    (other : Int) : (store.append xs fixed other).2.Retires place tag := by
  have spares : StoreCall.size.Spares place := StoreCall.spares_of_ne nofun nofun
  exact retires.becomes (becomes_append spares xs fixed other) spares.1

/-- A slot stays retired when values are offered. -/
theorem Retires.writeFreeAll (retires : store.Retires place tag) (pairs : List (Nat × Float)) :
    (store.writeFreeAll pairs).2.Retires place tag := by
  have spares : StoreCall.size.Spares place := StoreCall.spares_of_ne nofun nofun
  exact retires.becomes (becomes_writeFreeAll spares pairs) spares.1

/-- A slot stays retired when a tag is retired. -/
theorem Retires.retireTag (retires : store.Retires place tag) (number : Int) :
    (store.retireTag number).2.Retires place tag := by
  have asked : StoreCall.retire (.int number) = .retire (.int number) := rfl
  exact retires.becomes (becomes_retireTag asked number) nofun

/-- A slot stays retired when a measured value is stored. -/
theorem Retires.write_mark (retires : store.Retires place tag) (index : Nat) (value : Float) :
    ((store.write index value).mark index true).Retires place tag := by
  obtain ⟨slot, there, same, marked⟩ := retires
  unfold Retires
  rw [slots_mark, slots_write]
  by_cases here : index = place
  · rw [if_pos here, if_pos here, there]
    exact ⟨_, rfl, same, marked⟩
  · rw [if_neg here, if_neg here, there]
    exact ⟨slot, rfl, same, marked⟩

/-- Retiring a tag retires all its slots. -/
theorem retires_retireTag {slot : Slot} (there : store.slots[place]? = some slot)
    (same : slot.tag = tag) : (store.retireTag tag).2.Retires place tag := by
  refine ⟨slot.retiring tag, ?_, ?_⟩
  · rw [slots_retireTag, there]
    rfl
  · unfold Slot.retiring
    by_cases due : slot.tag = tag && !slot.retired
    · rw [if_pos due]
      exact ⟨same, rfl⟩
    · rw [if_neg due]
      exact ⟨same, by simpa [same] using due⟩

end Store

/-- What holds after a call exactly if the call begins it, or it held before and the call keeps it,
holds after some calls exactly if it held before all and all keep it, or one of them begins it and
those that follow keep it. -/
theorem holds_performAll_iff {σ : Type} {perform : Performing σ} {holds : σ → Prop}
    {begins : σ → StoreCall → Prop} {keeps : StoreCall → Prop}
    (step : ∀ state call,
      holds (perform state call).2 ↔ begins state call ∨ holds state ∧ keeps call)
    (state : σ) (calls : List StoreCall) :
    holds (performAll perform state calls).2 ↔
      (holds state ∧ ∀ call ∈ calls, keeps call) ∨
        ∃ earlier call later, calls = earlier ++ call :: later ∧
          begins (performAll perform state earlier).2 call ∧ ∀ last ∈ later, keeps last := by
  induction calls generalizing state with
  | nil =>
    refine ⟨fun held => .inl ⟨held, List.forall_mem_nil _⟩, ?_⟩
    rintro (⟨held, -⟩ | ⟨earlier, call, later, split, -⟩)
    · exact held
    · simp at split
  | cons call rest ih =>
    show holds (performAll perform (perform state call).2 rest).2 ↔ _
    rw [ih, step, List.forall_mem_cons]
    constructor
    · rintro (⟨begun | ⟨held, keeps⟩, kept⟩ | ⟨earlier, next, later, rfl, begun, kept⟩)
      · exact .inr ⟨[], call, rest, rfl, begun, kept⟩
      · exact .inl ⟨held, keeps, kept⟩
      · exact .inr ⟨call :: earlier, next, later, rfl, begun, kept⟩
    · rintro (⟨held, keeps, kept⟩ | ⟨earlier, next, later, split, begun, kept⟩)
      · exact .inl ⟨.inr ⟨held, keeps⟩, kept⟩
      · rcases List.cons_eq_append_iff.mp split with ⟨rfl, same⟩ | ⟨between, rfl, rfl⟩
        · cases same
          exact .inl ⟨.inl begun, kept⟩
        · exact .inr ⟨between, next, later, rfl, begun, kept⟩

/-- Calls that come later are carried out on what those before leave. -/
theorem performAll_append {σ : Type} (perform : Performing σ) (state : σ)
    (before later : List StoreCall) :
    (performAll perform state (before ++ later)).2 =
      (performAll perform (performAll perform state before).2 later).2 := by
  induction before generalizing state with
  | nil => rfl
  | cons call rest ih => exact ih (perform state call).2

namespace Arena

variable {arena : Arena} {calls : List StoreCall} {place : Nat}

/-- One of some calls sets a retired slot with a false flag, and none of those that follow drops it
or sets it with a true one. -/
def Unpinned (arena : Arena) (calls : List StoreCall) (place : Nat) : Prop :=
  ∃ earlier call later, calls = earlier ++ call :: later ∧
    (performAll perform arena earlier).2.isRetired place ∧ call.Sets place false ∧
      ∀ last ∈ later, last ≠ .clear ∧ ¬ last.Sets place true

/-- None of some calls sets a retired slot with a false flag. -/
def Respected (arena : Arena) (calls : List StoreCall) : Prop :=
  ∀ earlier call later, calls = earlier ++ call :: later → ∀ place,
    (performAll perform arena earlier).2.isRetired place → ¬ call.Sets place false

/-- What a place of an arena holds. -/
def held (arena : Arena) (place : Nat) : Option Slot := (arena.toStore 0).slots[place]?

/-- A place of a slot holds it. -/
theorem held_of_lt (inside : place < arena.size) : arena.held place = some (arena.slot place) :=
  (slots_toStore ..).trans (if_pos inside)

/-- A place that holds a slot is one of a slot, and holds what the arena has there. -/
theorem held_eq_some {slot : Slot} (there : arena.held place = some slot) :
    place < arena.size ∧ slot = arena.slot place := by
  unfold held at there
  rw [slots_toStore] at there
  by_cases inside : place < arena.size
  · rw [if_pos inside] at there
    exact ⟨inside, (Option.some.inj there).symm⟩
  · rw [if_neg inside] at there
    cases there

/-- What is retired is a slot. -/
theorem lt_size_of_isRetired (retired : arena.isRetired place) : place < arena.size := by
  by_contra beyond
  rw [not_isRetired (Nat.le_of_not_lt beyond)] at retired
  cases retired

/-- A slot has the mark if it is among those that are retired. -/
theorem marked_held : Marked (arena.held place) ↔ arena.isRetired place := by
  constructor
  · rintro ⟨slot, there, marked⟩
    obtain ⟨-, rfl⟩ := held_eq_some there
    exact marked
  · exact fun retired => ⟨_, held_of_lt (lt_size_of_isRetired retired), retired⟩

/-- A slot is loose if it is retired and its flag is false. -/
theorem loose_held :
    Loose (arena.held place) ↔ arena.isRetired place ∧ arena.flag place = false := by
  constructor
  · rintro ⟨slot, there, loose⟩
    obtain ⟨-, rfl⟩ := held_eq_some there
    exact loose
  · exact fun loose => ⟨_, held_of_lt (lt_size_of_isRetired loose.1), loose⟩

/-- The free indices are those of the slots whose flag is false. -/
theorem mem_freeIndices :
    place ∈ arena.freeIndices ↔ place < arena.size ∧ arena.flag place = false := by
  unfold freeIndices indicesWhere
  rw [List.mem_filter, List.mem_range, Bool.not_eq_true']

/-- What every place of an arena holds after a call. -/
theorem becomes_perform (arena : Arena) (call : StoreCall) (place : Nat) :
    Becomes (arena.held place) call place ((arena.perform call).2.held place) := by
  have becomes := (arena.toStore 0).becomes_perform call place
  rwa [perform_toStore] at becomes

/-- After some calls a slot is retired and free exactly if it was before and no call changed that,
or it was unpinned among them. -/
theorem loose_performAll (arena : Arena) (calls : List StoreCall) (place : Nat) :
    Loose ((performAll perform arena calls).2.held place) ↔
      (Loose (arena.held place) ∧ ∀ call ∈ calls, call ≠ .clear ∧ ¬ call.Sets place true) ∨
        arena.Unpinned calls place := by
  have run := @holds_performAll_iff Arena perform (fun arena => Loose (arena.held place))
    (fun arena call => Marked (arena.held place) ∧ call.Sets place false)
    (fun call => call ≠ .clear ∧ ¬ call.Sets place true)
    (fun arena call => (arena.becomes_perform call place).loose_iff) arena calls
  rw [run]
  unfold Unpinned
  simp only [marked_held, and_assoc]

/-- After some calls of a new arena a slot is retired and free exactly if it was unpinned. -/
theorem unpinned_withRoom_iff {room : Int} :
    ((performAll perform (withRoom room) calls).2.isRetired place ∧
      (performAll perform (withRoom room) calls).2.flag place = false) ↔
      (withRoom room).Unpinned calls place := by
  rw [← loose_held, loose_performAll]
  refine or_iff_right fun ⟨⟨slot, there, _⟩, _⟩ => ?_
  exact absurd (held_eq_some there).1 (Nat.not_lt_zero place)

/-- A slot that is retired stays so, under its tag, through calls that drop nothing. -/
theorem retired_performAll (kept : .clear ∉ calls) (retired : arena.isRetired place) :
    (performAll perform arena calls).2.isRetired place ∧
      (performAll perform arena calls).2.tag place = arena.tag place := by
  induction calls generalizing arena with
  | nil => exact ⟨retired, rfl⟩
  | cons call rest ih =>
    obtain ⟨here, later⟩ := not_or.mp (mt List.mem_cons.mpr kept)
    obtain ⟨slot, there, tag, marked⟩ := (arena.becomes_perform call place).retired (Ne.symm here)
      (held_of_lt (lt_size_of_isRetired retired)) retired
    obtain ⟨-, rfl⟩ := held_eq_some there
    obtain ⟨marked', tag'⟩ := ih later marked
    exact ⟨marked', tag'.trans tag⟩

/-- Retiring a tag marks all its slots. -/
theorem isRetired_of_retire {tag : Value} (inside : place < arena.size)
    (read : tag.toInteger = .ok (arena.tag place)) :
    (arena.perform (.retire tag)).2.isRetired place ∧
      (arena.perform (.retire tag)).2.tag place = arena.tag place := by
  have held : (arena.perform (.retire tag)).2.held place =
      ((arena.toStore 0).perform (.retire tag)).2.slots[place]? := by
    rw [perform_toStore]
    rfl
  have after : ((arena.toStore 0).perform (.retire tag)).2 =
      ((arena.toStore 0).retireTag (arena.tag place)).2 := by
    show (settle _ _ ((arena.toStore 0).retire tag)).2 = _
    unfold Store.retire
    rw [read]
    rfl
  obtain ⟨slot, there, same, marked⟩ :=
    (arena.toStore 0).retires_retireTag (arena.held_of_lt inside) rfl
  rw [after] at held
  obtain ⟨-, rfl⟩ := held_eq_some (held.trans there)
  exact ⟨marked, same⟩

end Arena

namespace Sketch

variable {sketch after : Sketch} {scope : Scope} {place : Nat} {tag : Int}

/-- A slot stays retired in every change within a generation. -/
theorem retires_change (retires : sketch.store.Retires place tag)
    (change : Change scope sketch after)
    (same : after.store.generation = sketch.store.generation) : after.store.Retires place tag := by
  cases change with
  | grown | named | drawn | constrained => exact retires.append ..
  | retired number => exact retires.retireTag number
  | applied => exact retires.writeFreeAll _
  | measured value => exact retires.write_mark _ value
  | cleared => exact absurd same (Nat.succ_ne_self _)
  | _ => exact retires

/-- A slot stays retired in every chain of changes within a generation. -/
theorem retires_changes (retires : sketch.store.Retires place tag)
    (changes : Changes scope sketch after)
    (same : after.store.generation = sketch.store.generation) : after.store.Retires place tag := by
  induction changes with
  | refl => exact retires
  | tail before last ih =>
    have first := generation_changes before
    have second := generation_change last
    exact retires_change (ih (by omega)) last (by omega)

/-- A slot stays retired during any edits that neither overwrite a slot directly nor clear. -/
theorem retires_editedAll {edits : List Edit} (gentle : ∀ edit ∈ edits, edit.IsGentle)
    (retires : sketch.store.Retires place tag) :
    (sketch.editedAll edits).store.Retires place tag := by
  induction edits generalizing sketch with
  | nil => exact retires
  | cons edit rest ih =>
    have mild := gentle edit List.mem_cons_self
    refine ih (fun later there => gentle later (List.mem_cons_of_mem _ there)) ?_
    refine retires_changes retires (changes_edited edit.within_all ?_) ?_
    · rintro index value fixed rfl
      exact mild
    · refine congrArg Binding.generation (binding_edited ?_)
      rintro rfl
      exact mild

/-- What every change keeps, edits keep that overwrite nothing directly. -/
theorem invariant_editedAll_unset {holds : Sketch → Prop} {edits : List Edit}
    (unset : ∀ edit ∈ edits, ∀ index value fixed, edit ≠ .set index value fixed)
    (kept : ∀ {before after}, holds before → Change .all before after → holds after)
    (held : holds sketch) : holds (sketch.editedAll edits) := by
  induction edits generalizing sketch with
  | nil => exact held
  | cons edit rest ih =>
    refine ih (fun later there => unset later (List.mem_cons_of_mem _ there)) ?_
    have steps := @changes_edited sketch .all edit edit.within_all (unset edit List.mem_cons_self)
    generalize sketch.edited edit = last at steps
    induction steps with
    | refl => exact held
    | tail _ step held => exact kept held step

/-- What is removed under a tag stays retired and fixed during any edits that neither overwrite a
slot directly nor clear. -/
theorem retires_after_removeTag {edits : List Edit} {slot : Slot} (numbered : sketch.Numbered)
    (tagged : sketch.Tagged) (gentle : ∀ edit ∈ edits, edit.IsGentle)
    (there : sketch.store.slots[place]? = some slot) (same : slot.tag = tag) :
    ∃ now, ((sketch.edited (.ask (.removeTag (.int tag)))).editedAll edits).store.slots[place]? =
        some now ∧ now.tag = tag ∧ now.retired ∧ now.fixed ∧
      place ∉
        ((sketch.edited (.ask (.removeTag (.int tag)))).editedAll edits).store.freeIndices := by
  have unset : ∀ edit ∈ .ask (.removeTag (.int tag)) :: edits, ∀ index value fixed,
      edit ≠ Edit.set index value fixed := by
    rintro edit among index value fixed rfl
    cases among with
    | tail _ later => exact gentle _ later
  have after : (sketch.editedAll (.ask (.removeTag (.int tag)) :: edits)).Tagged :=
    invariant_editedAll_unset unset Tagged.change tagged
  obtain ⟨journal, removed⟩ := Session.outcome_removeTag numbered tag
  have left : (sketch.edited (.ask (.removeTag (.int tag)))).store =
      (sketch.store.retireTag tag).2 := by
    show (Session.outcome (Session.removeTag (.int tag) >>= fun ids => pure (Answer.ids ids))
      sketch).2.store = _
    rw [Session.outcome_bind, removed]
    rfl
  have retires : (sketch.edited (.ask (.removeTag (.int tag)))).store.Retires place tag := by
    rw [left]
    exact Store.retires_retireTag there same
  obtain ⟨now, found, kept, marked⟩ := retires_editedAll gentle retires
  have fixed := after.retired place now found marked
  refine ⟨now, found, kept, marked, fixed, fun free => ?_⟩
  have unheld := Store.isFree_of_mem free
  unfold Store.IsFree at unheld
  rw [found, Option.any_some, fixed] at unheld
  cases unheld

end Sketch

/-- What a slot needs to stay out of all solves once its tag is retired, whatever room the store
starts with and whatever is asked of it. The mark stays until the store is cleared. A slot with the
mark is free exactly if it was set with a false flag when it had the mark, and neither set with a
true one nor dropped since; to retire its tag again does not fix it. So if no slot with the mark is
set with a false flag, every one is fixed, and what was retired under a tag is among no free indices
until the store is cleared. In a sketch whose slots are not set directly every retired slot is
fixed, and what is removed under a tag stays fixed until the sketch is cleared. -/
theorem retired_unless_unpinned (room : Int) (calls : List StoreCall) :
    let begun := Arena.withRoom room
    let arena := (performAll Arena.perform begun calls).2
    (∀ place, arena.isRetired place → (arena.flag place = false ↔ begun.Unpinned calls place)) ∧
    (∀ tag t later, tag.toInteger = .ok t → .clear ∉ later →
      let after := (performAll Arena.perform arena (.retire tag :: later)).2
      ∀ place < arena.size, arena.tag place = t →
        after.tag place = t ∧ after.isRetired place ∧
          (place ∈ after.freeIndices ↔ begun.Unpinned (calls ++ .retire tag :: later) place)) ∧
    (begun.Respected calls →
      (∀ place, arena.isRetired place → arena.flag place ∧ place ∉ arena.freeIndices) ∧
      ∀ earlier tag t later, calls = earlier ++ .retire tag :: later → tag.toInteger = .ok t →
        .clear ∉ later → ∀ place < (performAll Arena.perform begun earlier).2.size,
          (performAll Arena.perform begun earlier).2.tag place = t →
            arena.isRetired place ∧ arena.flag place ∧ place ∉ arena.freeIndices) ∧
    ∀ identity options journal edits,
      (∀ edit ∈ edits, ∀ index value fixed, edit ≠ Edit.set index value fixed) →
      let sketch := (Sketch.start identity options journal).editedAll edits
      (∀ (place : Nat) (slot : Slot), sketch.store.slots[place]? = some slot →
        slot.retired → slot.fixed) ∧
      ∀ tag later, (∀ edit ∈ later, edit.IsGentle) →
        let after := (sketch.edited (.ask (.removeTag (.int tag)))).editedAll later
        ∀ (place : Nat) (slot : Slot), sketch.store.slots[place]? = some slot → slot.tag = tag →
          ∃ now, after.store.slots[place]? = some now ∧ now.tag = tag ∧ now.retired ∧ now.fixed ∧
            place ∉ after.store.freeIndices := by
  intro begun arena
  have flag_iff (calls : List StoreCall) (place : Nat)
      (retired : (performAll Arena.perform begun calls).2.isRetired place) :
      (performAll Arena.perform begun calls).2.flag place = false ↔ begun.Unpinned calls place := by
    rw [← Arena.unpinned_withRoom_iff, and_iff_right retired]
  have removed (earlier : List StoreCall) (tag : Value) (t : Int) (later : List StoreCall)
      (read : tag.toInteger = .ok t) (kept : .clear ∉ later) (place : Nat)
      (inside : place < (performAll Arena.perform begun earlier).2.size)
      (same : (performAll Arena.perform begun earlier).2.tag place = t) :
      (performAll Arena.perform begun (earlier ++ .retire tag :: later)).2.tag place = t ∧
        (performAll Arena.perform begun (earlier ++ .retire tag :: later)).2.isRetired place := by
    subst same
    obtain ⟨marked, tagged⟩ := Arena.isRetired_of_retire inside read
    obtain ⟨still, same⟩ := Arena.retired_performAll kept marked
    rw [performAll_append]
    exact ⟨same.trans tagged, still⟩
  refine ⟨flag_iff calls, fun tag t later read kept place inside same => ?_, fun respected => ?_,
    fun identity options journal edits unset => ?_⟩
  · obtain ⟨tagged, marked⟩ := removed calls tag t later read kept place inside same
    have free := flag_iff _ place marked
    rw [performAll_append] at tagged marked free
    refine ⟨tagged, marked, ?_⟩
    rw [← free, Arena.mem_freeIndices, and_iff_right (Arena.lt_size_of_isRetired marked)]
  · have fixed (place : Nat) (marked : arena.isRetired place) :
        arena.flag place ∧ place ∉ arena.freeIndices := by
      have pinned : ¬ begun.Unpinned calls place := by
        rintro ⟨earlier, call, later, split, retired, sets, -⟩
        exact respected earlier call later split place retired sets
      have unfree := mt (flag_iff calls place marked).mp pinned
      exact ⟨Bool.not_eq_false _ ▸ unfree, fun free => unfree (Arena.mem_freeIndices.mp free).2⟩
    refine ⟨fixed, fun earlier tag t later split read kept place inside same => ?_⟩
    obtain ⟨-, marked⟩ := removed earlier tag t later read kept place inside same
    rw [← split] at marked
    exact ⟨marked, fixed place marked⟩
  · have tagged : ((Sketch.start identity options journal).editedAll edits).Tagged :=
      Sketch.invariant_editedAll_unset unset Sketch.Tagged.change (Sketch.tagged_start ..)
    refine ⟨tagged.retired, fun tag later gentle place slot there same => ?_⟩
    exact Sketch.retires_after_removeTag
      (Sketch.invariant_editedAll_unset unset Sketch.Numbered.change (Sketch.numbered_start ..))
      tagged gentle there same

/-- A slot that was retired, set with a false flag and retired again is free. -/
theorem retired_unless_unpinned_again :
    let calls : List StoreCall :=
      [.push (.float 1.0) (.bool false) (.int 7), .retire (.int 7),
        .set (.int 0) (.float 2.0) (.bool false)]
    let arena := (performAll Arena.perform (.withRoom 16) (calls ++ [.retire (.int 7)])).2
    arena.tag 0 = 7 ∧ arena.isRetired 0 ∧ 0 ∈ arena.freeIndices := by
  intro calls arena
  obtain ⟨-, retiring, -⟩ := retired_unless_unpinned 16 calls
  obtain ⟨tagged, marked, free⟩ := retiring (.int 7) 7 [] rfl List.not_mem_nil 0 (by decide) rfl
  have unpinned : (Arena.withRoom 16).Unpinned (calls ++ [.retire (.int 7)]) 0 := by
    refine ⟨[.push (.float 1.0) (.bool false) (.int 7), .retire (.int 7)], _,
      [.retire (.int 7)], rfl, by decide, ⟨.float 2.0, 2.0, .bool false, rfl, rfl, rfl⟩, ?_⟩
    intro last there
    rw [List.mem_singleton.mp there]
    exact ⟨nofun, fun ⟨_, _, _, impossible, _⟩ => nomatch impossible⟩
  exact ⟨tagged, marked, free.mpr unpinned⟩

end Drafting
