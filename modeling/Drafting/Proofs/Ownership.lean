import Drafting.Proofs.Requesting
import Mathlib.Data.List.Flatten
import Mathlib.Data.List.Nodup

/-!
# Ownership of slots

Registered geometry, registered constraints and named parameters claim slots for themselves: their
own block, the slots of their literals, the slot of their value. No slot is ever claimed twice, and
every slot that is referred to exists. Slots are claimed only when they are allocated, so what was
claimed before lies below them; nothing else but dropping claims changes them. Clearing drops all
claims together with the slots.
-/

namespace Drafting

/-- Some slots are separate in a store of some size: they exist, and none is listed twice. -/
structure Separate (size : Nat) (slots : List Int) : Prop where
  existing : ∀ index ∈ slots, InStore size index
  distinct : slots.Nodup

namespace Separate

variable {size larger count : Nat} {slots fewer more : List Int}

/-- Fewer slots of a larger store are separate. -/
theorem mono (separate : Separate size slots) (grown : size ≤ larger)
    (kept : fewer.Sublist slots) : Separate larger fewer where
  existing index there := (separate.existing index (kept.subset there)).mono grown
  distinct := separate.distinct.sublist kept

/-- Separate slots stay so together with new ones. -/
theorem fresh (separate : Separate size slots)
    (grown : more.Perm (slots ++ (List.range' size count).map Int.ofNat)) :
    Separate (size + count) more := by
  have new : ∀ index ∈ (List.range' size count).map Int.ofNat,
      (size : Int) ≤ index ∧ index < (size + count : Nat) := by
    intro index there
    obtain ⟨slot, inside, rfl⟩ := List.mem_map.mp there
    have bounds := List.mem_range'_1.mp inside
    exact ⟨Int.ofNat_le.mpr bounds.1, Int.ofNat_lt.mpr bounds.2⟩
  constructor
  · intro index there
    rcases List.mem_append.mp (grown.mem_iff.mp there) with before | allocated
    · exact (separate.existing index before).mono (Nat.le_add_right size count)
    · have bounds := new index allocated
      exact ⟨by omega, bounds.2⟩
  · refine grown.nodup_iff.mpr (List.nodup_append.mpr ⟨separate.distinct, ?_, ?_⟩)
    · exact List.Nodup.map (fun _ _ same => Int.ofNat.inj same) List.nodup_range'
    · intro index before other allocated same
      have below := (separate.existing index before).2
      have above := (new other allocated).1
      omega

end Separate

namespace Sketch

/-- The slots that registered geometry claims, then those of registered constraints and those of
named parameters. -/
def claims (sketch : Sketch) : List Int :=
  sketch.table.entries.flatMap (fun entry => entry.view.ownIndices) ++
    sketch.constraints.flatMap (fun c => c.owned.map Int.ofNat) ++
      sketch.names.map fun pair => Int.ofNat pair.2

/-- A claim is one of a geometry, of a constraint or of a parameter. -/
theorem mem_claims {sketch : Sketch} {index : Int} :
    index ∈ sketch.claims ↔
      (∃ entry ∈ sketch.table.entries, index ∈ entry.view.ownIndices) ∨
        (∃ c ∈ sketch.constraints, ∃ slot ∈ c.owned, (slot : Int) = index) ∨
          ∃ pair ∈ sketch.names, (pair.2 : Int) = index := by
  unfold claims
  rw [List.mem_append, List.mem_append, or_assoc, List.mem_flatMap, List.mem_flatMap, List.mem_map]
  simp only [List.mem_map, Int.ofNat_eq_natCast]

/-- All slots that are referred to exist, and no slot is claimed twice. -/
structure Sound (sketch : Sketch) : Prop where
  views : ∀ entry ∈ sketch.table.entries, ∀ index ∈ entry.view.indices,
    InStore sketch.store.size index
  operands : ∀ c ∈ sketch.constraints, ∀ operand ∈ c.operands, ∀ index ∈ operand.slots,
    InStore sketch.store.size index
  claimed : Separate sketch.store.size sketch.claims

variable {sketch after : Sketch} {scope : Scope}

/-- A new sketch is sound. -/
theorem sound_start (identity : Nat) (options : SolveOptions) (journal : Journal) :
    (start identity options journal).Sound where
  views := List.forall_mem_nil _
  operands := List.forall_mem_nil _
  claimed := ⟨List.forall_mem_nil _, List.nodup_nil⟩

/-- Dropping and growing keep a sketch sound. -/
theorem Sound.mono (sound : sketch.Sound) (grown : sketch.store.size ≤ after.store.size)
    (entries : after.table.entries.Sublist sketch.table.entries)
    (constraints : after.constraints.Sublist sketch.constraints)
    (names : after.names = sketch.names) : after.Sound where
  views entry there index among :=
    (sound.views entry (entries.subset there) index among).mono grown
  operands c there operand given index among :=
    (sound.operands c (constraints.subset there) operand given index among).mono grown
  claimed := by
    refine sound.claimed.mono grown ?_
    unfold claims
    rw [names]
    exact ((entries.flatMap _).append (constraints.flatMap _)).append (List.Sublist.refl _)

/-- Defining a parameter over a new slot keeps a sketch sound. -/
theorem Sound.named (sound : sketch.Sound) (name : String) (value : Float) (fixed : Bool)
    (tag : Int) :
    Sound { sketch with
      store := (sketch.store.append [value] fixed tag).2
      names := sketch.names ++ [(name, sketch.store.size)] } where
  views entry there index among := by
    rw [Store.size_append]
    exact (sound.views entry there index among).mono (Nat.le_add_right ..)
  operands c there operand given index among := by
    rw [Store.size_append]
    exact (sound.operands c there operand given index among).mono (Nat.le_add_right ..)
  claimed := by
    rw [Store.size_append]
    refine sound.claimed.fresh (.of_eq ?_)
    unfold claims
    rw [List.map_append]
    exact (List.append_assoc _ _ _).symm

/-- Registering a geometry over a new block keeps a sketch sound. -/
theorem Sound.drawn (sound : sketch.Sound) {view : View} {values : List Float}
    (draws : sketch.Draws scope values.length view) (fixed : Bool) (slotTag tag : Int) :
    Sound { sketch with
      store := (sketch.store.append values fixed slotTag).2
      table := sketch.table.reserveId.2.insert sketch.table.nextId view tag } where
  views entry there index among := by
    rw [Store.size_append]
    rcases List.mem_append.mp there with before | new
    · exact (sound.views entry before index among).mono (Nat.le_add_right ..)
    · rw [List.mem_singleton.mp new] at among
      exact draws.existing index among
  operands c there operand given index among := by
    rw [Store.size_append]
    exact (sound.operands c there operand given index among).mono (Nat.le_add_right ..)
  claimed := by
    rw [Store.size_append]
    refine sound.claimed.fresh ?_
    unfold claims
    show List.Perm ((sketch.table.entries ++ [_]).flatMap _ ++ _ ++ _) _
    rw [List.flatMap_append, List.flatMap_singleton, draws.own]
    refine List.perm_iff_count.mpr fun index => ?_
    simp only [List.count_append]
    omega

/-- The slots of operands that were resolved exist. -/
theorem Sound.resolved (sound : sketch.Sound) {kind : Value} {operands : List Value}
    {spec : ConstraintKind} {resolved : List Resolved}
    (named : sketch.resolveRequest kind operands = .ok (spec, resolved)) {operand : Operand}
    (given : .operand operand ∈ resolved) : ∀ index ∈ operand.slots,
      InStore sketch.store.size index := by
  intro index among
  obtain ⟨-, -, all⟩ := resolveRequest_cases named
  obtain ⟨place, value, -, resolves⟩ := Resolves.of_mem all given
  rcases resolves.slots_cases with ⟨pair, defined, same⟩ | ⟨entry, registered, lent⟩ |
    ⟨view, -, accepted, same⟩
  · rw [same, List.mem_singleton] at among
    exact sound.claimed.existing index (mem_claims.mpr (.inr (.inr ⟨pair, defined, among.symm⟩)))
  · exact sound.views entry registered index (lent index among)
  · rw [same] at among
    exact (Store.checkView_eq_ok.mp accepted).2.1 index among

/-- The slots of placed operands exist, or are the new ones of the literals. -/
theorem Sound.placed (sound : sketch.Sound) {kind : Value} {operands : List Value}
    {spec : ConstraintKind} {resolved : List Resolved}
    (named : sketch.resolveRequest kind operands = .ok (spec, resolved)) {operand : Operand}
    (given : operand ∈ placedOperands sketch.store.size resolved) :
    ∀ index ∈ operand.slots, InStore (sketch.store.size + (literals resolved).length) index := by
  intro index among
  rcases mem_placedOperands given with before | ⟨slot, new, rfl⟩
  · exact (sound.resolved named before index among).mono (Nat.le_add_right ..)
  · rw [owned_place] at new
    have bounds := List.mem_range'_1.mp new
    rw [List.mem_singleton.mp among]
    exact ⟨Int.natCast_nonneg slot, Int.ofNat_lt.mpr bounds.2⟩

/-- Registering a constraint over new slots for its literals keeps a sketch sound. -/
theorem Sound.constrained (sound : sketch.Sound) {kind : Value} {operands : List Value}
    {spec : ConstraintKind} {resolved : List Resolved}
    (named : sketch.resolveRequest kind operands = .ok (spec, resolved)) (modifiers : Modifiers)
    (tag : Int) (block : Block) :
    Sound (sketch.withConstraint spec resolved modifiers tag block) := by
  have size : (sketch.withConstraint spec resolved modifiers tag block).store.size =
    sketch.store.size + (literals resolved).length := Store.size_append ..
  constructor
  · intro entry there index among
    rw [size]
    exact (sound.views entry there index among).mono (Nat.le_add_right ..)
  · intro c there operand given index among
    rw [size]
    rcases List.mem_append.mp there with before | new
    · exact (sound.operands c before operand given index among).mono (Nat.le_add_right ..)
    · rw [List.mem_singleton.mp new] at given
      exact sound.placed named given index among
  · rw [size]
    refine sound.claimed.fresh ?_
    have owned : (sketch.nextConstraint spec resolved modifiers tag block).owned =
      List.range' sketch.store.size (literals resolved).length := owned_place ..
    unfold claims
    show List.Perm (sketch.table.entries.flatMap _ ++ (sketch.constraints ++ [_]).flatMap _ ++
      sketch.names.map _) _
    rw [List.flatMap_append, List.flatMap_singleton, owned]
    refine List.perm_iff_count.mpr fun index => ?_
    simp only [List.count_append]
    omega

/-- Every change keeps a sketch sound. -/
theorem Sound.change (sound : sketch.Sound) (change : Change scope sketch after) : after.Sound := by
  cases change with
  | noted => exact sound.mono (Nat.le_refl _) (.refl _) (.refl _) rfl
  | grown values fixed tag =>
    refine sound.mono ?_ (.refl _) (.refl _) rfl
    rw [Store.size_append]
    exact Nat.le_add_right ..
  | reserved => exact sound.mono (Nat.le_refl _) (.refl _) (.refl _) rfl
  | named => exact sound.named ..
  | drawn values fixed slotTag tag draws => exact sound.drawn draws fixed slotTag tag
  | constrained modifiers tag _ _ named => exact sound.constrained named modifiers tag _
  | defined => exact sound.mono (Nat.le_refl _) (.refl _) (.refl _) rfl
  | removed => exact sound.mono (Nat.le_refl _) (.refl _) List.filter_sublist rfl
  | retired =>
    exact sound.mono (Nat.le_of_eq (Store.size_retireTag ..).symm) (.refl _) (.refl _) rfl
  | dropped => exact sound.mono (Nat.le_refl _) List.filter_sublist (.refl _) rfl
  | cleared =>
    exact ⟨List.forall_mem_nil _, List.forall_mem_nil _, List.forall_mem_nil _, List.nodup_nil⟩
  | attempted => exact sound.mono (Nat.le_refl _) (.refl _) (.refl _) rfl
  | applied =>
    exact sound.mono (Nat.le_of_eq (Store.size_writeFreeAll ..).symm) (.refl _) (.refl _) rfl
  | measured value =>
    refine sound.mono (Nat.le_of_eq ?_) (.refl _) (.refl _) rfl
    rw [Store.size_mark, Store.size_write]

/-- Every sketch that is reached is sound. -/
theorem Reached.sound (reached : sketch.Reached scope) : sketch.Sound :=
  reached.invariant sound_start Sound.change

/-- What a sound sketch says about its geometry, its constraints and its parameters: whatever slot
they mention exists, and what they own is apart. -/
structure SlotsApart (sketch : Sketch) : Prop where
  geometry : ∀ entry ∈ sketch.table.entries, ∀ index ∈ entry.view.indices,
    InStore sketch.store.size index
  operands : ∀ c ∈ sketch.constraints, ∀ operand ∈ c.operands, ∀ index ∈ operand.slots,
    InStore sketch.store.size index
  literals : ∀ c ∈ sketch.constraints, ∀ slot ∈ c.owned, slot < sketch.store.size
  parameters : ∀ pair ∈ sketch.names, pair.2 < sketch.store.size
  blocks : sketch.table.entries.Pairwise fun first second =>
    first.view.ownIndices.Disjoint second.view.ownIndices
  constraints : sketch.constraints.Pairwise fun first second => first.owned.Disjoint second.owned
  names : (sketch.names.map (·.2)).Nodup
  block_literal : ∀ entry ∈ sketch.table.entries, ∀ c ∈ sketch.constraints, ∀ slot ∈ c.owned,
    (slot : Int) ∉ entry.view.ownIndices
  block_parameter : ∀ entry ∈ sketch.table.entries, ∀ pair ∈ sketch.names,
    (pair.2 : Int) ∉ entry.view.ownIndices
  literal_parameter : ∀ c ∈ sketch.constraints, ∀ pair ∈ sketch.names, pair.2 ∉ c.owned

/-- Claims that are all distinct are apart, one sort of them from another and within each sort. -/
theorem Sound.slotsApart (sound : sketch.Sound) : sketch.SlotsApart := by
  have distinct := sound.claimed.distinct
  unfold claims at distinct
  obtain ⟨both, names, named⟩ := List.nodup_append.mp distinct
  obtain ⟨blocks, literals, crossed⟩ := List.nodup_append.mp both
  have block_claim {entry : GeometryEntry} {index : Int} (there : entry ∈ sketch.table.entries)
      (own : index ∈ entry.view.ownIndices) :
      index ∈ sketch.table.entries.flatMap fun entry => entry.view.ownIndices :=
    List.mem_flatMap.mpr ⟨entry, there, own⟩
  have literal_claim {c : Constraint} {slot : Nat} (there : c ∈ sketch.constraints)
      (own : slot ∈ c.owned) :
      Int.ofNat slot ∈ sketch.constraints.flatMap fun c => c.owned.map Int.ofNat :=
    List.mem_flatMap.mpr ⟨c, there, List.mem_map_of_mem own⟩
  have name_claim {pair : String × Nat} (there : pair ∈ sketch.names) :
      Int.ofNat pair.2 ∈ sketch.names.map fun pair => Int.ofNat pair.2 :=
    List.mem_map_of_mem (f := fun pair : String × Nat => Int.ofNat pair.2) there
  constructor
  · exact sound.views
  · exact sound.operands
  · intro c there slot own
    have existing := sound.claimed.existing slot
      (mem_claims.mpr (.inr (.inl ⟨c, there, slot, own, rfl⟩)))
    exact Int.ofNat_lt.mp existing.2
  · intro pair there
    have existing := sound.claimed.existing pair.2
      (mem_claims.mpr (.inr (.inr ⟨pair, there, rfl⟩)))
    exact Int.ofNat_lt.mp existing.2
  · exact (List.nodup_flatMap.mp blocks).2
  · refine (List.nodup_flatMap.mp literals).2.imp fun apart slot first second => ?_
    exact apart (List.mem_map_of_mem first) (List.mem_map_of_mem second)
  · refine List.Nodup.of_map Int.ofNat ?_
    rw [List.map_map]
    exact names
  · intro entry there c registered slot own block
    exact crossed _ (block_claim there block) _ (literal_claim registered own) rfl
  · intro entry there pair defined block
    exact named _ (List.mem_append_left _ (block_claim there block)) _ (name_claim defined) rfl
  · intro c there pair defined own
    exact named _ (List.mem_append_right _ (literal_claim there own)) _ (name_claim defined) rfl

/-- After every list of requests, answered or refused, every slot that is mentioned exists, and
the blocks of geometry, the literals of constraints and the named parameters are all apart. -/
theorem slotsApart_afterAll (identity : Nat) (options : SolveOptions) (journal : Journal)
    (requests : List Request) : ((start identity options journal).afterAll requests).SlotsApart :=
  Sound.slotsApart <| @Reached.sound _ .all
    ⟨identity, options, journal, requests, fun request _ => request.within_all, rfl⟩

end Sketch

end Drafting
