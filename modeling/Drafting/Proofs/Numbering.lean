import Drafting.Proofs.Requesting

/-!
# Identifiers

Geometries and constraints are numbered by one ascending sequence. So every identifier that was
handed out lies below the next one, each list is in the order of its identifiers, no identifier is
used twice, and what is registered is found under its own.
-/

namespace Drafting

/-- Registered geometries and constraints ascend by their identifiers below the next one, and none
of the one has the identifier of any of the other. -/
structure Sketch.Numbered (sketch : Sketch) : Prop where
  entries : ∀ entry ∈ sketch.table.entries, entry.id < sketch.table.nextId
  constraints : ∀ c ∈ sketch.constraints, c.id < sketch.table.nextId
  entriesAscend : sketch.table.entries.Pairwise (·.id < ·.id)
  constraintsAscend : sketch.constraints.Pairwise (·.id < ·.id)
  apart : ∀ entry ∈ sketch.table.entries, ∀ c ∈ sketch.constraints, entry.id ≠ c.id

/-- What comes after all that ascend ascends with them. -/
theorem pairwise_append_last {members : List α} {number : α → Nat} {last : α}
    (ascending : members.Pairwise (number · < number ·))
    (after : ∀ member ∈ members, number member < number last) :
    (members ++ [last]).Pairwise (number · < number ·) :=
  List.pairwise_append.mpr ⟨ascending, List.pairwise_singleton .., fun member there _ same =>
    List.mem_singleton.mp same ▸ after member there⟩

/-- In a list that ascends, every member is found under its own number. -/
theorem find?_of_ascending {members : List α} {number : α → Nat} {member : α}
    (ascending : members.Pairwise (number · < number ·)) (there : member ∈ members) :
    (members.find? fun other => (number other : Int) = number member) = some member := by
  induction ascending with
  | nil => cases there
  | @cons first rest before _ ih =>
    rcases List.mem_cons.mp there with rfl | later
    · simp
    · have differs : (number first : Int) ≠ number member := by
        have smaller := before member later
        omega
      rw [List.find?_cons_of_neg (by simpa using differs)]
      exact ih later

/-- In a list that ascends, to leave out those with the numbers of some of its members is to leave
out these. -/
theorem filter_not_contains {members : List α} {number : α → Nat} (chosen : α → Bool)
    (ascending : members.Pairwise (number · < number ·)) :
    (members.filter fun member =>
        !((members.filter chosen).map number).contains (number member)) =
      members.filter fun member => !chosen member := by
  refine List.filter_congr fun member there => ?_
  congr 1
  rw [Bool.eq_iff_iff, List.contains_iff_mem, List.mem_map]
  constructor
  · rintro ⟨other, among, same⟩
    obtain ⟨listed, picked⟩ := List.mem_filter.mp among
    have first := find?_of_ascending ascending listed
    rw [same, find?_of_ascending ascending there] at first
    rw [Option.some.inj first]
    exact picked
  · exact fun picked => ⟨member, List.mem_filter.mpr ⟨there, picked⟩, rfl⟩

/-- A member that is found among those that are kept is the one that is found among all, if that is
kept. -/
theorem find?_filter_of_ascending {members : List α} {number : α → Nat} (kept : α → Bool)
    (ascending : members.Pairwise (number · < number ·)) (id : Int) :
    ((members.filter kept).find? fun member => (number member : Int) = id) =
      (members.find? fun member => (number member : Int) = id).filter kept := by
  induction ascending with
  | nil => rfl
  | @cons first rest before _ ih =>
    by_cases here : (number first : Int) = id
    · have others : ∀ member ∈ rest, (number member : Int) ≠ id := fun member there => by
        have smaller := before member there
        omega
      rw [List.find?_cons_of_pos (by simpa using here)]
      by_cases keeps : kept first
      · rw [List.filter_cons_of_pos keeps, List.find?_cons_of_pos (by simpa using here),
          Option.filter_some_pos keeps]
      · rw [List.filter_cons_of_neg keeps, Option.filter_some_neg (by simpa using keeps),
          List.find?_eq_none]
        intro member there
        simpa using others member (List.mem_of_mem_filter there)
    · rw [List.find?_cons_of_neg (by simpa using here), ← ih]
      by_cases keeps : kept first
      · rw [List.filter_cons_of_pos keeps, List.find?_cons_of_neg (by simpa using here)]
      · rw [List.filter_cons_of_neg keeps]

/-- What is found under an identifier is answered under it. -/
theorem Session.outcome_geometry_found {sketch : Sketch} {id : Int} {entry : GeometryEntry}
    (found : sketch.table.find? id = some entry) :
    (geometry (.int id)).outcome sketch = (.ok entry.view, sketch) := by
  have looked : sketch.table.get (.int id) = .ok entry.view := by
    unfold GeometryTable.get
    rw [show (Value.int id).lookup sketch.table.find? = .ok (sketch.table.find? id) from rfl,
      found]
    rfl
  unfold geometry
  rw [outcome_get_bind, outcome_liftM, looked]

namespace Sketch

variable {sketch after : Sketch} {scope : Scope}

/-- Nothing is numbered in a new sketch. -/
theorem numbered_start (identity : Nat) (options : SolveOptions) (journal : Journal) :
    (start identity options journal).Numbered where
  entries := List.forall_mem_nil _
  constraints := List.forall_mem_nil _
  entriesAscend := .nil
  constraintsAscend := .nil
  apart := List.forall_mem_nil _

/-- Dropping keeps what is left in order. -/
theorem Numbered.mono (numbered : sketch.Numbered)
    (later : sketch.table.nextId ≤ after.table.nextId)
    (entries : after.table.entries.Sublist sketch.table.entries)
    (constraints : after.constraints.Sublist sketch.constraints) : after.Numbered where
  entries entry there := Nat.lt_of_lt_of_le (numbered.entries entry (entries.subset there)) later
  constraints c there :=
    Nat.lt_of_lt_of_le (numbered.constraints c (constraints.subset there)) later
  entriesAscend := numbered.entriesAscend.sublist entries
  constraintsAscend := numbered.constraintsAscend.sublist constraints
  apart entry there c registered :=
    numbered.apart entry (entries.subset there) c (constraints.subset registered)

/-- A geometry that is registered under the next identifier comes last. -/
theorem Numbered.drawn (numbered : sketch.Numbered) (view : View) (tag : Int) :
    Numbered { sketch with
      table := sketch.table.reserveId.2.insert sketch.table.nextId view tag } where
  entries entry there := by
    rcases List.mem_append.mp there with before | new
    · exact Nat.lt_succ_of_lt (numbered.entries entry before)
    · rw [List.mem_singleton.mp new]
      exact Nat.lt_succ_self _
  constraints c there := Nat.lt_succ_of_lt (numbered.constraints c there)
  entriesAscend := pairwise_append_last numbered.entriesAscend numbered.entries
  constraintsAscend := numbered.constraintsAscend
  apart entry there c registered := by
    rcases List.mem_append.mp there with before | new
    · exact numbered.apart entry before c registered
    · rw [List.mem_singleton.mp new]
      exact Nat.ne_of_gt (numbered.constraints c registered)

/-- A constraint that is registered under the next identifier comes last. -/
theorem Numbered.constrained (numbered : sketch.Numbered) {c : Constraint}
    (next : c.id = sketch.table.nextId) :
    Numbered { sketch with
      table := sketch.table.reserveId.2, constraints := sketch.constraints ++ [c] } where
  entries entry there := Nat.lt_succ_of_lt (numbered.entries entry there)
  constraints other there := by
    rcases List.mem_append.mp there with before | new
    · exact Nat.lt_succ_of_lt (numbered.constraints other before)
    · rw [List.mem_singleton.mp new, next]
      exact Nat.lt_succ_self _
  entriesAscend := numbered.entriesAscend
  constraintsAscend :=
    pairwise_append_last numbered.constraintsAscend (next ▸ numbered.constraints)
  apart entry there other registered := by
    rcases List.mem_append.mp registered with before | new
    · exact numbered.apart entry there other before
    · rw [List.mem_singleton.mp new, next]
      exact Nat.ne_of_lt (numbered.entries entry there)

/-- Every change keeps a sketch numbered: what is registered gets an identifier that was not used
before. -/
theorem Numbered.change (numbered : sketch.Numbered) (change : Change scope sketch after) :
    after.Numbered := by
  cases change with
  | @drawn view values fixed slotTag tag => exact { numbered.drawn view tag with }
  | constrained modifiers tag => exact { numbered.constrained rfl with }
  | reserved => exact numbered.mono (Nat.le_succ _) (.refl _) (.refl _)
  | removed => exact numbered.mono (Nat.le_refl _) (.refl _) List.filter_sublist
  | dropped => exact numbered.mono (Nat.le_refl _) List.filter_sublist (.refl _)
  | cleared => exact numbered.mono (Nat.le_refl _) (List.nil_sublist _) (List.nil_sublist _)
  | noted | grown | named | defined | retired | attempted | applied | measured =>
    exact numbered.mono (Nat.le_refl _) (.refl _) (.refl _)

/-- Every sketch that is reached is numbered. -/
theorem Reached.numbered (reached : sketch.Reached scope) : sketch.Numbered :=
  reached.invariant numbered_start Numbered.change

/-- A registered geometry is found under its identifier. -/
theorem Numbered.find?_entry (numbered : sketch.Numbered) {entry : GeometryEntry}
    (there : entry ∈ sketch.table.entries) : sketch.table.find? entry.id = some entry :=
  find?_of_ascending numbered.entriesAscend there

/-- A constraint that is found under an identifier is registered under it. -/
theorem constraint?_eq_some {id : Int} {c : Constraint} (found : sketch.constraint? id = some c) :
    c ∈ sketch.constraints ∧ (c.id : Int) = id := by
  unfold constraint? at found
  have same := List.find?_some found
  exact ⟨List.mem_of_find?_eq_some found, of_decide_eq_true same⟩

/-- A registered constraint is found under its identifier. -/
theorem Numbered.constraint?_id (numbered : sketch.Numbered) {c : Constraint}
    (there : c ∈ sketch.constraints) : sketch.constraint? c.id = some c :=
  find?_of_ascending numbered.constraintsAscend there

/-- No constraint is found under the identifier of a geometry. -/
theorem Numbered.constraint?_entry (numbered : sketch.Numbered) {entry : GeometryEntry}
    (there : entry ∈ sketch.table.entries) : sketch.constraint? entry.id = none := by
  unfold constraint?
  rw [List.find?_eq_none]
  intro c registered same
  exact numbered.apart entry there c registered (Int.ofNat.inj (of_decide_eq_true same)).symm

/-- A registered geometry is answered under its identifier. -/
theorem Numbered.outcome_geometry (numbered : sketch.Numbered) {entry : GeometryEntry}
    (there : entry ∈ sketch.table.entries) :
    (Session.geometry (.int entry.id)).outcome sketch = (.ok entry.view, sketch) :=
  Session.outcome_geometry_found (numbered.find?_entry there)

/-- The identifier of a registered geometry names its view. -/
theorem Numbered.resolveView_entry (numbered : sketch.Numbered) {entry : GeometryEntry}
    (there : entry ∈ sketch.table.entries) (position : Nat) :
    sketch.resolveView position (.int entry.id) = .ok entry.view := by
  have below := numbered.entries entry there
  unfold resolveView resolveObject
  dsimp only
  rw [if_neg (by omega), numbered.constraint?_entry there, numbered.find?_entry there]
  rfl

end Sketch

end Drafting
