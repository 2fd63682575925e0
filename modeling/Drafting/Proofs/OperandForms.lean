import Drafting.Proofs.Belonging
import Drafting.Proofs.Handling
import Drafting.Proofs.Numbering

/-!
# Identifiers and views as operands

A constraint can be given a geometry by its identifier or by its view. Both come to the same, as
long as the store is in the generation in which the view was bound. If its slots are dropped beneath
the geometry, they part: from then on the view is refused, while the identifier still leads to it.
-/

namespace Drafting

namespace Sketch

variable {sketch after : Sketch} {scope : Scope}

/-- No change takes an identifier back. -/
theorem nextId_change (change : Change scope sketch after) :
    sketch.table.nextId ≤ after.table.nextId := by
  cases change with
  | drawn | constrained | reserved => exact Nat.le_succ _
  | _ => exact Nat.le_refl _

/-- A geometry that is registered after a change was so before, in the same generation of a store
that has not shrunk, or it was drawn by it: bound and accepted there, under the next identifier. -/
theorem entry_cases_change (change : Change scope sketch after) {entry : GeometryEntry}
    (there : entry ∈ after.table.entries) :
    after.store.binding = sketch.store.binding ∧ sketch.store.size ≤ after.store.size ∧
      (entry ∈ sketch.table.entries ∨ entry.id = sketch.table.nextId ∧
        entry.view.binding = some after.store.binding ∧
          after.store.checkView entry.view = .ok entry.view) := by
  have append (values : List Float) (fixed : Bool) (tag : Int) :
      sketch.store.size ≤ (sketch.store.append values fixed tag).2.size := by
    rw [Store.size_append]
    exact Nat.le_add_right ..
  cases change with
  | @drawn view values fixed slotTag tag draws =>
    refine ⟨rfl, append .., ?_⟩
    rcases List.mem_append.mp there with before | new
    · exact .inl before
    · rw [List.mem_singleton.mp new]
      refine .inr ⟨rfl, draws.bound, Store.checkView_eq_ok.mpr ⟨fun part among => ?_, ?_, rfl⟩⟩
      · exact Store.checkPart_eq_ok.mpr (draws.belongs_view part among)
      · rw [Store.size_append]
        exact draws.existing
  | grown values fixed tag => exact ⟨rfl, append .., .inl there⟩
  | named value fixed tag => exact ⟨rfl, append .., .inl there⟩
  | constrained modifiers tag => exact ⟨rfl, append .., .inl there⟩
  | dropped => exact ⟨rfl, Nat.le_refl _, .inl (List.mem_of_mem_filter there)⟩
  | cleared => cases there
  | retired tag =>
    exact ⟨Store.binding_retireTag .., Nat.le_of_eq (Store.size_retireTag ..).symm, .inl there⟩
  | applied =>
    exact ⟨Store.binding_writeFreeAll .., Nat.le_of_eq (Store.size_writeFreeAll ..).symm,
      .inl there⟩
  | measured value =>
    refine ⟨rfl, Nat.le_of_eq ?_, .inl there⟩
    rw [Store.size_mark, Store.size_write]
  | noted | reserved | defined | removed | attempted => exact ⟨rfl, Nat.le_refl _, .inl there⟩

/-- The same of an alteration. -/
theorem entry_cases (alteration : Alteration scope sketch after) {entry : GeometryEntry}
    (there : entry ∈ after.table.entries) :
    after.store.binding = sketch.store.binding ∧ sketch.store.size ≤ after.store.size ∧
      (entry ∈ sketch.table.entries ∨ entry.id = sketch.table.nextId ∧
        entry.view.binding = some after.store.binding ∧
          after.store.checkView entry.view = .ok entry.view) := by
  cases alteration with
  | changed change => exact entry_cases_change change there
  | overwritten store size same => exact ⟨same, Nat.le_of_eq size.symm, .inl there⟩

/-- A sketch is numbered, its geometry was bound in its store, in this generation or an earlier one,
and what was bound in this one is accepted. -/
structure Dated (sketch : Sketch) : Prop extends sketch.Numbered where
  bound : ∀ entry ∈ sketch.table.entries, ∃ generation ≤ sketch.store.generation,
    entry.view.binding = some ⟨sketch.store.identity, generation⟩
  accepted : ∀ entry ∈ sketch.table.entries, entry.view.binding = some sketch.store.binding →
    sketch.store.checkView entry.view = .ok entry.view

/-- There is nothing to be dated in a new sketch. -/
theorem dated_start (identity : Nat) (options : SolveOptions) (journal : Journal) :
    (start identity options journal).Dated where
  toNumbered := numbered_start identity options journal
  bound := List.forall_mem_nil _
  accepted := List.forall_mem_nil _

/-- Every alteration keeps a sketch dated. -/
theorem Dated.alteration (dated : sketch.Dated) (alteration : Alteration scope sketch after) :
    after.Dated where
  toNumbered := by
    cases alteration with
    | changed change => exact dated.toNumbered.change change
    | overwritten => exact { dated.toNumbered with }
  bound entry there := by
    obtain ⟨same, -, before | ⟨-, bound, -⟩⟩ := entry_cases alteration there
    · obtain ⟨generation, earlier, bound⟩ := dated.bound entry before
      have store : after.store.identity = sketch.store.identity := congrArg Binding.store same
      have stays : after.store.generation = sketch.store.generation :=
        congrArg Binding.generation same
      exact ⟨generation, stays ▸ earlier, store ▸ bound⟩
    · exact ⟨after.store.generation, Nat.le_refl _, bound⟩
  accepted entry there current := by
    obtain ⟨same, grown, before | ⟨-, -, accepted⟩⟩ := entry_cases alteration there
    · have accepted := dated.accepted entry before (current.trans (congrArg some same))
      obtain ⟨belong, existing, -⟩ := Store.checkView_eq_ok.mp accepted
      exact Store.checkView_eq_ok.mpr
        ⟨fun part among => (Store.checkPart_congr same).mpr (belong part among),
          fun index among => (existing index among).mono grown, rfl⟩
    · exact accepted

/-- Dropping the slots leaves geometry that was bound in an earlier generation. -/
theorem Dated.wiped (dated : sketch.Dated) (journal : Journal) :
    (sketch.wiped.withJournal journal).Dated where
  toNumbered := { dated.toNumbered with }
  bound entry there := by
    obtain ⟨generation, earlier, bound⟩ := dated.bound entry there
    exact ⟨generation, Nat.le_succ_of_le earlier, bound⟩
  accepted entry there current := by
    obtain ⟨generation, earlier, bound⟩ := dated.bound entry there
    have same := congrArg Binding.generation (Option.some.inj (bound.symm.trans current))
    have next : generation = sketch.store.generation + 1 := same
    omega

/-- Whatever is done to a sketch, it stays dated. -/
theorem Dated.handledAll (dated : sketch.Dated) (handlings : List Handling) :
    (sketch.handledAll handlings).Dated :=
  invariant_handledAll Dated.alteration (fun _ _ held journal => held.wiped journal) dated

/-- What is registered while no slots are dropped beneath was bound in the last generation. -/
theorem bound_handledAll {handlings : List Handling} (keeps : .wipe ∉ handlings)
    {entry : GeometryEntry} (there : entry ∈ (sketch.handledAll handlings).table.entries)
    (new : entry ∉ sketch.table.entries) :
    entry.view.binding = some (sketch.handledAll handlings).store.binding := by
  have either : ∀ entry ∈ (sketch.handledAll handlings).table.entries,
      entry ∈ sketch.table.entries ∨
        entry.view.binding = some (sketch.handledAll handlings).store.binding := by
    refine @invariant_handledAll sketch handlings
      (fun now => ∀ entry ∈ now.table.entries,
        entry ∈ sketch.table.entries ∨ entry.view.binding = some now.store.binding)
      (fun held alteration entry there => ?_) (fun wiped => absurd wiped keeps)
      (fun entry there => .inl there)
    obtain ⟨same, -, before | ⟨-, bound, -⟩⟩ := entry_cases alteration there
    · rw [same]
      exact held entry before
    · exact .inr bound
  exact (either entry there).resolve_left new

/-- A geometry that was registered belongs nowhere any more once slots were dropped. -/
theorem Dated.elsewhere (dated : sketch.Dated) {handlings : List Handling}
    (drops : .wipe ∈ handlings ∨ .clear ∈ handlings) {entry : GeometryEntry}
    (there : entry ∈ sketch.table.entries) :
    ¬ entry.view.Belongs (sketch.handledAll handlings).store := by
  intro belongs
  obtain ⟨generation, earlier, bound⟩ := dated.bound entry there
  obtain ⟨begun, binding, count⟩ := sketch.binding_handledAll handlings
  rcases belongs entry.view List.mem_cons_self with bare | here
  · cases bare.symm.trans bound
  · rw [binding, bound] at here
    have same := congrArg Binding.generation (Option.some.inj here)
    dsimp only at same
    obtain ⟨keeps, keeps'⟩ := count.mp (by omega)
    exact drops.elim keeps keeps'

/-- An identifier was given away and names no geometry. -/
structure Forgets (sketch : Sketch) (id : Nat) : Prop where
  given : id < sketch.table.nextId
  gone : ∀ entry ∈ sketch.table.entries, entry.id ≠ id

/-- What is forgotten stays so, since no identifier is given away twice. -/
theorem Forgets.handledAll {id : Nat} (forgets : sketch.Forgets id) (handlings : List Handling) :
    (sketch.handledAll handlings).Forgets id := by
  refine @invariant_handledAll sketch handlings (·.Forgets id) (fun held alteration => ?_)
    (fun _ _ held _ => ⟨held.given, held.gone⟩) forgets
  constructor
  · cases alteration with
    | changed change => exact Nat.lt_of_lt_of_le held.given (nextId_change change)
    | overwritten => exact held.given
  · intro entry there
    obtain ⟨-, -, earlier | ⟨next, -⟩⟩ := entry_cases alteration there
    · exact held.gone entry earlier
    · rw [next]
      exact Nat.ne_of_gt held.given

/-- Identifiers that were given away stay so. -/
theorem given_handledAll {id : Nat} (given : id < sketch.table.nextId)
    (handlings : List Handling) : id < (sketch.handledAll handlings).table.nextId := by
  refine @invariant_handledAll sketch handlings (fun now => id < now.table.nextId) ?_
    (fun _ _ held _ => held) given
  rintro before after held (change | _)
  · exact Nat.lt_of_lt_of_le held (nextId_change change)
  · exact held

/-- Clearing a sketch forgets all identifiers that were given away. -/
theorem forgets_handledAll {id : Nat} (given : id < sketch.table.nextId)
    {handlings : List Handling} (clears : .clear ∈ handlings) :
    (sketch.handledAll handlings).Forgets id := by
  obtain ⟨first, rest, rfl⟩ := List.append_of_mem clears
  have cleared : ((sketch.handledAll first).handled .clear).Forgets id :=
    ⟨given_handledAll given first, List.forall_mem_nil _⟩
  have forgets := cleared.handledAll rest
  unfold handledAll at forgets ⊢
  rw [List.foldl_append]
  exact forgets

/-- What was forgotten is no operand. -/
theorem Forgets.resolve {id : Nat} (forgets : sketch.Forgets id) {slot : SlotKind}
    (geometric : slot ≠ .scalar) (position : Nat) :
    ∃ fault, sketch.resolve slot position (.int id) = .error fault ∧
      fault.category = .unresolvedReference := by
  have gone : sketch.table.find? id = none := by
    unfold GeometryTable.find?
    rw [List.find?_eq_none]
    intro entry there same
    exact forgets.gone entry there (Int.ofNat.inj (of_decide_eq_true same))
  have given := forgets.given
  unfold Sketch.resolve resolveGeometry resolveView resolveObject
  dsimp only
  rw [if_neg geometric, if_neg (by omega), gone]
  split
  · exact ⟨_, rfl, rfl⟩
  · exact ⟨_, rfl, rfl⟩

/-- A kind has no place for a scalar at a position, if it is known. -/
def WantsGeometry (sketch : Sketch) (kind : Value) (position : Nat) : Prop :=
  ∀ spec, sketch.catalog.lookup kind = .ok spec → spec.slots[position]? ≠ some .scalar

/-- Adding a constraint comes to the same with two lists of operands: the same answer or the same
refusal, and the same sketch but for the journal. -/
def AddsAlike (sketch : Sketch) (kind : Value) (operands other : List Value) : Prop :=
  ∀ driving temporary scale tag, ∃ answer left journal journal',
    (Session.addConstraint kind operands driving temporary scale tag).outcome sketch =
        (answer, withJournal left journal) ∧
      (Session.addConstraint kind other driving temporary scale tag).outcome sketch =
        (answer, withJournal left journal')

/-- What is resolved alike is added alike. -/
theorem addsAlike {kind : Value} {operands other : List Value}
    (same : sketch.resolveRequest kind operands = sketch.resolveRequest kind other) :
    sketch.AddsAlike kind operands other := by
  intro driving temporary scale tag
  unfold Session.addConstraint
  rw [Session.outcome_liftM_bind, Session.outcome_liftM_bind]
  cases Modifiers.of driving temporary scale with
  | error fault => exact ⟨.error fault, sketch, sketch.journal, sketch.journal, rfl, rfl⟩
  | ok modifiers =>
    obtain ⟨before, after, level, found⟩ :=
      Session.outcome_constrain kind operands modifiers tag sketch
    obtain ⟨before', after', level', found'⟩ :=
      Session.outcome_constrain kind other modifiers tag sketch
    dsimp only
    rw [found, found', ← same]
    cases named : sketch.resolveRequest kind operands with
    | error fault => exact ⟨.error fault, sketch, after, after', rfl, rfl⟩
    | ok request =>
      obtain ⟨spec, resolved⟩ := request
      obtain ⟨-, -, placed⟩ := resolveRequest_cases named
      obtain ⟨answer, left, last, last', here, there⟩ := Session.outcome_register_congr spec
        modifiers tag sketch (fun x literal => finite_of_mem_literals placed literal)
        (level'.trans level.symm)
      dsimp only
      rw [here, there]
      exact ⟨answer, left, after, after', rfl, rfl⟩

/-- Operands of which one is given in two ways that are resolved alike are resolved alike. -/
theorem resolveRequest_congr {kind value other : Value} {before after : List Value}
    (same : ∀ spec slot, sketch.catalog.lookup kind = .ok spec →
      spec.slots[before.length]? = some slot →
        sketch.resolve slot before.length value = sketch.resolve slot before.length other) :
    sketch.resolveRequest kind (before ++ value :: after) =
      sketch.resolveRequest kind (before ++ other :: after) := by
  rcases sketch.resolveRequest_place_cases kind before after with
    ⟨fault, refused, -⟩ | ⟨spec, slot, known, placed, count⟩
  · rw [refused, refused]
  · rw [resolveRequest_append_cons known (count value) placed,
      resolveRequest_append_cons known (count other) placed, same spec slot known placed]

/-- As long as no slots are dropped beneath a geometry, to give it by its identifier or by its view
comes to the same wherever a constraint wants geometry. Once slots were dropped, directly or because
the sketch was cleared, a view of before is refused. So is an identifier of before, if the sketch
was cleared; if slots were dropped directly, it still leads to the view. -/
theorem operand_forms_agree (identity : Nat) (options : SolveOptions) (journal : Journal)
    (earlier later : List Handling) :
    let before := (start identity options journal).handledAll earlier
    let sketch := before.handledAll later
    (∀ entry ∈ sketch.table.entries, entry ∉ before.table.entries → .wipe ∉ later →
      (Session.geometry (.int entry.id)).outcome sketch = (.ok entry.view, sketch) ∧
        ∀ kind front back, sketch.WantsGeometry kind front.length →
          sketch.AddsAlike kind (front ++ .int entry.id :: back)
            (front ++ .view entry.view :: back)) ∧
      (∀ entry ∈ before.table.entries, .wipe ∈ later ∨ .clear ∈ later → ∀ kind front back,
        sketch.RefusesOperand kind front (.view entry.view) back .indexOutOfRange) ∧
      (∀ entry ∈ before.table.entries, .clear ∈ later → ∀ kind front back,
        sketch.WantsGeometry kind front.length →
          sketch.RefusesOperand kind front (.int entry.id) back .unresolvedReference) ∧
      ∀ entry ∈ sketch.table.entries, ∀ slot ≠ .scalar, entry.view.kind ∈ slot.accepted →
        ∀ position, sketch.resolve slot position (.int entry.id) =
          .ok (.operand (.view entry.view)) := by
  intro before sketch
  have earlierDated : before.Dated := (dated_start identity options journal).handledAll earlier
  have dated : sketch.Dated := earlierDated.handledAll later
  refine ⟨fun entry there new keeps => ⟨?_, fun kind front back wants => ?_⟩,
    fun entry there drops kind front back => ?_, fun entry there clears kind front back wants => ?_,
    fun entry there slot geometric suits position => ?_⟩
  · exact dated.toNumbered.outcome_geometry there
  · have accepted := dated.accepted entry there (bound_handledAll keeps there new)
    refine addsAlike (resolveRequest_congr fun spec slot known placed => ?_)
    have geometric : slot ≠ .scalar := by
      rintro rfl
      exact wants spec known placed
    have named := dated.toNumbered.resolveView_entry there front.length
    have named' : sketch.resolveView front.length (.view entry.view) = .ok entry.view := accepted
    rw [resolve_of_resolveView named geometric, resolve_of_resolveView named' geometric]
  · exact Session.refusesOperand_elsewhere (earlierDated.elsewhere drops there) kind front back
  · refine Session.refusesOperand fun spec slot known placed => ?_
    have geometric : slot ≠ .scalar := by
      rintro rfl
      exact wants spec known placed
    obtain ⟨fault, refused, sort⟩ :=
      (forgets_handledAll (earlierDated.entries entry there) clears).resolve geometric front.length
    exact ⟨fault, refused, fun _ => sort⟩
  · have named := dated.toNumbered.resolveView_entry there position
    exact (resolve_of_resolveView named geometric).trans
      (if_pos (List.contains_iff_mem.mpr suits))

/-- Two points are drawn. -/
def twoPoints : List Handling :=
  [.edit (.ask (.addPoint (.float 0.0) (.float 0.0) (.bool false) (.int 0))),
    .edit (.ask (.addPoint (.float 1.0) (.float 0.0) (.bool false) (.int 0)))]

/-- The first of two points can be given by its identifier or by its view. -/
theorem operand_forms_agree_twoPoints :
    ∃ sketch, (start 0 .standard .silent).handledAll twoPoints = sketch ∧
      sketch.AddsAlike (.text "p2p_coincident") [.int 0, .int 1]
        [.view ⟨.point 0 1, some ⟨0, 0⟩⟩, .int 1] := by
  refine ⟨_, rfl, ?_⟩
  have agree := (operand_forms_agree 0 .standard .silent [] twoPoints).1
  have registered : ((start 0 .standard .silent).handledAll twoPoints).table.entries.map
      (fun entry => (entry.id, entry.view)) =
        [(0, ⟨.point 0 1, some ⟨0, 0⟩⟩), (1, ⟨.point 2 3, some ⟨0, 0⟩⟩)] := by decide +kernel
  obtain ⟨entry, there, same⟩ :
      ∃ entry ∈ ((start 0 .standard .silent).handledAll twoPoints).table.entries,
        (entry.id, entry.view) = (0, ⟨.point 0 1, some ⟨0, 0⟩⟩) := by
    rw [← List.mem_map, registered]
    exact List.mem_cons_self
  obtain ⟨id, view⟩ := Prod.mk.inj same
  have wants : ((start 0 .standard .silent).handledAll twoPoints).WantsGeometry
      (.text "p2p_coincident") 0 := by
    intro spec known
    cases known
    exact nofun
  have keeps : .wipe ∉ twoPoints := by simp [twoPoints]
  have alike := (agree entry there List.not_mem_nil keeps).2 (.text "p2p_coincident") []
    [.int 1] wants
  rw [id, view] at alike
  exact alike

/-- Once the slots are dropped beneath them, the identifier still leads to the point of before. -/
example : ((Session.addConstraint (.text "p2p_coincident") [.int 0, .int 1] (.bool true)
    (.bool false) (.float 1.0) (.int 0)).outcome
      ((start 0 .standard .silent).handledAll (twoPoints ++ [.wipe]))).1.toOption = some 2 := by
  decide +kernel

end Sketch

end Drafting
