import Drafting.Proofs.Kinds
import Drafting.Proofs.Numbering

/-!
# What is registered over a new block is never refused

Every identifier that was handed out lies below the next one, every owned slot exists, and the
built-in kinds are always known. So once a block of slots has been allocated for a figure, nothing
stands in its way any more: no one else can own its slots, its rules are known, and its identifier
is resolved.
-/

namespace Drafting

/-- What is handed out lies below what comes next: identifiers below the next identifier, owned
slots below the next slot. The built-in kinds are known under their names, and no request is refused
for a record that cannot be written. -/
structure Sketch.Ready (sketch : Sketch) : Prop extends sketch.Numbered where
  owners : ∀ pair ∈ sketch.table.owners, InStore sketch.store.size pair.1
  catalog : ∀ kind : BuiltinKind, sketch.catalog.find? kind.name = some kind.toKind
  lenient : sketch.strict = false

namespace Sketch

variable {sketch after : Sketch} {scope : Scope}

/-- A new sketch is ready. -/
theorem ready_start (identity : Nat) (options : SolveOptions) (journal : Journal) :
    (start identity options journal).Ready where
  toNumbered := numbered_start identity options journal
  owners := List.forall_mem_nil _
  catalog := Catalog.find?_builtin
  lenient := rfl

/-- No request is refused for a tag that cannot be written. -/
theorem Ready.tolerates (ready : sketch.Ready) (tag : Value) : sketch.Tolerates tag :=
  .inl ready.lenient

/-- Dropping and growing keep a sketch ready. -/
theorem Ready.mono (ready : sketch.Ready) (later : sketch.table.nextId ≤ after.table.nextId)
    (grown : sketch.store.size ≤ after.store.size)
    (entries : after.table.entries.Sublist sketch.table.entries)
    (constraints : after.constraints.Sublist sketch.constraints)
    (owners : after.table.owners.Sublist sketch.table.owners)
    (catalog : after.catalog = sketch.catalog) (strict : after.strict = sketch.strict) :
    after.Ready where
  toNumbered := ready.toNumbered.mono later entries constraints
  owners pair there := (ready.owners pair (owners.subset there)).mono grown
  catalog kind := catalog ▸ ready.catalog kind
  lenient := strict.trans ready.lenient

/-- Registering a geometry over a new block keeps a sketch ready. -/
theorem Ready.drawn (ready : sketch.Ready) {view : View} {values : List Float}
    (draws : sketch.Draws scope values.length view) (fixed : Bool) (slotTag tag : Int) :
    Ready { sketch with
      store := (sketch.store.append values fixed slotTag).2
      table := sketch.table.reserveId.2.insert sketch.table.nextId view tag } where
  toNumbered := { ready.toNumbered.drawn view tag with }
  owners pair there := by
    rw [Store.size_append]
    rcases List.mem_append.mp there with new | before
    · obtain ⟨index, own, rfl⟩ := List.mem_map.mp new
      exact draws.existing index (View.mem_indices_of_mem_ownIndices own)
    · exact (ready.owners pair before).mono (Nat.le_add_right ..)
  catalog := ready.catalog
  lenient := ready.lenient

/-- Every change keeps a sketch ready. -/
theorem Ready.change (ready : sketch.Ready) (change : Change scope sketch after) :
    after.Ready := by
  cases change with
  | drawn values fixed slotTag tag draws => exact ready.drawn draws fixed slotTag tag
  | constrained modifiers tag =>
    refine ⟨{ ready.toNumbered.constrained rfl with }, fun pair there => ?_, ready.catalog,
      ready.lenient⟩
    refine (ready.owners pair there).mono ?_
    show _ ≤ (sketch.store.append _ true tag).2.size
    rw [Store.size_append]
    exact Nat.le_add_right ..
  | defined build registered =>
    refine ⟨{ ready.toNumbered with }, ready.owners, fun kind => ?_, ready.lenient⟩
    have new := Catalog.find?_of_register registered
    exact Catalog.find?_complete new (ready.catalog kind) build
  | grown values fixed tag | named values fixed tag =>
    refine ready.mono (Nat.le_refl _) ?_ (.refl _) (.refl _) (.refl _) rfl rfl
    rw [Store.size_append]
    exact Nat.le_add_right ..
  | reserved =>
    exact ready.mono (Nat.le_succ _) (Nat.le_refl _) (.refl _) (.refl _) (.refl _) rfl rfl
  | removed =>
    exact ready.mono (Nat.le_refl _) (Nat.le_refl _) (.refl _) List.filter_sublist (.refl _) rfl rfl
  | dropped =>
    exact ready.mono (Nat.le_refl _) (Nat.le_refl _) List.filter_sublist (.refl _)
      List.filter_sublist rfl rfl
  | cleared =>
    exact ⟨ready.toNumbered.mono (Nat.le_refl _) (List.nil_sublist _) (List.nil_sublist _),
      List.forall_mem_nil _, ready.catalog, ready.lenient⟩
  | retired =>
    exact ready.mono (Nat.le_refl _) (Nat.le_of_eq (Store.size_retireTag ..).symm) (.refl _)
      (.refl _) (.refl _) rfl rfl
  | applied =>
    exact ready.mono (Nat.le_refl _) (Nat.le_of_eq (Store.size_writeFreeAll ..).symm) (.refl _)
      (.refl _) (.refl _) rfl rfl
  | measured value =>
    refine ready.mono (Nat.le_refl _) (Nat.le_of_eq ?_) (.refl _) (.refl _) (.refl _) rfl rfl
    rw [Store.size_mark, Store.size_write]
  | noted | attempted =>
    exact ready.mono (Nat.le_refl _) (Nat.le_refl _) (.refl _) (.refl _) (.refl _) rfl rfl

/-- Every sketch that is reached is ready. -/
theorem Reached.ready (reached : sketch.Reached scope) : sketch.Ready :=
  reached.invariant ready_start Ready.change

/-- No one owns a slot that does not exist yet. -/
theorem Ready.unowned (ready : sketch.Ready) {indices : List Int}
    (new : ∀ index ∈ indices, (sketch.store.size : Int) ≤ index) :
    indices.forM sketch.table.checkUnowned = .ok () := by
  refine forM_eq_ok.mpr fun index there => ?_
  have free : sketch.table.owner? index = none := by
    unfold GeometryTable.owner?
    rw [Option.map_eq_none_iff, List.find?_eq_none]
    intro pair owned same
    have existing := (ready.owners pair owned).2
    have beyond := new index there
    rw [of_decide_eq_true same] at existing
    omega
  unfold GeometryTable.checkUnowned
  rw [free]

/-- The sketch with a geometry registered under the next identifier. -/
def withGeometry (sketch : Sketch) (view : View) (tag : Int) : Sketch :=
  { sketch with table := sketch.table.reserveId.2.insert sketch.table.nextId view tag }

/-- The rules of the geometry that was registered last are resolved to its view. -/
theorem Ready.resolveRequest_rules (ready : sketch.Ready) {kind : BuiltinKind} {slot : SlotKind}
    (view : View) (placed : kind.slots = [slot]) (suits : view.kind ∈ slot.accepted) (tag : Int) :
    (sketch.withGeometry view tag).resolveRequest (.text kind.name)
        [.int sketch.table.nextId] =
      .ok (kind.toKind, [.operand (.view view)]) := by
  have geometric : slot ≠ .scalar := by
    rintro rfl
    cases suits
  have known := Catalog.lookup_of_find? (ready.catalog kind)
  have resolved : (sketch.withGeometry view tag).resolve slot 0 (.int sketch.table.nextId) =
      .ok (.operand (.view view)) := by
    have registered : ⟨sketch.table.nextId, view, tag⟩ ∈
        (sketch.withGeometry view tag).table.entries :=
      List.mem_append_right _ (List.mem_singleton_self _)
    have named := (ready.toNumbered.drawn view tag).resolveView_entry registered 0
    exact (resolve_of_resolveView named geometric).trans
      (if_pos (List.contains_iff_mem.mpr suits))
  have all : (sketch.withGeometry view tag).resolveAll [slot] [.int sketch.table.nextId] =
      .ok [.operand (.view view)] :=
    mapM_eq_ok.mpr (.cons resolved .nil)
  unfold resolveRequest
  have counted : ([.int sketch.table.nextId] : List Value).length = kind.toKind.slots.length := by
    rw [show kind.toKind.slots = kind.slots from rfl, placed]
    rfl
  rw [show (sketch.withGeometry view tag).catalog = sketch.catalog from rfl, known, ok_bind,
    if_neg (not_not.mpr counted), show kind.toKind.slots = kind.slots from rfl, placed, all]
  rfl

end Sketch

namespace Session

variable {sketch : Sketch}

/-- A view over a new block is registered under the next identifier. -/
theorem outcome_addView_new (ready : sketch.Ready) (view : View) (store : Store)
    (new : ∀ index ∈ view.ownIndices, (sketch.store.size : Int) ≤ index) (tag : Int) :
    ∃ journal, (addView view (.int tag)).outcome { sketch with store } =
      (.ok sketch.table.nextId,
        (Sketch.withGeometry { sketch with store } view tag).withJournal journal) := by
  rcases outcome_addView_cases view (.int tag) { sketch with store } with
    ⟨fault, owned, -⟩ | ⟨fault, unread, -⟩ | ⟨t, answer, journal, read, registered, -, shown⟩
  · cases (ready.unowned new).symm.trans owned
  · cases unread
  · cases read
    rw [registered, shown .int]
    exact ⟨journal, rfl⟩

/-- A figure over a new block is registered under the next identifier, if it is accepted there. -/
theorem outcome_addFigure_new (ready : sketch.Ready) {figure : Figure} {store : Store}
    (accepted : store.bind figure = .ok ⟨figure, some store.binding⟩)
    (new : ∀ index ∈ figure.ownIndices, (sketch.store.size : Int) ≤ index) (tag : Int) :
    ∃ journal, (addFigure figure (.int tag)).outcome { sketch with store } =
      (.ok sketch.table.nextId,
        (Sketch.withGeometry { sketch with store } ⟨figure, some store.binding⟩ tag).withJournal
          journal) := by
  unfold addFigure Session.bind
  rw [bind_assoc, outcome_get_bind, outcome_liftM_bind, accepted]
  exact outcome_addView_new ready ⟨figure, some store.binding⟩ store new tag

/-- A constraint without literals is registered if its operands are resolved and its kind accepts
them, under a tag that is read and tolerated. -/
theorem outcome_constrain_new {kind : Value} {operands : List Value} {spec : ConstraintKind}
    {resolved : List Resolved} {block : Block} {tag : Value} {number : Int}
    (named : sketch.resolveRequest kind operands = .ok (spec, resolved))
    (bare : literals resolved = [])
    (built : spec.build (placedOperands sketch.store.size resolved) = .ok block)
    (read : tag.toInteger = .ok number) (tolerates : sketch.Tolerates tag)
    (modifiers : Modifiers) :
    ∃ journal, (constrain kind operands modifiers tag).outcome sketch =
      (.ok sketch.table.nextId,
        (sketch.withConstraint spec resolved modifiers number block).withJournal journal) := by
  have answered : ∀ middle, ∃ journal,
      (register spec resolved modifiers tag).outcome (sketch.withJournal middle) =
        (.ok sketch.table.nextId,
          (sketch.withConstraint spec resolved modifiers number block).withJournal journal) := by
    intro middle
    obtain ⟨before, after, found⟩ := @outcome_register (sketch.withJournal middle) resolved
      tag spec modifiers number
      (fun some => absurd bare some) (fun n again => Except.ok.inj (again.symm.trans read))
      (fun x there => by rw [bare] at there; cases there)
    rw [show (sketch.withJournal middle).store = sketch.store from rfl, built, read] at found
    obtain ⟨answer, journal, noted, -, shown⟩ := outcome_noteTag_return .debug .constraints
      before tag after sketch.table.nextId
        ((sketch.withJournal middle).withConstraint spec resolved modifiers number block)
    rw [shown tolerates] at noted
    exact ⟨journal, found.trans noted⟩
  obtain ⟨before, after, -, found⟩ := outcome_constrain kind operands modifiers tag sketch
  obtain ⟨journal, registered⟩ := answered before
  rw [named] at found
  dsimp only at found
  rw [registered] at found
  exact ⟨after, found⟩

/-- A ruled figure over a new block is registered and then constrained, if it is accepted there and
its rules can be stated of it. -/
theorem outcome_addRuled_new (ready : sketch.Ready) {figure : Figure} {store : Store}
    {kind : BuiltinKind} {slot : SlotKind} {relation : Relation}
    (larger : sketch.store.size ≤ store.size)
    (accepted : store.bind figure = .ok ⟨figure, some store.binding⟩)
    (new : ∀ index ∈ figure.ownIndices, (sketch.store.size : Int) ≤ index)
    (placed : kind.slots = [slot]) (suits : figure.kind ∈ slot.accepted)
    (stated : kind.relation? [.view ⟨figure, some store.binding⟩] = some relation) (tag : Int) :
    ∃ journal, (addRuled figure kind.name (.int tag)).outcome { sketch with store } =
      (.ok sketch.table.nextId,
        ((Sketch.withGeometry { sketch with store } ⟨figure, some store.binding⟩
            tag).withConstraint kind.toKind
          [.operand (.view ⟨figure, some store.binding⟩)] .standard tag
            relation.block).withJournal journal) := by
  have grown : Sketch.Ready { sketch with store } :=
    ready.mono (Nat.le_refl _) larger (.refl _) (.refl _) (.refl _) rfl rfl
  obtain ⟨middle, drawn⟩ := outcome_addFigure_new ready accepted new tag
  have named := grown.resolveRequest_rules ⟨figure, some store.binding⟩ placed suits tag
  have built : kind.toKind.build [.view ⟨figure, some store.binding⟩] = .ok relation.block := by
    unfold BuiltinKind.toKind
    dsimp only
    rw [stated]
  obtain ⟨journal, ruled⟩ := @outcome_constrain_new
    ((Sketch.withGeometry { sketch with store } ⟨figure, some store.binding⟩
      tag).withJournal middle) _ _ _ _ _ (.int tag) _ named rfl built rfl .int .standard
  unfold addRuled
  rw [outcome_bind, drawn]
  dsimp only
  rw [outcome_discard_bind, ruled]
  exact ⟨journal, rfl⟩

end Session

end Drafting
