import Drafting.Proofs.Likeness
import Drafting.Proofs.Rebinding
import Drafting.Sketch.Request

/-!
# Sketches that differ by their identifiers

One sketch may stand for another one: its identifiers are ahead by a constant, its views are bound
in a store of its own whose generations are ahead as well, and everything else is the same. What is
looked up in both by corresponding references corresponds, or is refused in both for the same sort
of fault.
-/

namespace Drafting

/-- Members in another form, on which a condition holds alike, are kept alike. -/
theorem filter_map_of_same (form : α → β) {condition : α → Bool} {condition' : β → Bool}
    (same : ∀ member, condition' (form member) = condition member) (members : List α) :
    (members.map form).filter condition' = (members.filter condition).map form := by
  rw [List.filter_map]
  exact congrArg _ (List.filter_congr fun member _ => same member)

/-- How a sketch stands for another one: by how much its identifiers and the generations of its
store are ahead, and the identities of the two stores. -/
structure Shift where
  ids : Nat
  generations : Nat
  source : Nat
  target : Nat

namespace Shift

variable (shift : Shift)

/-- The binding that stands for another one. A binding in the store that stands for the other is
moved out of the way, so that different bindings stay different. -/
def binding (b : Binding) : Binding :=
  if b.store = shift.source then ⟨shift.target, b.generation + shift.generations⟩
  else if b.store = shift.target then ⟨shift.source, b.generation⟩
  else b

/-- Different bindings stay different. -/
theorem binding_injective : Function.Injective shift.binding := by
  rintro ⟨store, generation⟩ ⟨store', generation'⟩ same
  unfold binding at same
  dsimp only at same
  split at same <;> split at same
  all_goals
    simp only [Binding.mk.injEq] at same ⊢
    grind

/-- The view that stands for another one. -/
def view : View → View := .rebound shift.binding

/-- The operand that stands for another one. -/
def operand : Operand → Operand := .rebound shift.binding

/-- The store that stands for another one. -/
def store (store : Store) : Store :=
  ⟨shift.target, store.slots, store.generation + shift.generations⟩

/-- The registered geometry that stands for another one. -/
def entry (entry : GeometryEntry) : GeometryEntry :=
  ⟨entry.id + shift.ids, shift.view entry.view, entry.tag⟩

/-- The table of geometry that stands for another one. -/
def table (table : GeometryTable) : GeometryTable where
  entries := table.entries.map shift.entry
  owners := table.owners.map fun (slot, owner) => (slot, owner + shift.ids)
  nextId := table.nextId + shift.ids

/-- The constraint that stands for another one. -/
def constraint (c : Constraint) : Constraint :=
  { c with id := c.id + shift.ids, operands := c.operands.map shift.operand }

/-- Identifiers that stand for other ones. -/
def list (ids : List Nat) : List Nat := ids.map (· + shift.ids)

/-- The diagnosis that stands for another one: the tags are the same. -/
def diagnosis (d : Diagnosis) : Diagnosis :=
  { d with
    groups := d.groups.map shift.list
    conflictingIds := shift.list d.conflictingIds
    redundantIds := shift.list d.redundantIds
    partialIds := shift.list d.partialIds }

/-- The outcome of a solve that stands for another one. -/
def attempt (a : Attempt) : Attempt :=
  { a with
    diagnosis := shift.diagnosis a.diagnosis
    generation := a.generation + shift.generations }

/-- The sketch that stands for another one. -/
def sketch (s : Sketch) : Sketch :=
  { s with
    store := shift.store s.store
    table := shift.table s.table
    constraints := s.constraints.map shift.constraint
    attempt := s.attempt.map shift.attempt }

/-- What a caller gives for a geometry or a point: an identifier, or a view. -/
def reference : Value → Value
  | .view v => .view (shift.view v)
  | value =>
    match value.integerKey? with
    | some id => .int (id + shift.ids)
    | none => value

/-- What a caller gives for a geometry as an operand. Only an integer is an identifier there. -/
def geometric : Value → Value
  | .int id => .int (id + shift.ids)
  | .view v => .view (shift.view v)
  | value => value

/-- What a caller gives for a scalar: only a property names a geometry. -/
def bareScalar : Value → Value
  | .property geometry name => .property (shift.geometric geometry) name
  | value => value

/-- What a caller gives for a scalar as an operand, wrapped or not. -/
def scalar : Value → Value
  | .literal value => .literal (shift.bareScalar value)
  | value => shift.bareScalar value

/-- What a caller gives as an operand for a place. -/
def offered (slot : SlotKind) (value : Value) : Value :=
  if slot = .scalar then shift.scalar value else shift.geometric value

/-- What a caller gives as operands for some places. -/
def operands : List SlotKind → List Value → List Value
  | slot :: slots, value :: rest => shift.offered slot value :: operands slots rest
  | _, rest => rest

/-- What a caller gives as operands of a kind, by the places that the kind has in a catalog. -/
def given (kinds : Catalog) (kind : Value) (values : List Value) : List Value :=
  match kinds.lookup kind with
  | .ok spec => shift.operands spec.slots values
  | .error _ => values

/-- A resolved operand that stands for another one. -/
def resolved : Resolved → Resolved
  | .operand operand => .operand (shift.operand operand)
  | .literal x => .literal x

/-- An integer stands for another one if they differ by the shift. -/
theorem cast_add_eq (id : Nat) (key : Int) :
    ((id + shift.ids : Nat) : Int) = key + shift.ids ↔ (id : Int) = key := by
  omega

section Table

variable (T : GeometryTable)

/-- A geometry is found under the identifier that is ahead. -/
theorem find?_table (id : Int) :
    (shift.table T).find? (id + shift.ids) = (T.find? id).map shift.entry := by
  unfold GeometryTable.find? table
  rw [List.find?_map]
  refine congrArg _ (congrArg (List.find? · T.entries) (funext fun entry => ?_))
  exact decide_eq_decide.mpr (shift.cast_add_eq entry.id id)

/-- A slot has an owner under the identifier that is ahead. -/
theorem owner?_table (slot : Int) :
    (shift.table T).owner? slot = (T.owner? slot).map (· + shift.ids) := by
  unfold GeometryTable.owner? table
  rw [List.find?_map, Option.map_map, Option.map_map]
  rfl

/-- A slot is owned by another geometry in both tables or in none. -/
theorem checkUnowned_table (slot : Int) :
    Agree (T.checkUnowned slot) ((shift.table T).checkUnowned slot) := by
  unfold GeometryTable.checkUnowned
  rw [owner?_table]
  cases T.owner? slot with
  | none => rfl
  | some owner =>
    have found := shift.find?_table T owner
    dsimp only [Option.map_some]
    rw [Int.natCast_add, found]
    cases T.find? owner <;> rfl

/-- A value that equals an integer can be looked up. -/
theorem checkKey_of_integerKey? {value : Value} {id : Int} (key : value.integerKey? = some id) :
    value.checkKey = .ok () := by
  cases value <;> first | rfl | cases key

/-- What is looked up by corresponding references corresponds. -/
theorem lookup_table (value : Value) :
    Alike (fun found other => other = found.map shift.entry) (value.lookup T.find?)
      ((shift.reference value).lookup (shift.table T).find?) := by
  have unkeyed (none : value.integerKey? = none) :
      Alike (fun found other => other = found.map shift.entry) (value.lookup T.find?)
        (value.lookup (shift.table T).find?) := by
    unfold Value.lookup
    rw [none]
    exact (Alike.refl value.checkKey).bind_agree fun _ => rfl
  have keyed (id : Int) (key : value.integerKey? = some id) :
      Alike (fun found other => other = found.map shift.entry) (value.lookup T.find?)
        ((Value.int (id + shift.ids)).lookup (shift.table T).find?) := by
    unfold Value.lookup
    rw [checkKey_of_integerKey? key, key]
    exact shift.find?_table T id
  cases value with
  | view v => rfl
  | _ =>
    unfold reference
    dsimp only
    split
    · exact keyed _ ‹_›
    · exact unkeyed ‹_›

/-- A geometry is found by corresponding references. -/
theorem get_table (value : Value) :
    Alike (fun view other => other = shift.view view) (T.get value)
      ((shift.table T).get (shift.reference value)) := by
  unfold GeometryTable.get
  refine (shift.lookup_table T value).bind ?_
  rintro (_ | entry) _ rfl <;> rfl

/-- The next identifier is taken in both tables. -/
theorem reserveId_table : (shift.table T).reserveId =
    (T.reserveId.1 + shift.ids, shift.table T.reserveId.2) :=
  congrArg (fun nextId => ((shift.table T).nextId, { shift.table T with nextId }))
    (Nat.add_right_comm ..)

/-- A geometry is registered in both tables, or refused by both. -/
theorem add_table (view : View) (tag : Value) :
    Alike (fun id other => other = id + shift.ids) (T.add view tag).1
        ((shift.table T).add (shift.view view) tag).1 ∧
      ((shift.table T).add (shift.view view) tag).2 = shift.table (T.add view tag).2 := by
  have checks := Alike.forM_agree (@fun slot => shift.checkUnowned_table T slot) view.ownIndices
  rw [List.map_id'] at checks
  have own : (shift.view view).ownIndices = view.ownIndices := View.ownIndices_rebound view
  have later : T.nextId + 1 + shift.ids = T.nextId + shift.ids + 1 := Nat.add_right_comm ..
  unfold GeometryTable.add
  rw [own]
  revert checks
  cases view.ownIndices.forM T.checkUnowned <;>
    cases view.ownIndices.forM (shift.table T).checkUnowned <;> intro checks
  · exact ⟨checks, rfl⟩
  · exact checks.elim
  · exact checks.elim
  · dsimp only
    cases tag.toInteger with
    | error fault =>
      refine ⟨rfl, ?_⟩
      simp only [GeometryTable.reserveId, table, later]
    | ok number =>
      refine ⟨rfl, ?_⟩
      simp only [GeometryTable.reserveId, GeometryTable.insert, table, own, later, List.map_append,
        List.map_map, List.map_cons, List.map_nil]
      rfl

/-- An identifier is among others if it is so ahead. -/
theorem contains_list (ids : List Nat) (id : Nat) :
    (shift.list ids).contains (id + shift.ids) = ids.contains id := by
  unfold list
  rw [Bool.eq_iff_iff, List.contains_iff_mem, List.contains_iff_mem, List.mem_map]
  constructor
  · rintro ⟨other, there, same⟩
    rwa [← Nat.add_right_cancel same]
  · exact fun there => ⟨id, there, rfl⟩

/-- Corresponding geometries are dropped from both tables. -/
theorem drop_table (removed : List GeometryEntry) :
    (shift.table T).drop (removed.map shift.entry) =
      (shift.list (T.drop removed).1, shift.table (T.drop removed).2) := by
  have ids : (removed.map shift.entry).map (·.id) = shift.list (removed.map (·.id)) := by
    unfold list
    rw [List.map_map, List.map_map]
    rfl
  have freed : (removed.map shift.entry).flatMap (·.view.ownIndices) =
      removed.flatMap (·.view.ownIndices) := by
    rw [List.flatMap_map]
    exact List.flatMap_congr fun entry _ => View.ownIndices_rebound entry.view
  have kept : (T.entries.map shift.entry).filter
      (fun entry => !(shift.list (removed.map (·.id))).contains entry.id) =
        (T.entries.filter fun entry => !(removed.map (·.id)).contains entry.id).map shift.entry :=
    filter_map_of_same shift.entry
      (fun entry => congrArg (!·) (shift.contains_list _ entry.id)) T.entries
  unfold GeometryTable.drop
  rw [ids, freed]
  unfold table
  dsimp only
  rw [kept, List.filter_map]
  rfl

/-- The geometries with a tag are removed from both tables, or the tag is refused by both. -/
theorem removeTag_table (tag : Value) :
    (shift.table T).removeTag tag =
      (T.removeTag tag).map fun result => (shift.list result.1, shift.table result.2) := by
  unfold GeometryTable.removeTag
  have selected : (shift.table T).entries.filterM (fun entry => tag.equalsInteger entry.tag) =
      (T.entries.filterM fun entry => tag.equalsInteger entry.tag).map (List.map shift.entry) :=
    filterM_map (fun _ => rfl) T.entries
  rw [selected]
  cases T.entries.filterM fun entry => tag.equalsInteger entry.tag with
  | error fault => rfl
  | ok removed => exact congrArg Except.ok (shift.drop_table T removed)

end Table

section Store

variable (st : Store)

/-- Both stores are cleared, and the generations stay apart as they are. -/
theorem clear_store : (shift.store st).clear = shift.store st.clear :=
  congrArg (Store.mk shift.target #[]) (Nat.add_right_comm ..)

/-- A slot is pushed in both stores, or refused by both. -/
theorem push_store (value fixed tag : Value) :
    (shift.store st).push value fixed tag =
      (st.push value fixed tag).map fun result => (result.1, shift.store result.2) := by
  unfold Store.push
  cases Store.finiteReal value with
  | error fault => rfl
  | ok x =>
    cases fixed.truth with
    | error fault => rfl
    | ok flag => cases Store.storedTag tag <;> rfl

/-- A block is pushed in both stores, or refused by both. -/
theorem pushAll_store (values : List Value) (fixed tag : Value) :
    (shift.store st).pushAll values fixed tag =
      (st.pushAll values fixed tag).map fun result => (result.1, shift.store result.2) := by
  unfold Store.pushAll
  cases values.mapM Store.finiteReal with
  | error fault => rfl
  | ok reals =>
    cases fixed.truth with
    | error fault => rfl
    | ok flag => cases Store.storedTag tag <;> rfl

/-- Free slots are overwritten in both stores. -/
theorem writeFreeAll_store (pairs : List (Nat × Float)) :
    (shift.store st).writeFreeAll pairs =
      ((st.writeFreeAll pairs).1, shift.store (st.writeFreeAll pairs).2) := by
  induction pairs generalizing st with
  | nil => rfl
  | cons pair rest ih =>
    have first : (shift.store st).writeFree pair.1 pair.2 =
        ((st.writeFree pair.1 pair.2).1, shift.store (st.writeFree pair.1 pair.2).2) := by
      have slots : (shift.store st).slots = st.slots := rfl
      unfold Store.writeFree
      rw [slots]
      cases st.slots[pair.1]? with
      | none => rfl
      | some slot =>
        dsimp only
        by_cases fixed : slot.fixed
        · rw [if_pos fixed, if_pos fixed]
        · rw [if_neg fixed, if_neg fixed]
          rfl
    unfold Store.writeFreeAll
    rw [first]
    dsimp only
    rw [ih]

/-- Values are assigned in both stores, or refused by both. -/
theorem assign_store (slots : List Nat) (values : List Float) :
    (shift.store st).assign slots values =
      (st.assign slots values).map fun result => (result.1, shift.store result.2) := by
  unfold Store.assign
  cases Store.checkRow slots values.length values with
  | error fault => rfl
  | ok _ => exact congrArg Except.ok (shift.writeFreeAll_store st _)

/-- A tag is retired in both stores. -/
theorem retireTag_store (tag : Int) :
    (shift.store st).retireTag tag =
      ((st.retireTag tag).1, shift.store (st.retireTag tag).2) := by
  have slots (hits : List Nat) (st : Store) :
      hits.foldl Store.retireSlot (shift.store st) =
        shift.store (hits.foldl Store.retireSlot st) := by
    induction hits generalizing st with
    | nil => rfl
    | cons hit rest ih => exact ih (st.retireSlot hit)
  exact Prod.ext rfl (slots _ st)

/-- A tag is retired in both stores, or refused by both. -/
theorem retire_store (tag : Value) :
    (shift.store st).retire tag =
      (st.retire tag).map fun result => (result.1, shift.store result.2) := by
  unfold Store.retire
  cases tag.toInteger with
  | error fault => rfl
  | ok number => exact congrArg Except.ok (shift.retireTag_store st number)

/-- A slot is overwritten in both stores, or refused by both. -/
theorem set_store (index value fixed : Value) :
    (shift.store st).set index value fixed =
      ((st.set index value fixed).1, shift.store (st.set index value fixed).2) := by
  have values : (shift.store st).setValue index value =
      (st.setValue index value).map fun result => (result.1, shift.store result.2) := by
    unfold Store.setValue
    have checks : (shift.store st).check index = st.check index := rfl
    rw [checks]
    cases st.check index with
    | error fault => rfl
    | ok place => cases Store.finiteReal value <;> rfl
  unfold Store.set
  rw [values]
  cases st.setValue index value with
  | error fault => rfl
  | ok result => cases fixed.truth <;> rfl

section Views

variable {st} (home : st.identity = shift.source)

include home

/-- What is bound now in one store is so in the other. -/
theorem binding_store : (shift.store st).binding = shift.binding st.binding := by
  unfold binding
  exact (if_pos home).symm

/-- A part is accepted by both stores or by none. -/
theorem checkPart_store (part : View) :
    Agree (st.checkPart part) ((shift.store st).checkPart (shift.view part)) := by
  have bound : (shift.view part).binding = part.binding.map shift.binding :=
    View.binding_rebound part
  unfold Store.checkPart
  rw [bound, shift.binding_store home]
  cases part.binding with
  | none => rfl
  | some binding =>
    dsimp only [Option.map_some]
    by_cases here : binding = st.binding
    · rw [if_pos here, if_pos (congrArg _ here)]
      rfl
    · rw [if_neg here, if_neg fun same => here (shift.binding_injective same)]
      rfl

/-- A view is accepted by both stores or by none. -/
theorem checkView_store (view : View) :
    Alike (fun found other => other = shift.view found) (st.checkView view)
      ((shift.store st).checkView (shift.view view)) := by
  have parts : (shift.view view).parts = view.parts.map shift.view :=
    congrArg _ (View.figure_rebound view ▸ Figure.parts_rebound view.figure)
  have slots : (shift.view view).indices = view.indices := View.indices_rebound view
  unfold Store.checkView
  rw [parts, slots]
  refine (Alike.forM_agree (shift.checkPart_store home) view.parts).bind_agree fun _ => ?_
  exact (Alike.refl (view.indices.forM fun index => discard (st.checkIndex index))).bind_agree
    fun _ => rfl

/-- A figure is bound in both stores or in none. -/
theorem bind_store (figure : Figure) :
    Alike (fun found other => other = shift.view found) (st.bind figure)
      ((shift.store st).bind (figure.rebound shift.binding)) := by
  refine (shift.checkView_store home ⟨figure, none⟩).bind ?_
  rintro ⟨found, -⟩ _ rfl
  rw [shift.binding_store home]
  rfl

end Views

end Store

section Resolving

variable (s : Sketch)

/-- A constraint is found under the identifier that is ahead. -/
theorem constraint?_sketch (id : Int) :
    (shift.sketch s).constraint? (id + shift.ids) = (s.constraint? id).map shift.constraint := by
  unfold Sketch.constraint? sketch
  rw [List.find?_map]
  refine congrArg _ (congrArg (List.find? · s.constraints) (funext fun c => ?_))
  exact decide_eq_decide.mpr (shift.cast_add_eq c.id id)

/-- The geometry that an operand names corresponds. -/
theorem resolveObject_sketch (position : Nat) (value : Value) :
    Alike (fun view other => other = shift.view view) (s.resolveObject position value)
      ((shift.sketch s).resolveObject position (shift.geometric value)) := by
  cases value with
  | int id =>
    have early : ((shift.sketch s).table.nextId : Int) ≤ id + shift.ids ↔
        (s.table.nextId : Int) ≤ id := by
      show ((s.table.nextId + shift.ids : Nat) : Int) ≤ id + shift.ids ↔ _
      omega
    have found : (shift.sketch s).table.find? (id + shift.ids) = _ :=
      shift.find?_table s.table id
    unfold geometric Sketch.resolveObject
    dsimp only
    by_cases late : (s.table.nextId : Int) ≤ id
    · rw [if_pos late, if_pos (early.mpr late)]
      rfl
    rw [if_neg late, if_neg (mt early.mp late), constraint?_sketch, Option.isSome_map]
    by_cases constrains : (s.constraint? id).isSome
    · rw [if_pos constrains, if_pos constrains]
      rfl
    rw [if_neg constrains, if_neg constrains]
    rw [found]
    cases s.table.find? id <;> rfl
  | _ => rfl

/-- A property of corresponding views is the same slot. -/
theorem propertyIndex_view (view : View) (name given : Value) :
    propertyIndex (shift.view view) name given = propertyIndex view name given := by
  have kind : (shift.view view).kind = view.kind := View.kind_rebound view
  have shape : (shift.view view).shape? = view.shape? := View.shape?_rebound view
  have own : (shift.view view).ownIndices = view.ownIndices := View.ownIndices_rebound view
  unfold propertyIndex
  rw [kind, shape, own]

/-- The scalar that a value names is the same slot or the same literal. -/
theorem resolveBareScalar_sketch (position : Nat) (value : Value) :
    Alike (fun found other => other = shift.resolved found) (s.resolveBareScalar position value)
      ((shift.sketch s).resolveBareScalar position (shift.bareScalar value)) := by
  have literal (value : Value) :
      Alike (fun found other => other = shift.resolved found)
        (Sketch.resolveLiteral position value) (Sketch.resolveLiteral position value) := by
    refine (Alike.refl value.toReal).bind_agree fun x => ?_
    by_cases finite : x.isFinite
    · rw [if_pos finite]
      rfl
    · rw [if_neg finite]
      rfl
  have named (name : Value) :
      Alike (fun found other => other = shift.resolved found) (s.resolveName position name)
        ((shift.sketch s).resolveName position name) := by
    cases name with
    | text word =>
      have same : (shift.sketch s).named? word = s.named? word := rfl
      unfold Sketch.resolveName
      dsimp only
      rw [same]
      cases s.named? word <;> rfl
    | _ => exact (Alike.refl (Value.checkKey _)).bind_agree fun _ => rfl
  cases value with
  | bool b => exact literal (.bool b)
  | int n => exact literal (.int n)
  | float x => exact literal (.float x)
  | entry x => exact literal (.entry x)
  | text word => exact named (.text word)
  | parameter name => exact named name
  | property geometry name =>
    refine (shift.resolveObject_sketch s position geometry).bind ?_
    rintro view _ rfl
    rw [propertyIndex_view]
    exact (Alike.refl (propertyIndex view name .none)).bind_agree fun _ => rfl
  | _ => rfl

/-- The scalar that an operand names, wrapped or not, is the same slot or the same literal. -/
theorem resolveScalar_sketch (position : Nat) (value : Value) :
    Alike (fun found other => other = shift.resolved found) (s.resolveScalar position value)
      ((shift.sketch s).resolveScalar position (shift.scalar value)) := by
  have bare := shift.resolveBareScalar_sketch s position value
  cases value with
  | bool b => rfl
  | literal value => exact shift.resolveBareScalar_sketch s position value
  | _ => exact bare

/-- Operands are shifted place by place. -/
theorem zip_operands (slots : List SlotKind) (values : List Value) :
    slots.zip (shift.operands slots values) =
      (slots.zip values).map fun pair => (pair.1, shift.offered pair.1 pair.2) := by
  induction slots generalizing values with
  | nil => rfl
  | cons slot rest ih =>
    cases values with
    | nil => rfl
    | cons value others => exact congrArg _ (ih others)

/-- There are as many operands. -/
theorem length_operands (slots : List SlotKind) (values : List Value) :
    (shift.operands slots values).length = values.length := by
  induction slots generalizing values with
  | nil => rfl
  | cons slot rest ih =>
    cases values with
    | nil => rfl
    | cons value others => exact congrArg (· + 1) (ih others)

variable {s} (home : s.store.identity = shift.source)

include home

/-- The point that a value names corresponds. -/
theorem findPoint_sketch (value : Value) :
    Alike (fun view other => other = shift.view view) (s.findPoint value)
      ((shift.sketch s).findPoint (shift.reference value)) := by
  have registered (value : Value) :
      Alike (fun view other => other = shift.view view) (Sketch.findPoint.registered s value)
        (Sketch.findPoint.registered (shift.sketch s) (shift.reference value)) := by
    refine (shift.get_table s.table value).bind ?_
    rintro view _ rfl
    have kind : (shift.view view).kind = view.kind := View.kind_rebound view
    rw [kind]
    by_cases point : view.kind = .point
    · rw [if_pos point, if_pos point]
      rfl
    · rw [if_neg point, if_neg point]
      rfl
  have found := registered value
  cases value with
  | view view =>
    have kind : (shift.view view).kind = view.kind := View.kind_rebound view
    show Alike _ (if view.kind = .point then _ else _)
      (if (shift.view view).kind = .point then _ else _)
    rw [kind]
    by_cases point : view.kind = .point
    · rw [if_pos point, if_pos point]
      exact shift.checkView_store home view
    · rw [if_neg point, if_neg point]
      exact found
  | _ =>
    revert found
    unfold reference
    dsimp only
    split <;> exact id

/-- The view that an operand names corresponds. -/
theorem resolveView_sketch (position : Nat) (value : Value) :
    Alike (fun view other => other = shift.view view) (s.resolveView position value)
      ((shift.sketch s).resolveView position (shift.geometric value)) := by
  have object := shift.resolveObject_sketch s position value
  cases value with
  | view view => exact shift.checkView_store home view
  | _ => exact object

/-- The geometry for a place that accepts some kinds corresponds. -/
theorem resolveGeometry_sketch (slot : SlotKind) (position : Nat) (value : Value) :
    Alike (fun view other => other = shift.view view) (s.resolveGeometry slot position value)
      ((shift.sketch s).resolveGeometry slot position (shift.geometric value)) := by
  unfold Sketch.resolveGeometry
  refine (shift.resolveView_sketch home position value).bind ?_
  rintro view _ rfl
  have kind : (shift.view view).kind = view.kind := View.kind_rebound view
  rw [kind]
  by_cases accepted : slot.accepted.contains view.kind
  · rw [if_pos accepted, if_pos accepted]
    rfl
  · rw [if_neg accepted, if_neg accepted]
    rfl

/-- The operand for a place corresponds. -/
theorem resolve_sketch (slot : SlotKind) (position : Nat) (value : Value) :
    Alike (fun found other => other = shift.resolved found) (s.resolve slot position value)
      ((shift.sketch s).resolve slot position (shift.offered slot value)) := by
  unfold Sketch.resolve offered
  by_cases scalar : slot = .scalar
  · rw [if_pos scalar, if_pos scalar, if_pos scalar]
    exact shift.resolveScalar_sketch s position value
  · rw [if_neg scalar, if_neg scalar, if_neg scalar]
    refine (shift.resolveGeometry_sketch home slot position value).bind ?_
    rintro view _ rfl
    rfl

/-- The kind and the operands that a request names correspond. -/
theorem resolveRequest_sketch (kind : Value) (values : List Value) :
    Alike (fun found other => other = (found.1, found.2.map shift.resolved))
      (s.resolveRequest kind values)
      ((shift.sketch s).resolveRequest kind (shift.given s.catalog kind values)) := by
  have each (place : (SlotKind × Value) × Nat) :
      Alike (fun found other => other = shift.resolved found)
        (s.resolve place.1.1 place.2 place.1.2)
        ((shift.sketch s).resolve place.1.1 place.2 (shift.offered place.1.1 place.1.2)) :=
    shift.resolve_sketch home place.1.1 place.2 place.1.2
  have all (slots : List SlotKind) : Alike (fun found others => others = found.map shift.resolved)
      (s.resolveAll slots values)
      ((shift.sketch s).resolveAll slots (shift.operands slots values)) := by
    unfold Sketch.resolveAll
    rw [zip_operands, List.zipIdx_map]
    exact Alike.mapM_map each _
  have same : (shift.sketch s).catalog = s.catalog := rfl
  unfold Sketch.resolveRequest given
  rw [same]
  cases s.catalog.lookup kind with
  | error fault => rfl
  | ok spec =>
    dsimp only
    rw [ok_bind, ok_bind, length_operands]
    by_cases fits : values.length ≠ spec.slots.length
    · rw [if_pos fits, if_pos fits]
      rfl
    · rw [if_neg fits, if_neg fits]
      refine (all spec.slots).bind ?_
      rintro found _ rfl
      rfl

end Resolving

end Shift

end Drafting
