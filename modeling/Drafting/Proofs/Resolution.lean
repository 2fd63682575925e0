import Drafting.Proofs.AcceptedViews
import Drafting.Sketch.Constraining

/-!
# Resolved operands

An operand that is resolved is a literal, the slot of a named parameter, a property of a registered
geometry, a view that the store accepts, or a registered view. `Resolves` says so once; everything
about constraints that needs to know where their operands come from starts from it.
-/

namespace Drafting

/-- The number that a value stands for, unless it is to be read as a name. -/
def Value.number? : Value → Option Float
  | .bool b => some (if b then 1.0 else 0.0)
  | .int n => (realOfInteger n).toOption
  | .float x | .entry x => some x
  | _ => Option.none

/-- The number that an operand offers as a literal. A truth value is one only if it is wrapped. -/
def Value.literalNumber? : Value → Option Float
  | .bool _ => Option.none
  | .literal value => value.number?
  | value => value.number?

/-- The literal that an operand offers for a place. -/
def offeredLiteral? (slot : SlotKind) (value : Value) : Option Float :=
  if slot = .scalar then value.literalNumber? else none

/-- The literals among the operands for some places, in order. -/
def literalOperands (slots : List SlotKind) (operands : List Value) : List Float :=
  (slots.zip operands).filterMap fun place => offeredLiteral? place.1 place.2

/-- The literal that has no slot yet. -/
def Resolved.literal? : Resolved → Option Float
  | .literal x => some x
  | .operand _ => none

/-- The literals among resolved operands, in order. -/
def literals (resolved : List Resolved) : List Float := resolved.filterMap Resolved.literal?

/-- Where the resolved operand for a place comes from. -/
inductive Sketch.Resolves (sketch : Sketch) (slot : SlotKind) : Value → Resolved → Prop
  | literal {value : Value} {x : Float} (scalar : slot = .scalar)
    (offered : value.literalNumber? = some x) (finite : x.isFinite) :
    Resolves sketch slot value (.literal x)
  | named {value : Value} {name : String} {place : Nat} (scalar : slot = .scalar)
    (bare : value.literalNumber? = none) (defined : sketch.named? name = some place) :
    Resolves sketch slot value (.operand (.scalar place))
  | property {value name : Value} {entry : GeometryEntry} {place : Int} (scalar : slot = .scalar)
    (bare : value.literalNumber? = none) (registered : entry ∈ sketch.table.entries)
    (found : propertyIndex entry.view name .none = .ok place) :
    Resolves sketch slot value (.operand (.scalar place))
  | given {view : View} (geometric : slot ≠ .scalar)
    (accepted : sketch.store.checkView view = .ok view) (suits : view.kind ∈ slot.accepted) :
    Resolves sketch slot (.view view) (.operand (.view view))
  | registered {entry : GeometryEntry} (geometric : slot ≠ .scalar)
    (registered : entry ∈ sketch.table.entries) (suits : entry.view.kind ∈ slot.accepted) :
    Resolves sketch slot (.int entry.id) (.operand (.view entry.view))

/-- Where the resolved operands for some places come from. -/
abbrev Sketch.ResolvesAll (sketch : Sketch) (places : List (SlotKind × Value))
    (found : List Resolved) : Prop :=
  List.Forall₂ (fun place item => sketch.Resolves place.1 place.2 item) places found

/-- A geometry that is found under an identifier is registered under it. -/
theorem GeometryTable.find?_eq_some {table : GeometryTable} {id : Int} {entry : GeometryEntry}
    (found : table.find? id = some entry) : entry ∈ table.entries ∧ (entry.id : Int) = id := by
  unfold GeometryTable.find? at found
  have same := List.find?_some found
  exact ⟨List.mem_of_find?_eq_some found, of_decide_eq_true same⟩

namespace Sketch

variable {sketch : Sketch} {position : Nat} {value : Value}

/-- An identifier that is resolved names a registered geometry. -/
theorem resolveObject_eq_ok {view : View}
    (resolved : sketch.resolveObject position value = .ok view) :
    ∃ entry ∈ sketch.table.entries, value = .int entry.id ∧ entry.view = view := by
  cases value with
  | int id =>
    simp only [resolveObject] at resolved
    by_cases early : (sketch.table.nextId : Int) ≤ id
    · rw [if_pos early] at resolved
      cases resolved
    rw [if_neg early] at resolved
    by_cases taken : (sketch.constraint? id).isSome
    · rw [if_pos taken] at resolved
      cases resolved
    rw [if_neg taken] at resolved
    cases found : sketch.table.find? id with
    | none =>
      rw [found] at resolved
      cases resolved
    | some entry =>
      rw [found] at resolved
      cases resolved
      obtain ⟨registered, rfl⟩ := GeometryTable.find?_eq_some found
      exact ⟨entry, registered, rfl, rfl⟩
  | _ => cases resolved

/-- A view that is resolved is accepted by the store, or registered under an identifier. -/
theorem resolveView_eq_ok {view : View}
    (resolved : sketch.resolveView position value = .ok view) :
    (value = .view view ∧ sketch.store.checkView view = .ok view) ∨
      ∃ entry ∈ sketch.table.entries, value = .int entry.id ∧ entry.view = view := by
  cases value with
  | view given =>
    left
    have checked : sketch.store.checkView given = .ok view := resolved
    obtain ⟨-, -, rest⟩ := bind_eq_ok.mp resolved
    obtain ⟨-, -, same⟩ := bind_eq_ok.mp rest
    cases same
    exact ⟨rfl, checked⟩
  | _ => exact .inr (resolveObject_eq_ok resolved)

/-- A literal that is resolved is the finite number that the value stands for. -/
theorem resolveLiteral_eq_ok {found : Resolved}
    (resolved : resolveLiteral position value = .ok found) :
    ∃ x, value.toReal = .ok x ∧ x.isFinite ∧ found = .literal x := by
  unfold resolveLiteral at resolved
  obtain ⟨x, read, rest⟩ := bind_eq_ok.mp resolved
  by_cases finite : x.isFinite
  · rw [if_pos finite] at rest
    cases rest
    exact ⟨x, read, finite, rfl⟩
  · rw [if_neg finite] at rest
    cases rest

/-- A name that is resolved is the name of a parameter. -/
theorem resolveName_eq_ok {found : Resolved}
    (resolved : sketch.resolveName position value = .ok found) :
    ∃ name place, sketch.named? name = some place ∧ found = .operand (.scalar place) := by
  unfold resolveName at resolved
  split at resolved
  next name =>
    split at resolved
    next place defined =>
      cases resolved
      exact ⟨name, place, defined, rfl⟩
    next => cases resolved
  next =>
    obtain ⟨-, -, refused⟩ := bind_eq_ok.mp resolved
    cases refused

/-- A scalar that is resolved and not wrapped comes from a literal, a name or a property. -/
theorem resolveBareScalar_cases {slot : SlotKind} {found : Resolved} {given : Value}
    (scalar : slot = .scalar) (offers : given.literalNumber? = value.number?)
    (resolved : sketch.resolveBareScalar position value = .ok found) :
    sketch.Resolves slot given found := by
  have literal (read : value.toReal.toOption = value.number?)
      (resolved : resolveLiteral position value = .ok found) :
      sketch.Resolves slot given found := by
    obtain ⟨x, here, finite, rfl⟩ := resolveLiteral_eq_ok resolved
    refine .literal scalar ?_ finite
    rw [offers, ← read, here]
    rfl
  have named {name : Value} (bare : value.number? = none)
      (resolved : sketch.resolveName position name = .ok found) :
      sketch.Resolves slot given found := by
    obtain ⟨name, place, defined, rfl⟩ := resolveName_eq_ok resolved
    exact .named scalar (offers.trans bare) defined
  cases value with
  | bool b => exact literal rfl resolved
  | int n => exact literal rfl resolved
  | float x => exact literal rfl resolved
  | entry x => exact literal rfl resolved
  | text s => exact named rfl (show sketch.resolveName position (.text s) = _ from resolved)
  | parameter name => exact named rfl (show sketch.resolveName position name = _ from resolved)
  | property geometry name =>
    obtain ⟨view, object, rest⟩ := bind_eq_ok.mp resolved
    obtain ⟨place, indexed, answered⟩ := bind_eq_ok.mp rest
    cases answered
    obtain ⟨entry, registered, -, rfl⟩ := resolveObject_eq_ok object
    exact .property scalar offers registered indexed
  | _ => cases resolved

/-- A scalar that is resolved comes from a literal, a name or a property. -/
theorem resolveScalar_cases {slot : SlotKind} {found : Resolved} (scalar : slot = .scalar)
    (resolved : sketch.resolveScalar position value = .ok found) :
    sketch.Resolves slot value found := by
  have bare {value : Value} (offers : value.literalNumber? = value.number?)
      (resolved : sketch.resolveBareScalar position value = .ok found) :
      sketch.Resolves slot value found := resolveBareScalar_cases scalar offers resolved
  cases value with
  | bool b => cases resolved
  | literal value => exact resolveBareScalar_cases scalar rfl resolved
  | _ => exact bare rfl resolved

/-- An operand that is resolved comes from where `Resolves` says. -/
theorem resolve_cases {slot : SlotKind} {found : Resolved}
    (resolved : sketch.resolve slot position value = .ok found) :
    sketch.Resolves slot value found := by
  unfold resolve at resolved
  by_cases scalar : slot = .scalar
  · rw [if_pos scalar] at resolved
    exact resolveScalar_cases scalar resolved
  · rw [if_neg scalar] at resolved
    obtain ⟨view, geometric, answered⟩ := bind_eq_ok.mp resolved
    cases answered
    obtain ⟨seen, viewed, rest⟩ := bind_eq_ok.mp geometric
    by_cases suits : slot.accepted.contains seen.kind
    · rw [if_pos suits] at rest
      cases rest
      have suits := List.contains_iff_mem.mp suits
      rcases resolveView_eq_ok viewed with ⟨rfl, accepted⟩ | ⟨entry, registered, rfl, rfl⟩
      · exact .given scalar accepted suits
      · exact .registered scalar registered suits
    · rw [if_neg suits] at rest
      cases rest

/-- The operands that are resolved for some places, each from where `Resolves` says. -/
theorem resolveAll_cases {slots : List SlotKind} {operands : List Value} {found : List Resolved}
    (resolved : sketch.resolveAll slots operands = .ok found) :
    sketch.ResolvesAll (slots.zip operands) found := by
  have each := mapM_eq_ok.mp resolved
  have placed : List.Forall₂
      (fun (place : (SlotKind × Value) × Nat) found => sketch.Resolves place.1.1 place.1.2 found)
      (slots.zip operands).zipIdx found := each.imp fun _ _ => resolve_cases
  rw [← List.zipIdx_map_fst 0 (slots.zip operands)]
  exact List.forall₂_map_left_iff.mpr placed

/-- A request whose operands are resolved names a known kind and offers an operand for each of its
places. -/
theorem resolveRequest_cases {kind : Value} {operands : List Value} {spec : ConstraintKind}
    {found : List Resolved} (resolved : sketch.resolveRequest kind operands = .ok (spec, found)) :
    sketch.catalog.lookup kind = .ok spec ∧ operands.length = spec.slots.length ∧
      sketch.ResolvesAll (spec.slots.zip operands) found := by
  obtain ⟨named, known, rest⟩ := bind_eq_ok.mp resolved
  by_cases count : operands.length ≠ named.slots.length
  · rw [if_pos count] at rest
    cases rest
  · rw [if_neg count] at rest
    obtain ⟨placed, all, answered⟩ := bind_eq_ok.mp rest
    cases answered
    exact ⟨known, not_not.mp count, resolveAll_cases all⟩

/-- A view that is named is an operand if it is of a kind that suits the place. -/
theorem resolve_of_resolveView {view : View} (named : sketch.resolveView position value = .ok view)
    {slot : SlotKind} (geometric : slot ≠ .scalar) :
    sketch.resolve slot position value =
      if slot.accepted.contains view.kind then .ok (.operand (.view view))
      else .error (.operandOfOtherKind position slot.accepted view.kind) := by
  unfold resolve resolveGeometry
  rw [if_neg geometric, named, ok_bind]
  split <;> rfl

/-- Operands are resolved up to one of them, then this one, then the others. -/
theorem resolveAll_append_cons {slots later : List SlotKind} {slot : SlotKind}
    {before after : List Value} (count : slots.length = before.length) :
    sketch.resolveAll (slots ++ slot :: later) (before ++ value :: after) = (do
      let first ← sketch.resolveAll slots before
      let found ← sketch.resolve slot before.length value
      let others ← ((later.zip after).zipIdx (before.length + 1)).mapM
        fun ((slot, value), position) => sketch.resolve slot position value
      return first ++ found :: others) := by
  unfold resolveAll
  rw [List.zip_append count, List.zip_cons_cons, List.zipIdx_append, List.zipIdx_cons,
    List.mapM_append, List.mapM_cons, List.length_zip, count, Nat.min_self, Nat.zero_add]
  simp only [bind_assoc]
  rfl

/-- The operands of a known kind are resolved up to one of them, then this one, then the others. -/
theorem resolveRequest_append_cons {kind : Value} {spec : ConstraintKind} {slot : SlotKind}
    {before after : List Value} (known : sketch.catalog.lookup kind = .ok spec)
    (count : (before ++ value :: after).length = spec.slots.length)
    (placed : spec.slots[before.length]? = some slot) :
    sketch.resolveRequest kind (before ++ value :: after) = (do
      let first ← sketch.resolveAll (spec.slots.take before.length) before
      let found ← sketch.resolve slot before.length value
      let others ← (((spec.slots.drop (before.length + 1)).zip after).zipIdx
        (before.length + 1)).mapM fun ((slot, value), position) =>
          sketch.resolve slot position value
      return (spec, first ++ found :: others)) := by
  obtain ⟨inside, here⟩ := List.getElem?_eq_some_iff.mp placed
  have split : spec.slots =
      spec.slots.take before.length ++ slot :: spec.slots.drop (before.length + 1) := by
    rw [← here, List.getElem_cons_drop, List.take_append_drop]
  have short : (spec.slots.take before.length).length = before.length := by
    rw [List.length_take]
    omega
  have all := @resolveAll_append_cons sketch value _ (spec.slots.drop (before.length + 1)) slot _
    after short
  rw [← split] at all
  unfold resolveRequest
  rw [known, ok_bind, if_neg (not_not.mpr count), all]
  simp only [bind_assoc]
  rfl

/-- A request of an unknown kind, or with too few or too many operands, is refused whatever its
operands are. In any other request every operand has a place of the kind. -/
theorem resolveRequest_place_cases (sketch : Sketch) (kind : Value) (before after : List Value) :
    (∃ fault, (∀ value, sketch.resolveRequest kind (before ++ value :: after) = .error fault) ∧
      ∀ spec value, sketch.catalog.lookup kind = .ok spec →
        (before ++ value :: after).length ≠ spec.slots.length) ∨
      ∃ spec slot, sketch.catalog.lookup kind = .ok spec ∧
        spec.slots[before.length]? = some slot ∧
        ∀ value : Value, (before ++ value :: after).length = spec.slots.length := by
  have total (value : Value) :
      (before ++ value :: after).length = before.length + (after.length + 1) :=
    List.length_append
  cases known : sketch.catalog.lookup kind with
  | error fault =>
    refine .inl ⟨fault, fun value => ?_, nofun⟩
    unfold resolveRequest
    rw [known]
    rfl
  | ok spec =>
    by_cases count : before.length + (after.length + 1) = spec.slots.length
    · have inside : before.length < spec.slots.length := by omega
      exact .inr ⟨spec, _, rfl, List.getElem?_eq_getElem inside, fun value =>
        (total value).trans count⟩
    · refine .inl ⟨.operandCount kind spec.slots.length (before.length + (after.length + 1)),
        fun value => ?_, fun other value same => ?_⟩
      · unfold resolveRequest
        rw [known, ok_bind, total, if_pos count]
        rfl
      · cases same
        rw [total]
        exact count

end Sketch

/-- A parameter that is found under a name is defined under it. -/
theorem Sketch.mem_names_of_named? {sketch : Sketch} {name : String} {place : Nat}
    (defined : sketch.named? name = some place) : (name, place) ∈ sketch.names :=
  listed_of_lookup defined

/-- A property of a view is a slot of its own block. -/
theorem propertyIndex_mem {view : View} {name given : Value} {place : Int}
    (found : propertyIndex view name given = .ok place) : place ∈ view.ownIndices := by
  obtain ⟨differs, -, rest⟩ := bind_eq_ok.mp found
  cases differs with
  | true => cases rest
  | false =>
    obtain ⟨offset, -, looked⟩ := bind_eq_ok.mp rest
    dsimp only at looked
    cases there : view.ownIndices[offset.toNat]? with
    | none =>
      rw [there] at looked
      cases looked
    | some slot =>
      rw [there] at looked
      cases looked
      exact List.mem_of_getElem? there

/-- The slots of a resolved operand are the slot of a named parameter, or slots of a registered
geometry, or those of a view that was given and accepted. -/
theorem Sketch.Resolves.slots_cases {sketch : Sketch} {slot : SlotKind} {value : Value}
    {operand : Operand} (resolved : sketch.Resolves slot value (.operand operand)) :
    (∃ pair ∈ sketch.names, operand.slots = [(pair.2 : Int)]) ∨
      (∃ entry ∈ sketch.table.entries, ∀ index ∈ operand.slots, index ∈ entry.view.indices) ∨
      ∃ view, value = .view view ∧ sketch.store.checkView view = .ok view ∧
        operand.slots = view.indices := by
  cases resolved with
  | named scalar bare defined => exact .inl ⟨_, mem_names_of_named? defined, rfl⟩
  | property scalar bare registered found =>
    refine .inr (.inl ⟨_, registered, fun index there => ?_⟩)
    rw [List.mem_singleton.mp there]
    exact View.mem_indices_of_mem_ownIndices (propertyIndex_mem found)
  | given geometric accepted => exact .inr (.inr ⟨_, rfl, accepted, rfl⟩)
  | registered geometric registered => exact .inr (.inl ⟨_, registered, fun _ there => there⟩)

/-- Every resolved operand was offered for some place and comes from where `Resolves` says. -/
theorem Sketch.Resolves.of_mem {sketch : Sketch} {slots : List SlotKind} {operands : List Value}
    {found : List Resolved} {item : Resolved}
    (resolved : sketch.ResolvesAll (slots.zip operands) found) (there : item ∈ found) :
    ∃ slot, ∃ value ∈ operands, sketch.Resolves slot value item := by
  obtain ⟨number, inside, rfl⟩ := List.mem_iff_getElem.mp there
  have offered : number < (slots.zip operands).length := by rw [resolved.length_eq]; exact inside
  have resolves := resolved.get offered inside
  exact ⟨_, _, (List.of_mem_zip (List.get_mem _ _)).2, resolves⟩

/-- A resolved operand is a literal if the operand offers one. -/
theorem Sketch.Resolves.literal?_eq {sketch : Sketch} {slot : SlotKind} {value : Value}
    {found : Resolved} (resolved : sketch.Resolves slot value found) :
    found.literal? = offeredLiteral? slot value := by
  unfold offeredLiteral?
  cases resolved with
  | literal scalar offered => rw [if_pos scalar, offered, Resolved.literal?]
  | named scalar bare => rw [if_pos scalar, bare, Resolved.literal?]
  | property scalar bare => rw [if_pos scalar, bare, Resolved.literal?]
  | given geometric => rw [if_neg geometric, Resolved.literal?]
  | registered geometric => rw [if_neg geometric, Resolved.literal?]

/-- The literals among the operands are found among the resolved operands. -/
theorem literals_eq_literalOperands {sketch : Sketch} {slots : List SlotKind}
    {operands : List Value} {found : List Resolved}
    (resolved : sketch.ResolvesAll (slots.zip operands) found) :
    literals found = literalOperands slots operands := by
  unfold literals literalOperands
  generalize slots.zip operands = places at resolved ⊢
  induction resolved with
  | nil => rfl
  | cons first _ ih => rw [List.filterMap_cons, List.filterMap_cons, ih, first.literal?_eq]

/-- Literals that are resolved are finite. -/
theorem finite_of_mem_literals {sketch : Sketch} {places : List (SlotKind × Value)}
    {found : List Resolved} (resolved : sketch.ResolvesAll places found) {x : Float}
    (literal : x ∈ literals found) : x.isFinite := by
  induction resolved with
  | nil => cases literal
  | @cons place item _ _ first _ ih =>
    obtain ⟨slot, value⟩ := place
    obtain ⟨chosen, there, offered⟩ := List.mem_filterMap.mp literal
    rcases List.mem_cons.mp there with rfl | later
    · dsimp only at first
      cases first with
      | literal scalar _ finite =>
        cases offered
        exact finite
      | _ => cases offered
    · exact ih (List.mem_filterMap.mpr ⟨chosen, later, offered⟩)

end Drafting
