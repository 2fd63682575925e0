import Drafting.Proofs.RequestEffects
import Mathlib.Data.List.Induction

/-!
# Identifiers order what is constructed

Geometries and constraints are numbered by one sequence, which nothing sets back: not a refusal, not
a removal, and not clearing. So what is answered for later requests is larger, an identifier that
names nothing any more never will again, and what names something names what a request was answered
for that nothing has removed since.
-/

namespace Drafting

namespace Request

variable {request : Request} {sketch after : Sketch} {id : Nat} {tag : Int}

/-- The identifier that a request answers for what it adds. -/
def issued? (request : Request) (sketch : Sketch) : Option Nat :=
  if request.adds then
    match (request.perform.outcome sketch).1 with
    | .ok (.id id) => some id
    | _ => none
  else none

/-- Whether a request names an integer as the tag of what it adds. -/
def HasTag (request : Request) (tag : Int) : Prop :=
  ∃ value, request.tag? = some value ∧ value.toInteger = .ok tag

/-- A request answers an identifier for a geometry with a tag. -/
def GivesGeometry (id : Nat) (tag : Int) (request : Request) (sketch : Sketch) : Prop :=
  request.draws?.isSome ∧ request.HasTag tag ∧ (request.perform.outcome sketch).1 = .ok (.id id)

/-- A request gives an identifier to a constraint with a tag: the one it answers, or the one after
that which it answers for the geometry that the constraint rules. -/
def GivesConstraint (id : Nat) (tag : Int) (request : Request) (sketch : Sketch) : Prop :=
  request.HasTag tag ∧
    (request.constrains ∧ (request.perform.outcome sketch).1 = .ok (.id id) ∨
      request.rules?.isSome ∧ ∃ geometry, (request.perform.outcome sketch).1 = .ok (.id geometry) ∧
        id = geometry + 1)

/-- The tag that a request names is one integer. -/
theorem HasTag.unique {other : Int} (has : request.HasTag tag) (also : request.HasTag other) :
    tag = other := by
  obtain ⟨value, named, read⟩ := has
  obtain ⟨same, again, other_read⟩ := also
  rw [named] at again
  cases again
  exact Except.ok.inj (read.symm.trans other_read)

/-- What adds a constraint adds. -/
theorem adds_of_constrains (constrains : request.constrains) : request.adds := by
  unfold adds
  rw [constrains, Bool.or_true]

/-- What draws adds no constraint of its own. -/
theorem constrains_of_draws (draws : request.draws?.isSome) : request.constrains = false := by
  cases request with
  | addConstraint => cases draws
  | _ => rfl

/-- Only what draws registers rules. -/
theorem draws_of_rules (rules : request.rules?.isSome) : request.draws?.isSome := by
  cases request <;> first | rfl | cases rules

/-- An identifier that is answered for an addition was the next one, and those after it come
later. -/
theorem issued?_eq_some (ready : sketch.Ready)
    (issued : request.issued? sketch = some id) :
    id = sketch.table.nextId ∧ id < (sketch.after request).table.nextId := by
  have effect := request.effect ready
  unfold issued? at issued
  by_cases adds : request.adds
  · rw [if_pos adds] at issued
    generalize (request.perform.outcome sketch).1 = answer at issued effect
    generalize sketch.after request = after at effect ⊢
    cases effect with
    | idle _ refused =>
      obtain ⟨fault, rfl⟩ := refused adds
      cases issued
    | drawn next _ _ _ _ _ _ _ later =>
      cases issued
      exact ⟨next, by omega⟩
    | constrained _ next _ _ _ _ later =>
      cases issued
      exact ⟨next, by omega⟩
    | dropped others => cases others.symm.trans adds
  · rw [if_neg adds] at issued
    cases issued

/-- No request sets the sequence of identifiers back. -/
theorem nextId_le_after (ready : sketch.Ready) :
    sketch.table.nextId ≤ (sketch.after request).table.nextId := by
  have effect := request.effect ready
  generalize (request.perform.outcome sketch).1 = answer at effect
  generalize sketch.after request = after at effect ⊢
  cases effect with
  | idle idle => exact idle.later
  | drawn next _ _ _ _ _ _ _ later => omega
  | constrained _ next _ _ _ _ later => omega
  | dropped _ _ _ later => exact Nat.le_of_eq later.symm

/-- Of the members with an identifier and a tag those stay whose tag is not dropped. -/
theorem exists_mem_dropped {α : Type} {members : List α} {idOf : α → Nat} {tagOf : α → Int}
    {drops : Int → Bool} :
    (∃ member ∈ members.filter fun member => !drops (tagOf member),
        idOf member = id ∧ tagOf member = tag) ↔
      (∃ member ∈ members, idOf member = id ∧ tagOf member = tag) ∧ drops tag = false := by
  constructor
  · rintro ⟨member, there, rfl, rfl⟩
    obtain ⟨before, stays⟩ := List.mem_filter.mp there
    exact ⟨⟨member, before, rfl, rfl⟩, by simpa using stays⟩
  · rintro ⟨⟨member, before, rfl, rfl⟩, stays⟩
    exact ⟨member, List.mem_filter.mpr ⟨before, by simpa using stays⟩, rfl, rfl⟩

/-- After a request a geometry with an identifier and a tag is registered if the request gave it or
did not remove it. -/
theorem entry_after_iff (ready : sketch.Ready) :
    (∃ entry ∈ (sketch.after request).table.entries, entry.id = id ∧ entry.tag = tag) ↔
      request.GivesGeometry id tag sketch ∨
        (∃ entry ∈ sketch.table.entries, entry.id = id ∧ entry.tag = tag) ∧
          request.removesGeometry tag = false := by
  have effect := request.effect ready
  unfold GivesGeometry
  generalize (request.perform.outcome sketch).1 = answer at effect ⊢
  generalize sketch.after request = after at effect ⊢
  cases effect with
  | idle idle refused keeps =>
    rw [idle.entries]
    constructor
    · exact fun there => .inr ⟨there, removesGeometry_of_keeps (keeps tag)⟩
    · rintro (⟨draws, -, answered⟩ | ⟨there, -⟩)
      · obtain ⟨fault, rfl⟩ := refused (adds_of_draws draws)
        cases answered
      · exact there
  | @drawn _ new _ _ _ drawn _ _ tagged read entries =>
    have has : request.HasTag new.tag := ⟨_, tagged, read⟩
    have draws : request.draws?.isSome := Option.isSome_of_eq_some drawn
    rw [entries]
    constructor
    · rintro ⟨entry, there, rfl, rfl⟩
      rcases List.mem_append.mp there with before | last
      · have keeps := removesConstraint_of_adds (adds_of_draws draws) entry.tag
        exact .inr ⟨⟨entry, before, rfl, rfl⟩, removesGeometry_of_keeps keeps⟩
      · rw [List.mem_singleton.mp last]
        exact .inl ⟨draws, has, rfl⟩
    · rintro (⟨-, also, answered⟩ | ⟨⟨entry, before, same⟩, -⟩)
      · cases answered
        exact ⟨new, List.mem_append_right _ List.mem_cons_self, rfl, has.unique also⟩
      · exact ⟨entry, List.mem_append_left _ before, same⟩
  | constrained asked _ _ _ entries =>
    rw [entries]
    subst asked
    exact ⟨fun there => .inr ⟨there, rfl⟩, fun either => either.elim (fun given => nomatch given.1)
      (·.1)⟩
  | dropped others entries =>
    rw [entries, exists_mem_dropped, or_iff_right fun gives => by
      cases others.symm.trans (adds_of_draws gives.1)]

/-- After a request a constraint with an identifier and a tag is registered if the request gave it
or did not remove it. -/
theorem constraint_after_iff (ready : sketch.Ready) :
    (∃ c ∈ (sketch.after request).constraints, c.id = id ∧ c.tag = tag) ↔
      request.GivesConstraint id tag sketch ∨
        (∃ c ∈ sketch.constraints, c.id = id ∧ c.tag = tag) ∧
          request.removesConstraint tag = false := by
  have effect := request.effect ready
  have adds_of_gives (gives : request.GivesConstraint id tag sketch) : request.adds := by
    rcases gives.2 with ⟨constrains, -⟩ | ⟨rules, -⟩
    · exact adds_of_constrains constrains
    · exact adds_of_draws (draws_of_rules rules)
  unfold GivesConstraint at adds_of_gives ⊢
  generalize (request.perform.outcome sketch).1 = answer at effect adds_of_gives ⊢
  generalize sketch.after request = after at effect ⊢
  cases effect with
  | idle idle refused keeps =>
    rw [idle.constraints]
    constructor
    · exact fun there => .inr ⟨there, keeps tag⟩
    · rintro (gives | ⟨there, -⟩)
      · obtain ⟨fault, rfl⟩ := refused (adds_of_gives gives)
        rcases gives.2 with ⟨-, answered⟩ | ⟨-, geometry, answered, -⟩ <;> cases answered
      · exact there
  | @drawn _ new companion _ _ drawn _ accompanied tagged read _ constraints =>
    have has : request.HasTag new.tag := ⟨_, tagged, read⟩
    have draws : request.draws?.isSome := Option.isSome_of_eq_some drawn
    rw [constraints]
    constructor
    · rintro ⟨c, there, rfl, rfl⟩
      rcases List.mem_append.mp there with before | last
      · exact .inr ⟨⟨c, before, rfl, rfl⟩, removesConstraint_of_adds (adds_of_draws draws) _⟩
      · obtain ⟨kind, ruled, rules⟩ := rules_of_mem accompanied last
        refine .inl ⟨rules.tag ▸ has, .inr ⟨Option.isSome_of_eq_some ruled, new.id, rfl, rules.id⟩⟩
    · rintro (⟨also, ⟨constrains, -⟩ | ⟨ruled, geometry, answered, rfl⟩⟩ | ⟨⟨c, before, same⟩, -⟩)
      · cases (constrains_of_draws draws).symm.trans constrains
      · cases answered
        obtain ⟨kind, stated⟩ := Option.isSome_iff_exists.mp ruled
        rw [stated] at accompanied
        cases accompanied with
        | some rules =>
          exact ⟨_, List.mem_append_right _ List.mem_cons_self, rules.id,
            rules.tag.trans (has.unique also)⟩
      · exact ⟨c, List.mem_append_left _ before, same⟩
  | @constrained _ new _ _ _ _ _ _ _ _ asked _ _ read _ constraints =>
    have has : request.HasTag new.tag := ⟨_, by rw [asked]; rfl, read⟩
    subst asked
    rw [constraints]
    constructor
    · rintro ⟨c, there, rfl, rfl⟩
      rcases List.mem_append.mp there with before | last
      · exact .inr ⟨⟨c, before, rfl, rfl⟩, rfl⟩
      · rw [List.mem_singleton.mp last]
        exact .inl ⟨has, .inl ⟨rfl, rfl⟩⟩
    · rintro (⟨also, ⟨-, answered⟩ | ⟨impossible, -⟩⟩ | ⟨⟨c, before, same⟩, -⟩)
      · cases answered
        exact ⟨new, List.mem_append_right _ List.mem_cons_self, rfl, has.unique also⟩
      · cases impossible
      · exact ⟨c, List.mem_append_left _ before, same⟩
  | dropped others _ constraints =>
    rw [constraints, exists_mem_dropped, or_iff_right fun gives => by
      cases others.symm.trans (adds_of_gives gives)]

end Request

/-- The identifier that an operand names for a place: of a geometry, or of that of which it names a
property. -/
def SlotKind.reference? (slot : SlotKind) (value : Value) : Option Int :=
  match slot, value with
  | .scalar, .property (.int id) _ | .scalar, .literal (.property (.int id) _) => some id
  | .scalar, _ => none
  | _, .int id => some id
  | _, _ => none

namespace Sketch

variable {first sketch : Sketch} {requests : List Request}

/-- An operand that is resolved names a registered geometry, if it names any. -/
theorem registered_of_reference? {slot : SlotKind} {position : Nat} {value : Value}
    {found : Resolved} {id : Int} (resolved : sketch.resolve slot position value = .ok found)
    (names : slot.reference? value = some id) :
    ∃ entry ∈ sketch.table.entries, (entry.id : Int) = id := by
  have object {view : View} (seen : sketch.resolveObject position (.int id) = .ok view) :
      ∃ entry ∈ sketch.table.entries, (entry.id : Int) = id := by
    obtain ⟨entry, there, same, -⟩ := resolveObject_eq_ok seen
    exact ⟨entry, there, (Value.int.inj same).symm⟩
  unfold resolve at resolved
  by_cases scalar : slot = .scalar
  · subst scalar
    rw [if_pos rfl] at resolved
    unfold SlotKind.reference? at names
    split at names
    · cases names
      obtain ⟨view, seen, -⟩ := bind_eq_ok.mp resolved
      exact object seen
    · cases names
      obtain ⟨view, seen, -⟩ := bind_eq_ok.mp resolved
      exact object seen
    · cases names
    · contradiction
    · cases names
  · rw [if_neg scalar] at resolved
    obtain ⟨view, geometric, -⟩ := bind_eq_ok.mp resolved
    obtain ⟨seen, viewed, -⟩ := bind_eq_ok.mp geometric
    unfold SlotKind.reference? at names
    split at names
    · contradiction
    · contradiction
    · contradiction
    · cases names
      exact object viewed
    · cases names

/-- Every identifier that an answered request for a constraint names is that of a registered
geometry. -/
theorem registered_of_resolveRequest {kind : Value} {operands : List Value} {spec : ConstraintKind}
    {found : List Resolved} (named : sketch.resolveRequest kind operands = .ok (spec, found))
    {slot : SlotKind} {value : Value} (placed : (slot, value) ∈ spec.slots.zip operands) {id : Int}
    (names : slot.reference? value = some id) :
    ∃ entry ∈ sketch.table.entries, (entry.id : Int) = id := by
  obtain ⟨known, -, rest⟩ := bind_eq_ok.mp named
  by_cases count : operands.length ≠ known.slots.length
  · rw [if_pos count] at rest
    cases rest
  · rw [if_neg count] at rest
    obtain ⟨all, resolved, answered⟩ := bind_eq_ok.mp rest
    cases answered
    obtain ⟨position, inside, here⟩ := List.mem_iff_getElem.mp placed
    have numbered : ((slot, value), position) ∈ (spec.slots.zip operands).zipIdx := by
      rw [List.mem_zipIdx_iff_getElem?, List.getElem?_eq_getElem inside, here]
    obtain ⟨item, -, step⟩ := exists_of_mapM resolved numbered
    exact registered_of_reference? step names

/-- The identifiers that requests answer for what they add, in order. -/
def issued (sketch : Sketch) : List Request → List Nat
  | [] => []
  | request :: rest => (request.issued? sketch).toList ++ (sketch.after request).issued rest

/-- Identifiers that are issued ascend from the next one on. -/
theorem issued_ascending (ready : sketch.Ready) :
    (∀ id ∈ sketch.issued requests, sketch.table.nextId ≤ id) ∧
      (sketch.issued requests).Pairwise (· < ·) := by
  induction requests generalizing sketch with
  | nil => exact ⟨List.forall_mem_nil _, .nil⟩
  | cons request rest ih =>
    obtain ⟨later, ascending⟩ := ih (ready.after request)
    have onward := request.nextId_le_after ready
    unfold issued
    cases here : request.issued? sketch with
    | none => exact ⟨fun id there => Nat.le_trans onward (later id there), ascending⟩
    | some id =>
      obtain ⟨rfl, below⟩ := request.issued?_eq_some ready here
      refine ⟨fun other there => ?_, List.pairwise_cons.mpr ⟨fun other there => ?_, ascending⟩⟩
      · rcases List.mem_cons.mp there with rfl | after
        · exact Nat.le_refl _
        · exact Nat.le_trans onward (later other after)
      · exact Nat.lt_of_lt_of_le below (later other there)

/-- One of some requests gave something, and none of those that follow removes what has its tag. -/
def Stands (first : Sketch) (requests : List Request) (gives : Request → Sketch → Prop)
    (removes : Request → Int → Bool) (tag : Int) : Prop :=
  ∃ earlier request later, requests = earlier ++ request :: later ∧
    gives request (first.afterAll earlier) ∧ ∀ last ∈ later, removes last tag = false

/-- What holds after a request if that gave it or did not remove it, holds after some requests if
it was given and stands. -/
theorem Ready.holds_iff_stands {holds : Sketch → Prop} {gives : Request → Sketch → Prop}
    {removes : Request → Int → Bool} {tag : Int} (ready : first.Ready)
    (each : ∀ {sketch : Sketch} {request : Request}, sketch.Ready →
      (holds (sketch.after request) ↔
        gives request sketch ∨ holds sketch ∧ removes request tag = false))
    (begins : ¬holds first) :
    holds (first.afterAll requests) ↔ first.Stands requests gives removes tag := by
  induction requests using List.reverseRecOn with
  | nil =>
    refine iff_of_false begins ?_
    rintro ⟨earlier, request, later, split, -⟩
    simp at split
  | append_singleton requests request ih =>
    rw [show first.afterAll (requests ++ [request]) = (first.afterAll requests).after request from
      List.foldl_append .., each (ready.afterAll requests), ih]
    constructor
    · rintro (given | ⟨⟨earlier, giving, later, rfl, given, kept⟩, keeps⟩)
      · exact ⟨requests, request, [], rfl, given, List.forall_mem_nil _⟩
      · refine ⟨earlier, giving, later ++ [request], by simp, given, fun last there => ?_⟩
        rcases List.mem_append.mp there with between | new
        · exact kept last between
        · rw [List.mem_singleton.mp new]
          exact keeps
    · rintro ⟨earlier, giving, later, split, given, kept⟩
      rcases List.eq_nil_or_concat' later with rfl | ⟨between, last, rfl⟩
      · obtain ⟨rfl, same⟩ := List.append_inj' split rfl
        obtain rfl := List.singleton_inj.mp same
        exact .inl given
      · rw [← List.cons_append, ← List.append_assoc] at split
        obtain ⟨rfl, same⟩ := List.append_inj' split rfl
        obtain rfl := List.singleton_inj.mp same
        refine .inr ⟨⟨earlier, giving, between, rfl, given, fun last there => ?_⟩, ?_⟩
        · exact kept last (List.mem_append_left _ there)
        · exact kept request (List.mem_append_right _ List.mem_cons_self)

/-- What it means that the identifiers of a run order what it constructs, and that none is used
twice. -/
structure OrdersConstruction (first : Sketch) (requests : List Request) : Prop where
  ascending : (first.issued requests).Pairwise (· < ·)
  apart : ∀ entry ∈ (first.afterAll requests).table.entries,
    ∀ c ∈ (first.afterAll requests).constraints, entry.id ≠ c.id
  geometries : ∀ id : Int,
    (∃ view, (Session.geometry (.int id)).outcome (first.afterAll requests) =
        (.ok view, first.afterAll requests)) ↔
      ∃ (n : Nat) (tag : Int), (n : Int) = id ∧
        first.Stands requests (Request.GivesGeometry n tag) Request.removesGeometry tag
  constraints : ∀ id : Int,
    (∃ c, (Session.constraint (.int id)).outcome (first.afterAll requests) =
        (.ok c, first.afterAll requests)) ↔
      ∃ (n : Nat) (tag : Int), (n : Int) = id ∧
        first.Stands requests (Request.GivesConstraint n tag) Request.removesConstraint tag
  entriesAscend : (first.afterAll requests).table.entries.Pairwise (·.id < ·.id)
  constraintsAscend : (first.afterAll requests).constraints.Pairwise (·.id < ·.id)
  references : ∀ earlier kind operands driving temporary scale tag later id,
    requests = earlier ++ .addConstraint kind operands driving temporary scale tag :: later →
    ((Request.addConstraint kind operands driving temporary scale tag).perform.outcome
      (first.afterAll earlier)).1 = .ok (.id id) →
    ∃ spec, (first.afterAll earlier).catalog.lookup kind = .ok spec ∧
      ∀ slot value, (slot, value) ∈ spec.slots.zip operands →
        ∀ other : Int, slot.reference? value = some other →
          other < id ∧
            ∃ entry ∈ (first.afterAll earlier).table.entries, (entry.id : Int) = other

/-- An identifier names a geometry if one is registered under it. -/
theorem outcome_geometry_iff (sketch : Sketch) (id : Int) :
    (∃ view, (Session.geometry (.int id)).outcome sketch = (.ok view, sketch)) ↔
      ∃ entry ∈ sketch.table.entries, (entry.id : Int) = id := by
  have looked : (Session.geometry (.int id)).outcome sketch =
      ((sketch.table.find? id).elim (.error (.missingGeometry (.int id))) (.ok ·.view),
        sketch) := by
    unfold Session.geometry
    rw [Session.outcome_get_bind, Session.outcome_liftM, GeometryTable.get,
      show (Value.int id).lookup sketch.table.find? = .ok (sketch.table.find? id) from rfl]
    cases sketch.table.find? id <;> rfl
  rw [looked]
  constructor
  · rintro ⟨view, answered⟩
    cases found : sketch.table.find? id with
    | none =>
      rw [found] at answered
      cases answered
    | some entry => exact ⟨entry, GeometryTable.find?_eq_some found⟩
  · rintro ⟨entry, there, same⟩
    cases found : sketch.table.find? id with
    | none => exact absurd (decide_eq_true same) (List.find?_eq_none.mp found entry there)
    | some other => exact ⟨other.view, rfl⟩

/-- An identifier names a constraint if one is registered under it. -/
theorem outcome_constraint_iff (sketch : Sketch) (id : Int) :
    (∃ c, (Session.constraint (.int id)).outcome sketch = (.ok c, sketch)) ↔
      ∃ c ∈ sketch.constraints, (c.id : Int) = id := by
  have looked : (Session.constraint (.int id)).outcome sketch =
      ((sketch.constraint? id).elim (.error (.missingConstraint (.int id))) .ok, sketch) := by
    unfold Session.constraint
    rw [Session.outcome_get_bind, Session.outcome_liftM_bind,
      show (Value.int id).lookup sketch.constraint? = .ok (sketch.constraint? id) from rfl]
    dsimp only
    cases sketch.constraint? id <;> rfl
  rw [looked]
  constructor
  · rintro ⟨c, answered⟩
    cases found : sketch.constraint? id with
    | none =>
      rw [found] at answered
      cases answered
    | some c => exact ⟨c, constraint?_eq_some found⟩
  · rintro ⟨c, there, same⟩
    cases found : sketch.constraint? id with
    | none => exact absurd (decide_eq_true same) (List.find?_eq_none.mp found c there)
    | some other => exact ⟨other, rfl⟩

/-- What a request for a constraint refers to by an identifier is registered under a smaller one
than the constraint gets. -/
theorem references_smaller (ready : sketch.Ready) {kind : Value} {operands : List Value}
    {driving temporary scale tag : Value} {id : Nat}
    (answered : ((Request.addConstraint kind operands driving temporary scale tag).perform.outcome
      sketch).1 = .ok (.id id)) :
    ∃ spec, sketch.catalog.lookup kind = .ok spec ∧
      ∀ slot value, (slot, value) ∈ spec.slots.zip operands →
        ∀ other : Int, slot.reference? value = some other →
          other < id ∧ ∃ entry ∈ sketch.table.entries, (entry.id : Int) = other := by
  have effect := @Request.effect_addConstraint sketch kind operands driving temporary scale tag
    ready
  rw [answered] at effect
  generalize sketch.after _ = after at effect
  generalize told : (Except.ok (Answer.id id) : Except Fault Answer) = answer at effect
  cases effect with
  | idle _ refused =>
    obtain ⟨fault, failed⟩ := refused rfl
    cases told.trans failed
  | drawn _ drawn => cases drawn
  | constrained asked next named =>
    cases told
    cases asked
    refine ⟨_, (resolveRequest_cases named).1, fun slot value placed other names => ?_⟩
    obtain ⟨entry, there, same⟩ := registered_of_resolveRequest named placed names
    have below := ready.entries entry there
    exact ⟨by omega, entry, there, same⟩
  | dropped others => cases others

/-- The identifiers of every run order what it constructs: those that are answered for additions
ascend, no geometry ever shares one with a constraint, and an identifier names a geometry or a
constraint exactly if it was given to it and nothing has removed it since. -/
theorem identifiers_order_construction (identity : Nat) (options : SolveOptions)
    (journal : Journal) (requests : List Request) :
    (start identity options journal).OrdersConstruction requests := by
  have begins := ready_start identity options journal
  have ready := begins.afterAll requests
  constructor
  · exact (issued_ascending begins).2
  · exact ready.apart
  · intro id
    rw [outcome_geometry_iff]
    have stands (n : Nat) (tag : Int) := @begins.holds_iff_stands _ requests
      (fun sketch => ∃ entry ∈ sketch.table.entries, entry.id = n ∧ entry.tag = tag)
      (Request.GivesGeometry n tag) Request.removesGeometry tag
      (fun ready => Request.entry_after_iff ready)
      (fun ⟨_, there, _⟩ => nomatch there)
    constructor
    · rintro ⟨entry, there, same⟩
      exact ⟨entry.id, entry.tag, same, (stands _ _).mp ⟨entry, there, rfl, rfl⟩⟩
    · rintro ⟨n, tag, rfl, stand⟩
      obtain ⟨entry, there, rfl, -⟩ := (stands n tag).mpr stand
      exact ⟨entry, there, rfl⟩
  · intro id
    rw [outcome_constraint_iff]
    have stands (n : Nat) (tag : Int) := @begins.holds_iff_stands _ requests
      (fun sketch => ∃ c ∈ sketch.constraints, c.id = n ∧ c.tag = tag)
      (Request.GivesConstraint n tag) Request.removesConstraint tag
      (fun ready => Request.constraint_after_iff ready)
      (fun ⟨_, there, _⟩ => nomatch there)
    constructor
    · rintro ⟨c, there, same⟩
      exact ⟨c.id, c.tag, same, (stands _ _).mp ⟨c, there, rfl, rfl⟩⟩
    · rintro ⟨n, tag, rfl, stand⟩
      obtain ⟨c, there, rfl, -⟩ := (stands n tag).mpr stand
      exact ⟨c, there, rfl⟩
  · exact ready.entriesAscend
  · exact ready.constraintsAscend
  · rintro earlier kind operands driving temporary scale tag later id rfl answered
    exact references_smaller (begins.afterAll earlier) answered

/-- Requests that draw two points under tags of their own and set them apart, refuse a line that
ends nowhere, remove the tag of one point, and draw a third one. -/
def pointRequests : List Request :=
  [.addPoint (.int 0) (.int 0) (.bool false) (.int 0),
    .addPoint (.int 1) (.int 0) (.bool false) (.text "7"),
    .addConstraint (.text "p2p_distance") [.int 0, .int 1, .int 1] (.bool true) (.bool false)
      (.int 1) (.int 0),
    .addLine (.int 0) (.int 9) (.int 0),
    .removeTag (.int 7),
    .addPoint (.int 0) (.int 1) (.bool false) (.int 7)]

/-- In this run the removed point's identifier names nothing, and the last point has a new one. -/
theorem identifiers_order_construction_points :
    (start 0 .standard .silent).issued pointRequests = [0, 1, 2, 3] ∧
      (start 0 .standard .silent).OrdersConstruction pointRequests ∧
      ¬∃ view, (Session.geometry (.int 1)).outcome
        ((start 0 .standard .silent).afterAll pointRequests) =
          (.ok view, (start 0 .standard .silent).afterAll pointRequests) := by
  have missing : ((start 0 .standard .silent).afterAll pointRequests).table.find? 1 = none := by
    decide +kernel
  refine ⟨by decide +kernel, identifiers_order_construction 0 .standard .silent pointRequests, ?_⟩
  rw [outcome_geometry_iff]
  rintro ⟨entry, there, same⟩
  exact List.find?_eq_none.mp missing entry there (decide_eq_true same)

end Sketch

end Drafting
