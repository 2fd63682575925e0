import Drafting.Proofs.Privacy
import Drafting.Proofs.Reading

/-!
# Built-in kinds

A session may register kinds of its own, but the name of a built-in kind always means that kind. So
a constraint that is added under such a name states a relation, and its rows depend on the slots of
its operands only.
-/

namespace Drafting

/-- Kinds are given by the name of a built-in one, operands and points in any way. -/
def Scope.builtin : Scope where
  operand _ := True
  kind := byReference.kind
  int _ := trivial
  rules := byReference.rules

/-- Kinds are given by the name of a built-in one, and where a view is given for an operand its
parts are points. -/
def Scope.pointed : Scope where
  operand value := ∀ view, value = .view view → view.Pointed
  kind := byReference.kind
  int _ _ := nofun
  rules := byReference.rules

/-- A request by reference uses built-in kinds only. -/
theorem Request.Within.builtin {request : Request} (within : request.Within .byReference) :
    request.Within .builtin := by
  cases request with
  | addConstraint => exact ⟨within.1, fun _ _ => trivial⟩
  | _ => simp [Within, Scope.builtin]

/-- A constraint states the relation of a built-in kind between its operands, and has a value of
its own only if that kind has a place for one. -/
def Constraint.Relates (c : Constraint) : Prop :=
  ∃ kind : BuiltinKind, ∃ relation, c.kind = kind.name ∧
    kind.relation? c.operands = some relation ∧ c.block = relation.block ∧
    ∀ slot, c.valueSlot = some slot → .scalar ∈ kind.slots

/-- What a built-in kind builds is the block of its relation. -/
theorem BuiltinKind.build_eq_ok {kind : BuiltinKind} {operands : List Operand} {block : Block}
    (built : kind.toKind.build operands = .ok block) :
    ∃ relation, kind.relation? operands = some relation ∧ block = relation.block := by
  unfold toKind at built
  dsimp only at built
  cases stated : kind.relation? operands with
  | none =>
    rw [stated] at built
    cases built
  | some relation =>
    rw [stated] at built
    exact ⟨relation, rfl, (Except.ok.inj built).symm⟩

/-- The block of the relation that a kind states reads the slots of its operands only. -/
theorem BuiltinKind.block_congr {kind : BuiltinKind} {operands : List Operand} {relation : Relation}
    (stated : kind.relation? operands = some relation) {read read' : SlotReader Float}
    (agree : ∀ operand ∈ operands, ∀ slot ∈ operand.slots, read slot = read' slot) :
    relation.block read = relation.block read' := by
  have within : ∀ slot ∈ operands.flatMap Operand.slots, read slot = read' slot := by
    intro slot there
    obtain ⟨operand, given, among⟩ := List.mem_flatMap.mp there
    exact agree operand given slot among
  unfold Relation.block
  rw [Relation.rows_congr within (relation?_subset stated)]

namespace Catalog

variable {catalog : Catalog}

/-- A built-in kind is found under its name. -/
theorem find?_builtin (kind : BuiltinKind) : builtin.find? kind.name = some kind.toKind := by
  cases kind <;> rfl

/-- The name of a kind that is found is looked up as that kind. -/
theorem lookup_of_find? {name : String} {kind : ConstraintKind}
    (known : catalog.find? name = some kind) : catalog.lookup (.text name) = .ok kind := by
  unfold lookup
  dsimp only
  rw [known]

/-- A kind that is requested is new. -/
theorem find?_of_register {name : Value} {slots : List Value} {size : Value}
    {pending : PendingKind} (registered : catalog.register name slots size = .ok pending) :
    catalog.find? pending.name = none := by
  cases name with
  | text s =>
    unfold register at registered
    by_cases empty : s.isEmpty
    · simp only [if_pos empty] at registered
      cases registered
    simp only [if_neg empty] at registered
    by_cases defined : (catalog.find? s).isSome
    · simp only [if_pos defined] at registered
      cases registered
    simp only [if_neg defined] at registered
    obtain ⟨rows, -, rest⟩ := bind_eq_ok.mp registered
    by_cases rowless : rows < 1
    · simp only [if_pos rowless] at rest
      cases rest
    simp only [if_neg rowless] at rest
    obtain ⟨places, -, answered⟩ := bind_eq_ok.mp rest
    cases answered
    simpa using defined
  | _ => cases registered

/-- What is found stays found when a new kind is completed. -/
theorem find?_complete {name : String} {kind : ConstraintKind} {pending : PendingKind}
    (new : catalog.find? pending.name = none) (known : catalog.find? name = some kind)
    (build : List Operand → Except Fault Block) :
    (catalog.complete pending build).find? name = some kind := by
  have absent : ¬ (catalog.find? pending.name).isSome := by simp [new]
  unfold complete define
  rw [if_neg absent]
  unfold find? at known ⊢
  rw [List.find?_append, known]
  rfl

end Catalog

/-- A value that is measured has a place. -/
theorem lastScalarFrom_mem {position place : Nat} {slots : List SlotKind}
    (last : lastScalarFrom position slots = some place) : .scalar ∈ slots := by
  induction slots generalizing position with
  | nil => cases last
  | cons slot rest ih =>
    unfold lastScalarFrom at last
    rw [Option.orElse_eq_orElse, Option.orElse_eq_or, Option.or_eq_some_iff] at last
    rcases last with later | ⟨-, here⟩
    · exact List.mem_cons_of_mem _ (ih later)
    · by_cases scalar : slot = .scalar
      · rw [scalar]
        exact List.mem_cons_self
      · rw [if_neg scalar] at here
        cases here

namespace Sketch

variable {sketch after : Sketch} {scope : Scope}

/-- What is found as a point is one. -/
theorem kind_of_findPoint {value : Value} {view : View}
    (found : sketch.findPoint value = .ok view) : view.kind = .point := by
  have registered (known : findPoint.registered sketch value = .ok view) : view.kind = .point := by
    obtain ⟨there, -, checked⟩ := bind_eq_ok.mp known
    by_cases point : there.kind = .point
    · rw [if_pos point] at checked
      cases checked
      exact point
    · rw [if_neg point] at checked
      cases checked
  cases value with
  | view given =>
    unfold findPoint at found
    dsimp only at found
    by_cases point : given.kind = .point
    · rw [if_pos point] at found
      obtain ⟨-, -, rfl⟩ := Store.checkView_eq_ok.mp found
      exact point
    · rw [if_neg point] at found
      exact registered found
  | _ => exact registered found

/-- The parts of a view that is drawn are points. -/
theorem Draws.pointed {count : Nat} {view : View} (draws : sketch.Draws scope count view) :
    view.Pointed := by
  intro part there
  rcases draws.parts part there with ⟨value, -, found⟩ | ⟨point, -⟩
  · exact kind_of_findPoint found
  · exact point

/-- The built-in kinds are known under their names, every constraint states a relation, and the
parts of every registered geometry are points. -/
structure Stated (sketch : Sketch) : Prop where
  catalog : ∀ kind : BuiltinKind, sketch.catalog.find? kind.name = some kind.toKind
  relates : ∀ c ∈ sketch.constraints, c.Relates
  views : ∀ entry ∈ sketch.table.entries, entry.view.Pointed

/-- The built-in kinds are known under their names, every constraint states a relation, and the
parts of every geometry are points, wherever it stands. -/
structure Standard (sketch : Sketch) : Prop where
  catalog : ∀ kind : BuiltinKind, sketch.catalog.find? kind.name = some kind.toKind
  relates : ∀ c ∈ sketch.constraints, c.Relates
  views : ∀ entry ∈ sketch.table.entries, entry.view.Pointed
  operands : ∀ c ∈ sketch.constraints, ∀ operand ∈ c.operands, operand.Pointed

/-- A sketch that is standard states its constraints. -/
theorem Standard.stated (standard : sketch.Standard) : sketch.Stated :=
  ⟨standard.catalog, standard.relates, standard.views⟩

/-- A new sketch knows the built-in kinds. -/
theorem stated_start (identity : Nat) (options : SolveOptions) (journal : Journal) :
    (start identity options journal).Stated where
  catalog := Catalog.find?_builtin
  relates := List.forall_mem_nil _
  views := List.forall_mem_nil _

/-- A new sketch is standard. -/
theorem standard_start (identity : Nat) (options : SolveOptions) (journal : Journal) :
    (start identity options journal).Standard where
  catalog := Catalog.find?_builtin
  relates := List.forall_mem_nil _
  views := List.forall_mem_nil _
  operands := List.forall_mem_nil _

/-- What changes no kind and adds nothing keeps the constraints of a sketch stated. -/
theorem Stated.mono (stated : sketch.Stated) (catalog : after.catalog = sketch.catalog)
    (entries : after.table.entries.Sublist sketch.table.entries)
    (constraints : after.constraints.Sublist sketch.constraints) : after.Stated where
  catalog kind := catalog ▸ stated.catalog kind
  relates c registered := stated.relates c (constraints.subset registered)
  views entry there := stated.views entry (entries.subset there)

/-- What changes no kind and adds nothing keeps a sketch standard. -/
theorem Standard.mono (standard : sketch.Standard) (catalog : after.catalog = sketch.catalog)
    (entries : after.table.entries.Sublist sketch.table.entries)
    (constraints : after.constraints.Sublist sketch.constraints) : after.Standard where
  catalog kind := catalog ▸ standard.catalog kind
  relates c registered := standard.relates c (constraints.subset registered)
  views entry there := standard.views entry (entries.subset there)
  operands c registered := standard.operands c (constraints.subset registered)

/-- The name of a built-in kind is looked up as that kind. -/
theorem Stated.exists_toKind (stated : sketch.Stated) {kind : Value} {operands : List Value}
    {spec : ConstraintKind} {resolved : List Resolved} (known : Scope.builtin.kind kind)
    (named : sketch.resolveRequest kind operands = .ok (spec, resolved)) :
    ∃ builtin : BuiltinKind, spec = builtin.toKind := by
  obtain ⟨builtin, rfl⟩ := known
  obtain ⟨looked, -, -⟩ := resolveRequest_cases named
  have meant := Catalog.lookup_of_find? (stated.catalog builtin)
  exact ⟨builtin, Except.ok.inj (looked.symm.trans meant)⟩

/-- A constraint that is registered under the name of a built-in kind states a relation. -/
theorem Stated.nextConstraint_relates (stated : sketch.Stated) {kind : Value}
    {operands : List Value} {spec : ConstraintKind} {resolved : List Resolved} {block : Block}
    (known : Scope.builtin.kind kind)
    (named : sketch.resolveRequest kind operands = .ok (spec, resolved))
    (built : spec.build (placedOperands sketch.store.size resolved) = .ok block)
    (modifiers : Modifiers) (tag : Int) :
    (sketch.nextConstraint spec resolved modifiers tag block).Relates := by
  obtain ⟨builtin, rfl⟩ := stated.exists_toKind known named
  obtain ⟨relation, found, same⟩ := BuiltinKind.build_eq_ok built
  refine ⟨builtin, relation, rfl, found, same, fun slot measures => ?_⟩
  obtain ⟨place, last, -⟩ := Option.bind_eq_some_iff.mp measures
  exact lastScalarFrom_mem last

/-- The parts of operands are points if those of the given views are. -/
theorem Stated.placed (stated : sketch.Stated) {kind : Value} {operands : List Value}
    {spec : ConstraintKind} {resolved : List Resolved}
    (offered : ∀ operand ∈ operands, Scope.pointed.operand operand)
    (named : sketch.resolveRequest kind operands = .ok (spec, resolved)) :
    ∀ operand ∈ placedOperands sketch.store.size resolved, operand.Pointed := by
  intro operand given
  rcases mem_placedOperands given with before | ⟨literal, -, rfl⟩
  · obtain ⟨-, -, all⟩ := resolveRequest_cases named
    obtain ⟨place, value, there, resolves⟩ := Resolves.of_mem all before
    cases resolves with
    | named => trivial
    | property => trivial
    | given => exact offered _ there _ rfl
    | registered geometric known => exact stated.views _ known
  · trivial

/-- Every change by built-in kinds keeps the constraints of a sketch stated. -/
theorem Stated.change (stated : sketch.Stated) (change : Change scope sketch after)
    (kinds : ∀ kind, scope.kind kind → Scope.builtin.kind kind) : after.Stated := by
  cases change with
  | drawn values fixed slotTag tag draws =>
    refine ⟨stated.catalog, stated.relates, fun entry there => ?_⟩
    rcases List.mem_append.mp there with before | new
    · exact stated.views entry before
    · rw [List.mem_singleton.mp new]
      exact draws.pointed
  | constrained modifiers tag known _ named built =>
    refine ⟨stated.catalog, fun c registered => ?_, stated.views⟩
    rcases List.mem_append.mp registered with before | last
    · exact stated.relates c before
    · rw [List.mem_singleton.mp last]
      exact stated.nextConstraint_relates (kinds _ known) named built modifiers tag
  | defined build registered =>
    refine ⟨fun kind => ?_, stated.relates, stated.views⟩
    exact Catalog.find?_complete (Catalog.find?_of_register registered) (stated.catalog kind) build
  | removed => exact stated.mono rfl (.refl _) List.filter_sublist
  | dropped => exact stated.mono rfl List.filter_sublist (.refl _)
  | cleared => exact stated.mono rfl (List.nil_sublist _) (List.nil_sublist _)
  | _ => exact stated.mono rfl (.refl _) (.refl _)

/-- Every change by built-in kinds and views of points keeps a sketch standard. -/
theorem Standard.change (standard : sketch.Standard) (change : Change scope sketch after)
    (kinds : ∀ kind, scope.kind kind → Scope.pointed.kind kind)
    (operands : ∀ value, scope.operand value → Scope.pointed.operand value) : after.Standard := by
  have stated := standard.stated.change change kinds
  refine ⟨stated.catalog, stated.relates, stated.views, ?_⟩
  cases change with
  | constrained modifiers tag known offered named =>
    intro c registered
    rcases List.mem_append.mp registered with before | last
    · exact standard.operands c before
    · rw [List.mem_singleton.mp last]
      exact standard.stated.placed (fun value given => operands value (offered value given)) named
  | removed =>
    exact fun c registered => standard.operands c (List.filter_sublist.subset registered)
  | cleared => exact List.forall_mem_nil _
  | _ => exact standard.operands

/-- Slots are apart, literals are private, and constraints relate their operands. -/
structure Orderly (sketch : Sketch) : Prop where
  sound : sketch.Sound
  apart : sketch.Private
  standard : sketch.Standard

/-- Every change by reference keeps a sketch orderly. -/
theorem Orderly.change (orderly : sketch.Orderly) (change : Change .byReference sketch after) :
    after.Orderly where
  sound := orderly.sound.change change
  apart := orderly.apart.change orderly.sound change
  standard := orderly.standard.change change (fun _ known => known)
    fun _ reference view same => absurd same (reference view)

/-- Every sketch that is reached by reference is orderly. -/
theorem Reached.orderly (reached : sketch.Reached .byReference) : sketch.Orderly :=
  reached.invariant (fun _ _ _ => ⟨sound_start .., private_start .., standard_start ..⟩)
    Orderly.change

end Sketch

end Drafting
