import Drafting.Proofs.Readiness
import Drafting.Proofs.MirroredSolves
import Drafting.Proofs.MirroredDrawing

/-!
# A cleared sketch is as good as a new one

Clearing drops everything but the kinds and the options. What is left behind is where the sequence
of identifiers goes on, and how often the store was cleared. So every request afterwards is
answered as a new sketch with the same kinds and the same options answers it, except that
identifiers are larger by the one that came next when the sketch was cleared, or it is refused for
the same sort of fault; and the sketch that is left then is the one that the new sketch becomes,
with its identifiers ahead by as many.
-/

namespace Drafting

namespace Request

/-- A request looks at bindings nowhere: a builder that it registers does not. -/
def Blind : Request → Prop
  | registerKind _ _ _ build => ∀ size, IgnoresBindings (build size)
  | _ => True

/-- A request registers an exact kind, if any: what it builds gives as many rows as it declares. -/
def Exact : Request → Prop
  | registerKind name slots size build => ∀ (catalog : Catalog) pending,
    catalog.register name slots size = .ok pending →
      ConstraintKind.Exact ⟨pending.name, pending.slots, pending.size, build pending.size⟩
  | _ => True

/-- A request goes by the words of no refusal: a backend that it solves with does not. -/
def Impartial : Request → Prop
  | solve backend _ => backend.Impartial
  | _ => True

/-- The request that stands for another one, where some kinds are known. -/
def moved (shift : Shift) (kinds : Catalog) : Request → Request
  | addLine start finish tag => addLine (shift.reference start) (shift.reference finish) tag
  | addCircle center radius fixed tag => addCircle (shift.reference center) radius fixed tag
  | addArc center start finish startAngle endAngle radius fixed tag =>
    addArc (shift.reference center) (shift.reference start) (shift.reference finish) startAngle
      endAngle radius fixed tag
  | addEllipse center focus minorRadius fixed tag =>
    addEllipse (shift.reference center) (shift.reference focus) minorRadius fixed tag
  | addArcOfEllipse center focus start finish startAngle endAngle minorRadius fixed tag =>
    addArcOfEllipse (shift.reference center) (shift.reference focus) (shift.reference start)
      (shift.reference finish) startAngle endAngle minorRadius fixed tag
  | addHyperbola center focus minorRadius fixed tag =>
    addHyperbola (shift.reference center) (shift.reference focus) minorRadius fixed tag
  | addArcOfHyperbola center focus start finish startAngle endAngle minorRadius fixed tag =>
    addArcOfHyperbola (shift.reference center) (shift.reference focus) (shift.reference start)
      (shift.reference finish) startAngle endAngle minorRadius fixed tag
  | addParabola vertex focus tag => addParabola (shift.reference vertex) (shift.reference focus) tag
  | addArcOfParabola vertex focus start finish startAngle endAngle fixed tag =>
    addArcOfParabola (shift.reference vertex) (shift.reference focus) (shift.reference start)
      (shift.reference finish) startAngle endAngle fixed tag
  | geometry id => geometry (shift.reference id)
  | valueOf id name => valueOf (shift.reference id) name
  | pointCoordinates value => pointCoordinates (shift.reference value)
  | addConstraint kind operands driving temporary scale tag =>
    addConstraint kind (shift.given kinds kind operands) driving temporary scale tag
  | request => request

/-- The answer to a request that stands for another answer. What is answered for a parameter is its
slot, which is the same. -/
def answer (shift : Shift) : Request → Answer → Answer
  | addParameter .., answer => answer
  | _, .id id => .id (id + shift.ids)
  | _, .ids ids => .ids (shift.list ids)
  | _, .view view => .view (shift.view view)
  | _, .diagnosis found => .diagnosis (shift.diagnosis found)
  | _, answer => answer

end Request

namespace Catalog

/-- The built-in kinds are impartial. -/
theorem impartial_builtin : builtin.Impartial where
  ignores kind listed := by
    obtain ⟨known, -, rfl⟩ := List.mem_map.mp listed
    exact known.ignoresBindings
  builtin := find?_builtin

variable {catalog : Catalog} {name : Value} {slots : List Value} {size : Value}
  {pending : PendingKind} (registered : catalog.register name slots size = .ok pending)

include registered

/-- A catalog stays impartial with a further kind that does not look at bindings. -/
theorem Impartial.complete (impartial : catalog.Impartial)
    {build : List Operand → Except Fault Block} (ignores : IgnoresBindings build) :
    (catalog.complete pending build).Impartial where
  ignores kind listed := by
    rw [kinds_complete registered] at listed
    rcases List.mem_append.mp listed with before | last
    · exact impartial.ignores kind before
    · rw [List.mem_singleton.mp last]
      exact ignores
  builtin kind := find?_complete (find?_of_register registered) (impartial.builtin kind) build

end Catalog

namespace Shift

variable {shift : Shift} {kinds : Catalog}

open Session

/-- A request that registers no kind is carried out alike, if it is impartial or all kinds are
exact. -/
theorem simulates_perform (impartial : kinds.Impartial) {request : Request}
    (fair : request.Impartial ∨ kinds.Exact)
    (known : ∀ name slots size build, request ≠ .registerKind name slots size build) :
    shift.Simulates kinds (fun answer other => other = request.answer shift answer)
      request.perform (request.moved shift kinds).perform := by
  have ahead {asked : Request} {one other : Session Nat}
      (identified : ∀ id, asked.answer shift (.id id) = .id (id + shift.ids))
      (simulates : shift.Simulates kinds (fun id other => other = id + shift.ids) one other) :
      shift.Simulates kinds (fun answer other => other = asked.answer shift answer)
        (one >>= fun id => pure (.id id)) (other >>= fun id => pure (.id id)) :=
    simulates.map fun id _ same => (congrArg Answer.id same).trans (identified id).symm
  cases request with
  | addParameter name value fixed tag =>
    exact (simulates_addParameter name value fixed tag).map
      fun _ _ same => congrArg Answer.id same.symm
  | parameter name =>
    exact (simulates_parameter name).map fun _ _ same => congrArg Answer.number same.symm
  | addPoint x y fixed tag => exact ahead (fun _ => rfl) (simulates_addPoint x y fixed tag)
  | addLine start finish tag => exact ahead (fun _ => rfl) (simulates_addLine start finish tag)
  | addCircle center radius fixed tag =>
    exact ahead (fun _ => rfl) (simulates_addCircle center radius fixed tag)
  | addArc center start finish startAngle endAngle radius fixed tag =>
    exact ahead (fun _ => rfl) (simulates_addArc impartial center start finish startAngle endAngle
      radius fixed tag)
  | addEllipse center focus minorRadius fixed tag =>
    exact ahead (fun _ => rfl) (simulates_addEllipse center focus minorRadius fixed tag)
  | addArcOfEllipse center focus start finish startAngle endAngle minorRadius fixed tag =>
    exact ahead (fun _ => rfl) (simulates_addArcOfEllipse impartial center focus start finish
      startAngle endAngle minorRadius fixed tag)
  | addHyperbola center focus minorRadius fixed tag =>
    exact ahead (fun _ => rfl) (simulates_addHyperbola center focus minorRadius fixed tag)
  | addArcOfHyperbola center focus start finish startAngle endAngle minorRadius fixed tag =>
    exact ahead (fun _ => rfl) (simulates_addArcOfHyperbola impartial center focus start finish
      startAngle endAngle minorRadius fixed tag)
  | addParabola vertex focus tag =>
    exact ahead (fun _ => rfl) (simulates_addParabola vertex focus tag)
  | addArcOfParabola vertex focus start finish startAngle endAngle fixed tag =>
    exact ahead (fun _ => rfl) (simulates_addArcOfParabola impartial vertex focus start finish
      startAngle endAngle fixed tag)
  | addSpline poles weights knots multiplicities degree periodic start finish fixed tag =>
    exact ahead (fun _ => rfl) (simulates_addSpline impartial poles weights knots multiplicities
      degree periodic start finish fixed tag)
  | geometry id => exact (simulates_geometry id).map fun _ _ same => congrArg Answer.view same
  | valueOf id name =>
    exact (simulates_valueOf id name).map fun _ _ same => congrArg Answer.number same.symm
  | pointCoordinates value =>
    exact (simulates_pointCoordinates value).map
      fun _ _ same => congrArg (fun pair => Answer.coordinates pair.1 pair.2) same.symm
  | addConstraint kind operands driving temporary scale tag =>
    exact ahead (fun _ => rfl) (simulates_addConstraint impartial kind operands driving temporary
      scale tag)
  | registerKind name slots size build => exact absurd rfl (known name slots size build)
  | removeTag tag => exact (simulates_removeTag tag).map fun _ _ same => congrArg Answer.ids same
  | solve backend algorithm =>
    exact (simulates_solve fair algorithm).map fun _ _ same => congrArg Answer.status same.symm
  | apply bestEffort =>
    exact (simulates_apply bestEffort).map fun _ _ same => congrArg Answer.flag same.symm
  | diagnosis =>
    refine .get_bind fun s journal _ => .pure ?_
    show Answer.diagnosis (shift.sketch s).diagnosis = .diagnosis (shift.diagnosis s.diagnosis)
    rw [shift.diagnosis_sketch s]
  | clear => exact simulates_clear.map fun _ _ _ => rfl

/-- A kind is registered in both sketches, or in neither. -/
theorem mirrors_registerKind {s t : Sketch} (mirrors : shift.Mirrors kinds s t) (name : Value)
    (slots : List Value) (size : Value) (build : Nat → List Operand → Except Fault Block) :
    Alike (· = ·) ((registerKind name slots size build).outcome s).1
        ((registerKind name slots size build).outcome t).1 ∧
      shift.Mirrors ((registerKind name slots size build).outcome s).2.catalog
        ((registerKind name slots size build).outcome s).2
        ((registerKind name slots size build).outcome t).2 := by
  have standing := mirrors.standing
  have same : t.catalog = s.catalog := by
    rw [mirrors.same]
    rfl
  unfold registerKind
  rw [outcome_get_bind, outcome_get_bind, outcome_liftM_bind, outcome_liftM_bind, same]
  cases registered : s.catalog.register name slots size with
  | error fault =>
    refine ⟨rfl, ?_⟩
    dsimp only
    rw [standing.known]
    exact mirrors
  | ok pending =>
    dsimp only
    rw [outcome_modify_bind, outcome_modify_bind, same]
    refine simulates_note _ _ ⟨⟨standing.home, rfl, fun all => ?_⟩, mirrors.threshold, ?_⟩
    · refine standing.exact fun kind listed => all kind ?_
      rw [Catalog.kinds_complete registered]
      exact List.mem_append_left _ listed
    have there := mirrors.same
    generalize t.journal = journal at there
    subst there
    rfl

end Shift

namespace Sketch

open Session

variable {sketch : Sketch}

/-- A sketch mirrors itself. -/
theorem mirrors_self (exact : sketch.Exact) :
    Shift.Mirrors ⟨0, 0, sketch.store.identity, sketch.store.identity⟩ sketch.catalog sketch
      ((Shift.sketch ⟨0, 0, sketch.store.identity, sketch.store.identity⟩ sketch).withJournal
        sketch.journal) :=
  ⟨⟨rfl, rfl, exact⟩, rfl, rfl⟩

/-- A request leaves the kinds, or it registers one that is new. -/
theorem catalog_after (impartial : sketch.catalog.Impartial) (exact : sketch.Exact)
    (request : Request) :
    (sketch.after request).catalog = sketch.catalog ∨
      ∃ name slots size build pending, request = .registerKind name slots size build ∧
        sketch.catalog.register name slots size = .ok pending ∧
        (sketch.after request).catalog =
          sketch.catalog.complete pending (build pending.size) := by
  have kept (even : request.Impartial)
      (known : ∀ name slots size build, request ≠ .registerKind name slots size build) :
      (sketch.after request).catalog = sketch.catalog :=
    (Shift.simulates_perform impartial (.inl even) known _ _ (mirrors_self exact)).2.standing.known
  cases request with
  | registerKind name slots size build =>
    have after : sketch.after (.registerKind name slots size build) =
        ((registerKind name slots size build).outcome sketch).2 :=
      congrArg Prod.snd (outcome_bind_pure ..)
    rw [after]
    unfold registerKind
    rw [outcome_get_bind, outcome_liftM_bind]
    cases registered : sketch.catalog.register name slots size with
    | error fault => exact .inl rfl
    | ok pending => exact .inr ⟨name, slots, size, build, pending, rfl, registered, rfl⟩
  | solve backend algorithm =>
    have after : sketch.after (.solve backend algorithm) =
        ((solve backend algorithm).outcome sketch).2 := congrArg Prod.snd (outcome_bind_pure ..)
    obtain ⟨journal, solved⟩ := outcome_solve backend algorithm sketch
    rw [after, solved]
    cases sketch.attemptBy backend algorithm <;> exact .inl rfl
  | _ => exact .inl (kept trivial nofun)

/-- The kinds stay impartial after a request that looks at bindings nowhere, and exact if it
registers no other one. -/
theorem kinds_after (impartial : sketch.catalog.Impartial) (exact : sketch.Exact)
    {request : Request} (blind : request.Blind) :
    (sketch.after request).catalog.Impartial ∧
      (sketch.catalog.Exact → request.Exact → (sketch.after request).catalog.Exact) := by
  rcases catalog_after impartial exact request with
    same | ⟨name, slots, size, build, pending, rfl, registered, grown⟩
  · rw [same]
    exact ⟨impartial, fun all _ => all⟩
  · rw [grown]
    exact ⟨.complete registered impartial (blind pending.size),
      fun all exact => .complete registered all (exact _ _ registered)⟩

/-- The kinds stay impartial after requests that look at bindings nowhere, and exact if these
register no other ones. -/
theorem kinds_afterAll (impartial : sketch.catalog.Impartial) (exact : sketch.Exact)
    {requests : List Request} (blind : ∀ request ∈ requests, request.Blind) :
    (sketch.afterAll requests).catalog.Impartial ∧
      (sketch.catalog.Exact → (∀ request ∈ requests, request.Exact) →
        (sketch.afterAll requests).catalog.Exact) := by
  induction requests generalizing sketch with
  | nil => exact ⟨impartial, fun all _ => all⟩
  | cons request rest ih =>
    obtain ⟨first, all⟩ := kinds_after impartial exact (blind request List.mem_cons_self)
    obtain ⟨last, others⟩ := ih first (exact.after request)
      fun later there => blind later (List.mem_cons_of_mem _ there)
    refine ⟨last, fun known registers => ?_⟩
    exact others (all known (registers request List.mem_cons_self))
      fun later there => registers later (List.mem_cons_of_mem _ there)

/-- The options of a sketch never change. -/
theorem options_afterAll (sketch : Sketch) (requests : List Request) :
    (sketch.afterAll requests).options = sketch.options := by
  have changes := @changes_afterAll .all sketch requests fun request _ => request.within_all
  generalize sketch.afterAll requests = after at changes
  induction changes with
  | refl => rfl
  | tail _ change ih =>
    refine Eq.trans ?_ ih
    cases change <;> rfl

/-- What a sketch answers to requests, one after the other. -/
def answers (sketch : Sketch) : List Request → List (Except Fault Answer)
  | [] => []
  | request :: rest =>
    (request.perform.outcome sketch).1 :: (sketch.after request).answers rest

/-- The requests that stand for others, which are carried out on a sketch one after the other. -/
def movedRequests (shift : Shift) (sketch : Sketch) : List Request → List Request
  | [] => []
  | request :: rest =>
    request.moved shift sketch.catalog :: movedRequests shift (sketch.after request) rest

end Sketch

namespace Shift

variable {shift : Shift} {s t : Sketch}

open Sketch

/-- Sketches that mirror each other answer a request and the one that stands for it alike, and go on
mirroring each other. -/
theorem mirrors_after (mirrors : shift.Mirrors s.catalog s t) (impartial : s.catalog.Impartial)
    {request : Request} (fair : request.Impartial ∨ s.catalog.Exact) :
    Alike (fun answer other => other = request.answer shift answer) (request.perform.outcome s).1
        ((request.moved shift s.catalog).perform.outcome t).1 ∧
      shift.Mirrors (s.after request).catalog (s.after request)
        (t.after (request.moved shift s.catalog)) := by
  have carried
      (known : ∀ name slots size build, request ≠ .registerKind name slots size build) :
      Alike (fun answer other => other = request.answer shift answer)
          (request.perform.outcome s).1 ((request.moved shift s.catalog).perform.outcome t).1 ∧
        shift.Mirrors (s.after request).catalog (s.after request)
          (t.after (request.moved shift s.catalog)) := by
    have simulates := simulates_perform impartial fair known s t mirrors
    have same : (s.after request).catalog = s.catalog := simulates.2.standing.known
    rw [same]
    exact simulates
  cases request with
  | registerKind name slots size build =>
    obtain ⟨alike, after⟩ := mirrors_registerKind mirrors name slots size build
    show Alike _ (Session.outcome (_ >>= fun _ => pure Answer.done) s).1
        (Session.outcome (_ >>= fun _ => pure Answer.done) t).1 ∧
      shift.Mirrors (Session.outcome (_ >>= fun _ => pure Answer.done) s).2.catalog
        (Session.outcome (_ >>= fun _ => pure Answer.done) s).2
        (Session.outcome (_ >>= fun _ => pure Answer.done) t).2
    rw [Session.outcome_bind_pure, Session.outcome_bind_pure]
    exact ⟨alike.bind fun _ _ _ => rfl, after⟩
  | _ => exact carried nofun

/-- Sketches that mirror each other answer requests and those that stand for them alike, call by
call, and mirror each other in the end. -/
theorem mirrors_afterAll (mirrors : shift.Mirrors s.catalog s t) (impartial : s.catalog.Impartial)
    {requests : List Request} (blind : ∀ request ∈ requests, request.Blind)
    (fair : (∀ request ∈ requests, request.Impartial) ∨
      s.catalog.Exact ∧ ∀ request ∈ requests, request.Exact) :
    List.Forall₂ (fun call other =>
        Alike (fun answer answer' => answer' = call.1.answer shift answer) call.2 other)
        (requests.zip (s.answers requests)) (t.answers (movedRequests shift s requests)) ∧
      shift.Mirrors (s.afterAll requests).catalog (s.afterAll requests)
        (t.afterAll (movedRequests shift s requests)) := by
  induction requests generalizing s t with
  | nil => exact ⟨.nil, mirrors⟩
  | cons request rest ih =>
    obtain ⟨kinds, grown⟩ := kinds_after impartial mirrors.standing.exact
      (blind request List.mem_cons_self)
    obtain ⟨alike, after⟩ := mirrors_after mirrors impartial
      (fair.imp (· request List.mem_cons_self) And.left)
    obtain ⟨others, last⟩ := ih after kinds
      (fun later there => blind later (List.mem_cons_of_mem _ there))
      (fair.imp (fun even later there => even later (List.mem_cons_of_mem _ there))
        fun ⟨all, exact⟩ => ⟨grown all (exact request List.mem_cons_self),
          fun later there => exact later (List.mem_cons_of_mem _ there)⟩)
    exact ⟨.cons alike others, last⟩

end Shift

namespace Sketch

/-- How a cleared sketch stands for a new one with a store of its own: its identifiers are ahead by
the next one, and its generations by those it has seen. -/
def ahead (cleared : Sketch) (identity : Nat) : Shift where
  ids := cleared.table.nextId
  generations := cleared.store.generation
  source := identity
  target := cleared.store.identity

/-- A new sketch with a store of its own that knows some kinds already. -/
def startWith (kinds : Catalog) (identity : Nat) (options : SolveOptions) (journal : Journal) :
    Sketch :=
  { start identity options journal with catalog := kinds }

/-- A cleared sketch mirrors a new one with the same options and the same kinds. -/
theorem mirrors_clear {sketch : Sketch} (ready : sketch.Ready) (identity : Nat) {journal : Journal}
    (level : journal.threshold = (sketch.after .clear).journal.threshold) :
    ((sketch.after .clear).ahead identity).Mirrors (sketch.after .clear).catalog
      (startWith (sketch.after .clear).catalog identity sketch.options journal)
      (sketch.after .clear) where
  standing := ⟨rfl, rfl, fun _ => List.forall_mem_nil _⟩
  threshold := level.symm
  same := by
    obtain ⟨last, left⟩ : ∃ last, sketch.after .clear =
        { sketch with
          constraints := [], names := [], table := sketch.table.clear, store := sketch.store.clear
          attempt := none, journal := last } := ⟨_, rfl⟩
    rw [left]
    show Sketch.mk ⟨_, _, _⟩ ⟨_, _, _⟩ _ _ _ _ _ _ _ =
      Sketch.mk ⟨_, _, 0 + sketch.store.clear.generation⟩ ⟨_, _, 0 + sketch.table.nextId⟩
        _ _ _ _ _ _ _
    rw [Nat.zero_add, Nat.zero_add, ready.lenient]
    rfl

/-- A sketch that was cleared answers further requests as a new one with the same options and the
same kinds does, call by call, and becomes the same sketch, except that every identifier is larger
by the one that came next when it was cleared, also in the keys of constraints. Builders do not
look at bindings. The rows of a constraint are refused by its key, with the identifier, where they
are more or fewer than its kind declares: backends do not go by such words, or no kind that is
registered comes to this. -/
theorem cleared_like_new {earlier later moved : List Request} {cleared fresh : Sketch}
    {shift : Shift} {identity identity' : Nat} {options : SolveOptions}
    {journal journal' : Journal}
    (run : (start identity options journal).afterAll (earlier ++ [.clear]) = cleared)
    (new : startWith cleared.catalog identity' options journal' = fresh)
    (stands : cleared.ahead identity' = shift)
    (moves : movedRequests shift fresh later = moved)
    (level : journal'.threshold = cleared.journal.threshold)
    (blind : ∀ request ∈ earlier ++ later, request.Blind)
    (fair : (∀ request ∈ later, request.Impartial) ∨
      ∀ request ∈ earlier ++ later, request.Exact) :
    List.Forall₂ (fun call other =>
        Alike (fun answer answer' => answer' = call.1.answer shift answer) call.2 other)
        (later.zip (fresh.answers later)) (cleared.answers moved) ∧
      (∃ last, cleared.afterAll moved = (shift.sketch (fresh.afterAll later)).withJournal last) ∧
      (cleared.afterAll moved).constraints.map Constraint.key =
        (fresh.afterAll later).constraints.map fun c =>
          constraintKey c.kind (c.id + cleared.table.nextId) c.operands := by
  have reached : ((start identity options journal).afterAll earlier).after .clear = cleared := by
    rw [← run]
    unfold afterAll
    rw [List.foldl_append]
    rfl
  obtain ⟨first, others⟩ := List.forall_mem_append.mp blind
  obtain ⟨kinds, grown⟩ : cleared.catalog.Impartial ∧
      ((∀ request ∈ earlier, request.Exact) → cleared.catalog.Exact) := by
    have new : (start identity options journal).Exact := fun _ => List.forall_mem_nil _
    have exact : ((start identity options journal).afterAll earlier).Exact :=
      new.afterAll earlier
    obtain ⟨kinds, grown⟩ := kinds_afterAll Catalog.impartial_builtin new first
    obtain ⟨last, same⟩ := @kinds_after _ kinds exact .clear trivial
    rw [reached] at last same
    exact ⟨last, fun registers => same (grown Catalog.exact_builtin registers) trivial⟩
  have same : ((start identity options journal).afterAll earlier).options = options :=
    options_afterAll (start identity options journal) earlier
  have begun : ((start identity options journal).afterAll earlier).Reached .all :=
    ⟨identity, options, journal, earlier, fun request _ => request.within_all, rfl⟩
  have mirrors := mirrors_clear begun.ready identity' (reached.symm ▸ level)
  rw [reached, same, new, stands] at mirrors
  have catalog : fresh.catalog = cleared.catalog := by
    rw [← new]
    rfl
  rw [← catalog] at kinds grown mirrors
  obtain ⟨alike, last⟩ := Shift.mirrors_afterAll mirrors kinds others
    (fair.imp_right fun exact => (List.forall_mem_append.mp exact).imp_left grown)
  rw [moves] at alike last
  refine ⟨alike, ⟨_, last.same⟩, ?_⟩
  rw [last.same, ← stands]
  show ((fresh.afterAll later).constraints.map _).map Constraint.key = _
  rw [List.map_map]
  exact List.map_congr_left fun c _ => Shift.key_constraint _ c

/-- A kind of its own by which the coordinates of a point and a number sum up to zero, and two
points, the first of them held so. -/
def drawing : List Request :=
  [.registerKind (.text "balance") [.text "point", .text "scalar"] (.int 1)
      BlockTemplate.sum.build,
    .addPoint (.float 1.0) (.float 2.0) (.bool false) (.int 0),
    .addPoint (.float 3.0) (.float 4.0) (.bool false) (.int 0),
    .addConstraint (.text "balance") [.int 0, .float (-3.0)] (.bool true) (.bool false)
      (.float 1.0) (.int 0)]

/-- A line between two points, of which the second is held so, solved and applied, read and
removed. -/
def redrawing : List Request :=
  [.addPoint (.float 0.0) (.float 0.0) (.bool true) (.int 0),
    .addPoint (.float 2.0) (.float 4.0) (.bool false) (.int 0),
    .addLine (.int 0) (.int 1) (.int 0),
    .addConstraint (.text "balance") [.int 1, .float (-7.0)] (.bool true) (.bool false)
      (.float 1.0) (.int 0),
    .solve (.prescribed (.values [3.0, 4.0]) 1 "") (.text "dogleg"),
    .apply (.bool false),
    .pointCoordinates (.int 1),
    .removeTag (.int 0)]

/-- What was drawn and cleared takes three identifiers, and drawing on starts with the next one. -/
theorem cleared_like_new_redrawing :
    ∃ cleared fresh moved,
      (start 0 .standard .full).afterAll (drawing ++ [.clear]) = cleared ∧
      cleared.table.nextId = 3 ∧
      startWith cleared.catalog 1 .standard .full = fresh ∧
      (fresh.answers redrawing).all Except.isOk ∧
      movedRequests (cleared.ahead 1) fresh redrawing = moved ∧
      List.Forall₂ (fun call other =>
          Alike (fun answer answer' => answer' = call.1.answer (cleared.ahead 1) answer) call.2
            other)
        (redrawing.zip (fresh.answers redrawing)) (cleared.answers moved) := by
  have next : ((start 0 .standard .full).afterAll (drawing ++ [.clear])).table.nextId = 3 := by
    decide +kernel
  have answered : ((startWith ((start 0 .standard .full).afterAll (drawing ++ [.clear])).catalog 1
      .standard .full).answers redrawing).all Except.isOk := by decide +kernel
  have level : Journal.full.threshold =
      ((start 0 .standard .full).afterAll (drawing ++ [.clear])).journal.threshold := by
    decide +kernel
  have blind : ∀ request ∈ drawing ++ redrawing, request.Blind := by
    intro request there
    rcases List.mem_append.mp there with first | later
    · simp only [drawing, List.mem_cons, List.not_mem_nil, or_false] at first
      rcases first with rfl | rfl | rfl | rfl
      · exact BlockTemplate.sum.ignoresBindings
      all_goals trivial
    · simp only [redrawing, List.mem_cons, List.not_mem_nil, or_false] at later
      rcases later with rfl | rfl | rfl | rfl | rfl | rfl | rfl | rfl <;> trivial
  have impartial : ∀ request ∈ redrawing, request.Impartial := by
    intro request there
    simp only [redrawing, List.mem_cons, List.not_mem_nil, or_false] at there
    rcases there with rfl | rfl | rfl | rfl | rfl | rfl | rfl | rfl
    case inr.inr.inr.inr.inl => exact Backend.impartial_prescribed _ _ _
    all_goals trivial
  obtain ⟨alike, -, -⟩ := cleared_like_new rfl rfl rfl rfl level blind (.inl impartial)
  exact ⟨_, _, _, rfl, next, rfl, answered, rfl, alike⟩

end Sketch

end Drafting
