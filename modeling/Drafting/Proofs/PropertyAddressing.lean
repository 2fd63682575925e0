import Drafting.Geometry.Property
import Drafting.Proofs.AcceptedViews

/-!
# Addressing the fields of a view

A property is found by its place in a geometry's own block. The places follow from the order of the
names of a kind and, for a spline, from the counts of its poles, weights and knots; the block lists
the slots of a figure in an order of its own. Both agree in every view with a weight for each pole
of its spline, if it is one, so that the slot found under a name is the one that the figure keeps
under this name. A store makes no other views, since the counts of a spline are checked when it is
made.
-/

namespace Drafting

/-- A view that is asked of a store: its kind, and a value for each of its fields. -/
inductive Making where
  | point (x y : Value)
  | line (start finish : Value)
  | circle (center radius : Value)
  | arc (center start finish startAngle endAngle radius : Value)
  | ellipse (center focus minorRadius : Value)
  | arcOfEllipse (center focus start finish startAngle endAngle minorRadius : Value)
  | hyperbola (center focus minorRadius : Value)
  | arcOfHyperbola (center focus start finish startAngle endAngle minorRadius : Value)
  | parabola (vertex focus : Value)
  | arcOfParabola (vertex focus start finish startAngle endAngle : Value)
  | bspline (start finish poles weights knots multiplicities degree periodic : Value)

/-- The view that a store makes when it is asked for one. -/
def Making.make (store : Store) : Making → Except Fault View
  | point x y => store.makePoint x y
  | line start finish => store.makeLine start finish
  | circle center radius => store.makeCircle center radius
  | arc center start finish startAngle endAngle radius =>
    store.makeArc center start finish startAngle endAngle radius
  | ellipse center focus minorRadius => store.makeEllipse center focus minorRadius
  | arcOfEllipse center focus start finish startAngle endAngle minorRadius =>
    store.makeArcOfEllipse center focus start finish startAngle endAngle minorRadius
  | hyperbola center focus minorRadius => store.makeHyperbola center focus minorRadius
  | arcOfHyperbola center focus start finish startAngle endAngle minorRadius =>
    store.makeArcOfHyperbola center focus start finish startAngle endAngle minorRadius
  | parabola vertex focus => store.makeParabola vertex focus
  | arcOfParabola vertex focus start finish startAngle endAngle =>
    store.makeArcOfParabola vertex focus start finish startAngle endAngle
  | bspline start finish poles weights knots multiplicities degree periodic =>
    store.makeSpline start finish poles weights knots multiplicities degree periodic

namespace Figure

/-- A spline has a weight for each pole. No other figure has weights. -/
def EvenlyWeighted : Figure → Prop
  | bspline spline => spline.weights.length = spline.poles.length
  | _ => True

/-- The slots that a figure keeps under names of its own. -/
def fields : Figure → List (String × Int)
  | point x y => [("x", x), ("y", y)]
  | line .. | parabola .. => []
  | circle _ radius => [("radius", radius)]
  | arc _ _ _ startAngle endAngle radius =>
    [("start_angle", startAngle), ("end_angle", endAngle), ("radius", radius)]
  | ellipse _ _ minorRadius | hyperbola _ _ minorRadius => [("radmin", minorRadius)]
  | arcOfEllipse _ _ _ _ startAngle endAngle minorRadius
  | arcOfHyperbola _ _ _ _ startAngle endAngle minorRadius =>
    [("start_angle", startAngle), ("end_angle", endAngle), ("radmin", minorRadius)]
  | arcOfParabola _ _ _ _ startAngle endAngle =>
    [("start_angle", startAngle), ("end_angle", endAngle)]
  | bspline spline =>
    [("start_x", spline.start.x), ("start_y", spline.start.y), ("end_x", spline.finish.x),
      ("end_y", spline.finish.y)]

/-- The slot that a figure keeps under a name. -/
def field? (figure : Figure) (name : String) : Option Int := figure.fields.lookup name

/-- The count of slots in front of the named ones in the own block of a figure. -/
def unnamed : Figure → Nat
  | bspline spline => 2 * spline.poles.length + spline.weights.length + spline.knots.length
  | _ => 0

end Figure

/-- Counts given along with a property fit a view if they are its own, or if none are given. -/
def Value.Fits (given : Value) (declared : Option SplineShape) : Prop :=
  given = .none ∨ ∃ shape, given = .shape shape ∧ declared = some shape

section Weighing

/-- Whatever view is made, it is evenly weighted. -/
def Weighs (made : Except Fault View) : Prop :=
  ∀ view, made = .ok view → view.figure.EvenlyWeighted

namespace Weighs

variable {α : Type} {store : Store}

/-- A view that is made after a step. -/
protected theorem bind {step : Except Fault α} {next : α → Except Fault View}
    (later : ∀ answer, Weighs (next answer)) : Weighs (step >>= next) := by
  intro view made
  obtain ⟨answer, -, followed⟩ := bind_eq_ok.mp made
  exact later answer view followed

/-- A figure that is bound. -/
protected theorem figure {figure : Figure} (even : figure.EvenlyWeighted) :
    Weighs (store.bind figure) := by
  intro view made
  obtain ⟨-, -, rfl⟩ := Store.bind_eq_ok_iff.mp made
  exact even

end Weighs

/-- A spline that is made has a weight for each pole. -/
theorem Store.weighs_makeSpline (store : Store)
    (start finish poles weights knots multiplicities degree periodic : Value) :
    Weighs (store.makeSpline start finish poles weights knots multiplicities degree periodic) := by
  intro view made
  obtain ⟨poleCount, polesCounted, made⟩ := bind_eq_ok.mp made
  obtain ⟨weightCount, weightsCounted, made⟩ := bind_eq_ok.mp made
  obtain ⟨_, -, made⟩ := bind_eq_ok.mp made
  obtain ⟨_, -, made⟩ := bind_eq_ok.mp made
  obtain ⟨number, checked, made⟩ := bind_eq_ok.mp made
  obtain ⟨-, even, -⟩ := checkSplineCounts_eq_ok.mp checked
  obtain ⟨poleItems, polesOpened, made⟩ := bind_eq_ok.mp made
  obtain ⟨weightSlots, weighed, made⟩ := bind_eq_ok.mp made
  obtain ⟨weightItems, weightsOpened, weighed⟩ := bind_eq_ok.mp weighed
  obtain ⟨_, -, made⟩ := bind_eq_ok.mp made
  obtain ⟨_, -, made⟩ := bind_eq_ok.mp made
  obtain ⟨_, -, made⟩ := bind_eq_ok.mp made
  obtain ⟨_, -, made⟩ := bind_eq_ok.mp made
  obtain ⟨_, -, made⟩ := bind_eq_ok.mp made
  obtain ⟨_, -, made⟩ := bind_eq_ok.mp made
  obtain ⟨points, placed, made⟩ := bind_eq_ok.mp made
  refine Weighs.figure ?_ view made
  rw [Value.count_of_toItems polesOpened] at polesCounted
  rw [Value.count_of_toItems weightsOpened] at weightsCounted
  calc weightSlots.length = weightItems.length := (mapM_eq_ok.mp weighed).length_eq.symm
    _ = weightCount := Except.ok.inj weightsCounted
    _ = poleCount := even
    _ = poleItems.length := (Except.ok.inj polesCounted).symm
    _ = points.length := (mapM_eq_ok.mp placed).length_eq

/-- Every view that is made is evenly weighted. -/
theorem Making.weighs_make (store : Store) (making : Making) : Weighs (making.make store) := by
  cases making with
  | bspline start finish poles weights knots multiplicities degree periodic =>
    exact store.weighs_makeSpline start finish poles weights knots multiplicities degree periodic
  | _ =>
    unfold make
    -- Binding a figure is a sequence of steps too, so the last step is tried first.
    repeat first
      | exact Weighs.figure (by trivial)
      | refine Weighs.bind fun _ => ?_

end Weighing

/-- What a list of pairs holds under a key stands at the place of the key. -/
theorem lookup_eq_getElem? {α β : Type} [BEq α] [LawfulBEq α] (entries : List (α × β)) (key : α) :
    entries.lookup key =
      ((entries.map Prod.fst).idxOf? key).bind fun place => (entries.map Prod.snd)[place]? := by
  induction entries with
  | nil => rfl
  | cons entry rest ih =>
    rw [List.lookup_cons, List.map_cons, List.map_cons, List.idxOf?_cons, ih]
    by_cases here : entry.1 = key
    · simp [here]
    · simp only [here, beq_false_of_ne (Ne.symm here), beq_iff_eq, ↓reduceIte, Option.bind_map,
        Function.comp_def, List.getElem?_cons_succ]

namespace Figure

/-- The named slots of a figure have the names of its kind. -/
theorem map_fst_fields (figure : Figure) : figure.fields.map Prod.fst = figure.kind.properties := by
  cases figure <;> rfl

/-- The named slots of a figure come last in its own block. -/
theorem drop_ownIndices (figure : Figure) :
    figure.ownIndices.drop figure.unnamed = figure.fields.map Prod.snd := by
  cases figure with
  | bspline spline =>
    have front : (spline.poles.flatMap Point.indices ++ spline.weights ++ spline.knots).length =
        2 * spline.poles.length + spline.weights.length + spline.knots.length := by
      simp [List.length_flatMap, Point.indices, Nat.mul_comm, Nat.add_assoc]
    show List.drop _ (_ ++ _ ++ _) = _
    rw [List.append_assoc]
    exact List.drop_left' front
  | _ => rfl

/-- The place of a name among those of the kind, behind the slots without names, is the place of
the slot that the figure keeps under this name. -/
theorem getElem?_ownIndices (figure : Figure) {name : String} {place : Nat}
    (placed : figure.kind.properties.idxOf? name = some place) :
    ∃ slot, figure.ownIndices[figure.unnamed + place]? = some slot ∧
      figure.field? name = some slot := by
  have among : place < (figure.fields.map Prod.snd).length := by
    have bounded := (List.idxOf?_eq_some_iff.mp placed).1
    rw [← map_fst_fields, List.length_map] at bounded
    rw [List.length_map]
    exact bounded
  refine ⟨(figure.fields.map Prod.snd)[place], ?_, ?_⟩
  · rw [← List.getElem?_drop, drop_ownIndices]
    exact List.getElem?_eq_getElem among
  · unfold field?
    rw [lookup_eq_getElem?, map_fst_fields, placed]
    exact List.getElem?_eq_getElem among

/-- The count of slots in front of the named ones follows from the counts of the view. -/
theorem propertyBase_eq_unnamed {figure : Figure} (even : figure.EvenlyWeighted) (name : String) :
    propertyBase figure.kind name figure.shape? = .ok figure.unnamed := by
  cases figure with
  | bspline spline =>
    have even : spline.weights.length = spline.poles.length := even
    unfold propertyBase
    simp [kind, shape?, Spline.shape, unnamed, even]
  | _ => rfl

/-- A name of the kind is resolved to its place behind the slots without names. -/
theorem resolveOffset_name {figure : Figure} (even : figure.EvenlyWeighted) {name : String}
    {place : Nat} (placed : figure.kind.properties.idxOf? name = some place) :
    resolveOffset figure.kind figure.shape? (.text name) =
      .ok ((figure.unnamed + place : Nat) : Int) := by
  unfold resolveOffset
  dsimp only
  rw [placed]
  dsimp only
  rw [propertyBase_eq_unnamed even]
  rfl

end Figure

/-- Whatever is no name of the kind is refused as an unknown property. -/
theorem resolveOffset_other {kind : GeometryKind} {shape : Option SplineShape} {property : Value}
    (other : ∀ name ∈ kind.properties, property ≠ .text name) :
    ∃ named, resolveOffset kind shape property = .error (.unknownProperty kind named none) := by
  cases property with
  | text name =>
    have absent : kind.properties.idxOf? name = none :=
      List.idxOf?_eq_none_iff.mpr fun there => other name there rfl
    refine ⟨.text name, ?_⟩
    unfold resolveOffset
    dsimp only
    rw [absent]
  | _ => exact ⟨_, rfl⟩

/-- Counts that fit a view do not contradict it. -/
theorem contradicts_of_fits {given : Value} {declared : Option SplineShape}
    (fits : given.Fits declared) : contradicts given declared = .ok false := by
  rcases fits with rfl | ⟨shape, rfl, rfl⟩
  · rfl
  · simp [contradicts]

/-- Whatever else is given contradicts a view, if it can be compared with counts at all. -/
theorem contradicts_of_unfit {given : Value} {declared : Option SplineShape}
    (unfit : ¬ given.Fits declared) :
    contradicts given declared = given.checkComparable >>= fun _ => .ok true := by
  cases given with
  | none => exact absurd (.inl rfl) unfit
  | shape shape =>
    have different : declared ≠ some shape := fun same => unfit (.inr ⟨shape, rfl, same⟩)
    simp [contradicts, different, Value.checkComparable, ok_bind]
  | _ => rfl

/-- What can be refused for not being comparable is refused below the rules of this library. -/
theorem checkComparable_cases (given : Value) :
    given.checkComparable = .ok () ∨
      ∃ cause, given.checkComparable = .error (.arithmetic cause) := by
  unfold Value.checkComparable
  split
  · exact .inl rfl
  · exact .inr ⟨_, rfl⟩
  · exact .inl rfl

/-- What becomes of a property that is asked of a view along with some counts. -/
inductive Indexing (view : View) (property given : Value) : Except Fault Int → Prop where
  /-- The name is known and the counts fit: the slot kept under the name is found. -/
  | found {name : String} {slot : Int} (known : name ∈ view.kind.properties)
      (text : property = .text name) (fits : given.Fits view.shape?)
      (kept : view.figure.field? name = some slot) : Indexing view property given (.ok slot)
  /-- What is asked for is no name of the kind. -/
  | unknown (other : ∀ name ∈ view.kind.properties, property ≠ .text name) (named : Value) :
      Indexing view property given (.error (.unknownProperty view.kind named none))
  /-- The counts are those of another view. -/
  | unfit (unfit : ¬ given.Fits view.shape?) :
      Indexing view property given
        (.error (.unknownProperty view.kind property (some (.otherShape given view.shape?))))
  /-- What is given for the counts cannot be compared with counts. -/
  | incomparable (unfit : ¬ given.Fits view.shape?) {cause : ArithmeticFault}
      (refused : given.checkComparable = .error (.arithmetic cause)) :
      Indexing view property given (.error (.arithmetic cause))

/-- The names of a kind have different places. -/
theorem Figure.place_injective {figure : Figure} {name other : String} {place : Nat}
    (placed : figure.kind.properties.idxOf? name = some place)
    (same : figure.kind.properties.idxOf? other = some place) : name = other := by
  obtain ⟨_, first, -⟩ := List.idxOf?_eq_some_iff.mp placed
  obtain ⟨_, second, -⟩ := List.idxOf?_eq_some_iff.mp same
  exact first.symm.trans second

section Index

variable {view : View} {property given : Value}

/-- With counts that fit, what is found under a name is the slot that the figure keeps under it. -/
theorem propertyIndex_name (even : view.figure.EvenlyWeighted) (fits : given.Fits view.shape?)
    {name : String} (known : name ∈ view.kind.properties) :
    ∃ slot, propertyIndex view (.text name) given = .ok slot ∧
      view.figure.field? name = some slot := by
  obtain ⟨place, placed⟩ := Option.isSome_iff_exists.mp (List.isSome_idxOf?.mpr known)
  obtain ⟨slot, there, kept⟩ := view.figure.getElem?_ownIndices placed
  have there : view.ownIndices[((view.figure.unnamed + place : Nat) : Int).toNat]? = some slot :=
    there
  have resolved : resolveOffset view.kind view.shape? (.text name) = _ :=
    Figure.resolveOffset_name even placed
  refine ⟨slot, ?_, kept⟩
  unfold propertyIndex
  rw [contradicts_of_fits fits, ok_bind, if_neg Bool.false_ne_true, resolved, ok_bind]
  dsimp only
  rw [there]

/-- With counts that fit, whatever is no name of the kind is refused as an unknown property. -/
theorem propertyIndex_other (fits : given.Fits view.shape?)
    (other : ∀ name ∈ view.kind.properties, property ≠ .text name) :
    ∃ named, propertyIndex view property given =
      .error (.unknownProperty view.kind named none) := by
  obtain ⟨named, refused⟩ := @resolveOffset_other _ view.shape? _ other
  refine ⟨named, ?_⟩
  unfold propertyIndex
  rw [contradicts_of_fits fits, ok_bind, if_neg Bool.false_ne_true, refused]
  rfl

/-- Counts that do not fit are refused with any property, as those of another view if they can be
compared with counts at all. -/
theorem propertyIndex_unfit (unfit : ¬ given.Fits view.shape?) :
    propertyIndex view property given = given.checkComparable >>= fun _ =>
      .error (.unknownProperty view.kind property (some (.otherShape given view.shape?))) := by
  unfold propertyIndex
  rw [contradicts_of_unfit unfit, bind_assoc]
  rfl

/-- In a view that is evenly weighted, nothing else becomes of a property. -/
theorem indexing_propertyIndex (even : view.figure.EvenlyWeighted) (property given : Value) :
    Indexing view property given (propertyIndex view property given) := by
  by_cases fits : given.Fits view.shape?
  · by_cases known : ∃ name ∈ view.kind.properties, property = .text name
    · obtain ⟨name, among, rfl⟩ := known
      obtain ⟨slot, found, kept⟩ := propertyIndex_name even fits among
      rw [found]
      exact .found among rfl fits kept
    · have other : ∀ name ∈ view.kind.properties, property ≠ .text name :=
        fun name among same => known ⟨name, among, same⟩
      obtain ⟨named, refused⟩ := propertyIndex_other fits other
      rw [refused]
      exact .unknown other named
  · rw [propertyIndex_unfit fits]
    rcases checkComparable_cases given with comparable | ⟨cause, refused⟩
    · rw [comparable]
      exact .unfit fits
    · rw [refused]
      exact .incomparable fits refused

/-- A slot is found exactly for the names of the kind, with counts that fit. -/
theorem exists_propertyIndex_iff (even : view.figure.EvenlyWeighted) :
    (∃ slot, propertyIndex view property given = .ok slot) ↔
      (∃ name ∈ view.kind.properties, property = .text name) ∧ given.Fits view.shape? := by
  constructor
  · rintro ⟨slot, found⟩
    have became := indexing_propertyIndex even property given
    rw [found] at became
    cases became with
    | found known text fits kept => exact ⟨⟨_, known, text⟩, fits⟩
  · rintro ⟨⟨name, known, rfl⟩, fits⟩
    obtain ⟨slot, found, -⟩ := propertyIndex_name even fits known
    exact ⟨slot, found⟩

/-- The slot that is found under a name is the one that the figure keeps under it. -/
theorem field?_of_propertyIndex (even : view.figure.EvenlyWeighted) {name : String} {slot : Int}
    (found : propertyIndex view (.text name) given = .ok slot) :
    view.figure.field? name = some slot := by
  have became := indexing_propertyIndex even (.text name) given
  rw [found] at became
  cases became with
  | found known text fits kept =>
    cases text
    exact kept

/-- What is refused along with counts that can be compared is refused as unknown to the kind. -/
theorem unknownProperty_of_propertyIndex (even : view.figure.EvenlyWeighted) {fault : Fault}
    (refused : propertyIndex view property given = .error fault)
    (comparable : given.checkComparable = .ok ()) :
    ∃ named reason, fault = .unknownProperty view.kind named reason := by
  have became := indexing_propertyIndex even property given
  rw [refused] at became
  cases became with
  | unknown other named => exact ⟨named, _, rfl⟩
  | unfit unfit => exact ⟨property, _, rfl⟩
  | incomparable unfit incomparable =>
    rw [comparable] at incomparable
    cases incomparable

/-- Nothing is refused for lying outside the block. -/
theorem propertyIndex_ne_outsideBlock (even : view.figure.EvenlyWeighted) (kind : GeometryKind)
    (named : Value) (offset : Int) (size : Nat) : propertyIndex view property given ≠
      .error (.unknownProperty kind named (some (.outsideBlock offset size))) := by
  intro refused
  have became := indexing_propertyIndex even property given
  rw [refused] at became
  cases became

/-- Every name of the kind has a place in the block that holds the slot kept under it, and no two
names share a place. -/
theorem exists_places (even : view.figure.EvenlyWeighted) :
    ∃ place : String → Nat,
      (∀ name ∈ view.kind.properties,
        resolveOffset view.kind view.shape? (.text name) = .ok (place name) ∧
          ∃ slot, view.ownIndices[place name]? = some slot ∧
            view.figure.field? name = some slot) ∧
      ∀ name ∈ view.kind.properties, ∀ other ∈ view.kind.properties,
        place name = place other → name = other := by
  have placed (name : String) (known : name ∈ view.kind.properties) :
      ∃ place, view.kind.properties.idxOf? name = some place :=
    Option.isSome_iff_exists.mp (List.isSome_idxOf?.mpr known)
  refine ⟨fun name => view.figure.unnamed + (view.kind.properties.idxOf? name).getD 0,
    fun name known => ?_, fun name known other alsoKnown same => ?_⟩
  · obtain ⟨place, there⟩ := placed name known
    dsimp only
    rw [there]
    exact ⟨Figure.resolveOffset_name even there, view.figure.getElem?_ownIndices there⟩
  · obtain ⟨place, there⟩ := placed name known
    obtain ⟨otherPlace, otherThere⟩ := placed other alsoKnown
    dsimp only at same
    rw [there, otherThere] at same
    have equal : place = otherPlace := Nat.add_left_cancel same
    rw [← equal] at otherThere
    exact Figure.place_injective there otherThere

end Index

/-- The properties of a view address the slots that its figure keeps under names. -/
structure View.Addresses (view : View) : Prop where
  /-- A property is found exactly if it is a name of the kind and the counts given along fit. -/
  found : ∀ property given, (∃ slot, propertyIndex view property given = .ok slot) ↔
    (∃ name ∈ view.kind.properties, property = .text name) ∧ given.Fits view.shape?
  /-- What is found under a name is the slot that the figure keeps under it. -/
  kept : ∀ name given slot, propertyIndex view (.text name) given = .ok slot →
    view.figure.field? name = some slot
  /-- Whatever else is asked for is refused as unknown to the kind, unless an array is given for the
  counts that cannot be compared with them. -/
  refused : ∀ property given fault, propertyIndex view property given = .error fault →
    given.checkComparable = .ok () →
      ∃ named reason, fault = .unknownProperty view.kind named reason
  /-- Nothing is refused for lying outside the block. -/
  inside : ∀ property given kind named offset size, propertyIndex view property given ≠
    .error (.unknownProperty kind named (some (.outsideBlock offset size)))
  /-- Each name has a place of its own in the block. -/
  places : ∃ place : String → Nat,
    (∀ name ∈ view.kind.properties,
      resolveOffset view.kind view.shape? (.text name) = .ok (place name) ∧
        ∃ slot, view.ownIndices[place name]? = some slot ∧ view.figure.field? name = some slot) ∧
    ∀ name ∈ view.kind.properties, ∀ other ∈ view.kind.properties,
      place name = place other → name = other

/-- A view addresses its named slots by its properties if it is evenly weighted, whoever built it,
and every view that a store makes is. -/
theorem propertyIndex_addresses (view : View) :
    (∀ (store : Store) (making : Making), making.make store = .ok view →
      view.figure.EvenlyWeighted) ∧
    (view.figure.EvenlyWeighted → view.Addresses) :=
  ⟨fun store making made => making.weighs_make store view made, fun even =>
    { found := fun _ _ => exists_propertyIndex_iff even
      kept := fun _ _ _ found => field?_of_propertyIndex even found
      refused := fun _ _ _ refused comparable =>
        unknownProperty_of_propertyIndex even refused comparable
      inside := fun _ _ => propertyIndex_ne_outsideBlock even
      places := exists_places even }⟩

/-- A spline over eleven slots, of two poles and one knot, from points without a binding. -/
def twoPoleSpline : Making :=
  .bspline (.view ⟨.point 7 8, none⟩) (.view ⟨.point 9 10, none⟩)
    (.list [.view ⟨.point 0 1, none⟩, .view ⟨.point 2 3, none⟩]) (.list [.int 4, .int 5])
    (.list [.int 6]) (.list [.int 2]) (.int 1) (.bool false)

/-- A store of eleven slots makes a spline over them, and its end's second coordinate is found in
the last of them. -/
theorem propertyIndex_addresses_twoPoleSpline :
    ∃ view, twoPoleSpline.make ((Store.empty 0).append (List.replicate 11 0.0) false 0).2 =
        .ok view ∧
      view.kind = .bspline ∧ view.figure.field? "end_y" = some 10 ∧
      ∃ slot, propertyIndex view (.text "end_y") .none = .ok slot := by
  have made : twoPoleSpline.make ((Store.empty 0).append (List.replicate 11 0.0) false 0).2 =
      .ok _ := rfl
  refine ⟨_, made, rfl, rfl, ?_⟩
  obtain ⟨even, addresses⟩ := propertyIndex_addresses _
  exact ((addresses (even _ _ made)).found (.text "end_y") .none).mpr
    ⟨⟨"end_y", by decide, rfl⟩, .inl rfl⟩

end Drafting
