import Mathlib.Analysis.SpecialFunctions.Trigonometric.DerivHyp
import Drafting.Proofs.ExactFormulas
import Drafting.Relation.Builtin

/-!
# Two ways to describe a conic

The rules of an arc put its ends at the points of a curve with given parameters, in the frame that
the center and the focus span. Whether a point lies on the curve is told from its distances to the
focus and to the mirror image of the focus, or to the focus and the directrix. Over the reals the
two descriptions agree: the frame keeps distances, so each focal distance is the root of a square
that the parametrization makes complete.
-/

namespace Drafting

/-- How far a point of an ellipse is from the focus with a given place on the axis. -/
theorem focal_ellipse {major minor focal : ℝ} (nonneg : 0 ≤ major)
    (square : major ^ 2 = minor ^ 2 + focal ^ 2) (t : ℝ) :
    √((major * Real.cos t - focal) ^ 2 + (minor * Real.sin t) ^ 2) =
      major - focal * Real.cos t := by
  have complete : (major * Real.cos t - focal) ^ 2 + (minor * Real.sin t) ^ 2 =
      (major - focal * Real.cos t) ^ 2 := by
    linear_combination (minor ^ 2) * Real.sin_sq_add_cos_sq t +
      (Real.cos t ^ 2 - 1) * square
  have inside : |focal| ≤ major := abs_le_of_sq_le_sq (by nlinarith) nonneg
  have within : focal * Real.cos t ≤ |focal| := by
    calc focal * Real.cos t ≤ |focal * Real.cos t| := le_abs_self _
      _ = |focal| * |Real.cos t| := abs_mul _ _
      _ ≤ |focal| := mul_le_of_le_one_right (abs_nonneg _) (Real.abs_cos_le_one t)
  rw [complete, Real.sqrt_sq (by linarith)]

/-- The focal distances of a point of an ellipse add up to twice the major radius. -/
theorem focal_sum {focal major minor : ℝ} (majors : major = √(minor * minor + focal * focal))
    (t : ℝ) : √((major * Real.cos t - focal) ^ 2 + (minor * Real.sin t) ^ 2) +
      √((major * Real.cos t - -focal) ^ 2 + (minor * Real.sin t) ^ 2) = 2 * major := by
  have nonneg : 0 ≤ major := majors ▸ Real.sqrt_nonneg _
  have square : major ^ 2 = minor ^ 2 + focal ^ 2 := by
    rw [majors, Real.sq_sqrt (add_nonneg (mul_self_nonneg minor) (mul_self_nonneg focal))]
    ring
  rw [focal_ellipse nonneg square, focal_ellipse nonneg (by rw [neg_sq, square])]
  ring

/-- How far a point of a hyperbola is from the focus with a given place on the axis. -/
theorem focal_hyperbola {major minor focal : ℝ} (square : major ^ 2 = focal ^ 2 - minor ^ 2)
    (t : ℝ) : √((major * Real.cosh t - focal) ^ 2 + (minor * Real.sinh t) ^ 2) =
      |focal * Real.cosh t - major| := by
  have complete : (major * Real.cosh t - focal) ^ 2 + (minor * Real.sinh t) ^ 2 =
      (focal * Real.cosh t - major) ^ 2 := by
    linear_combination (-minor ^ 2) * Real.cosh_sq t + (Real.cosh t ^ 2 - 1) * square
  rw [complete, Real.sqrt_sq_eq_abs]

/-- The focal distances of a point of a hyperbola differ by twice the major radius. Where the major
radius is zero the point lies on the other axis, as far from one focus as from the other. -/
theorem focal_difference {focal major minor : ℝ} (positive : 0 < focal)
    (majors : major = √(max (focal * focal - minor * minor) 0)) (t : ℝ) :
    |√((major * Real.cosh t - focal) ^ 2 + (minor * Real.sinh t) ^ 2) -
      √((major * Real.cosh t - -focal) ^ 2 + (minor * Real.sinh t) ^ 2)| = 2 * major := by
  have nonneg : 0 ≤ major := majors ▸ Real.sqrt_nonneg _
  rcases le_total (focal * focal - minor * minor) 0 with clamped | proper
  · -- The major radius is clamped to zero, and both distances are the same root.
    rw [max_eq_right clamped, Real.sqrt_zero] at majors
    rw [majors, zero_mul, zero_sub, zero_sub, neg_sq (-focal), neg_sq focal, sub_self, abs_zero,
      mul_zero]
  · -- Both distances are roots of complete squares, and the focus lies beyond the vertex.
    rw [max_eq_left proper] at majors
    have square : major ^ 2 = focal ^ 2 - minor ^ 2 := by
      rw [majors, Real.sq_sqrt proper]
      ring
    have inside : major ≤ focal := abs_le_of_sq_le_sq' (by nlinarith) positive.le |>.2
    have beyond : focal ≤ focal * Real.cosh t :=
      le_mul_of_one_le_right positive.le (Real.one_le_cosh t)
    have near : |focal * Real.cosh t - major| = focal * Real.cosh t - major :=
      abs_of_nonneg (by linarith)
    have far : |-focal * Real.cosh t - major| = focal * Real.cosh t + major := by
      rw [abs_of_nonpos (by linarith)]
      ring
    rw [focal_hyperbola square, focal_hyperbola (by rw [neg_sq, square]), near, far,
      abs_of_nonpos (by linarith)]
    ring

/-- How far a point of a parabola is from its focus. -/
theorem focal_parabola {focal : ℝ} (positive : 0 < focal) (t : ℝ) :
    √((t * t / (4 * focal) - focal) ^ 2 + t ^ 2) = t * t / (4 * focal) + focal := by
  have complete : (t * t / (4 * focal) - focal) ^ 2 + t ^ 2 =
      (t * t / (4 * focal) + focal) ^ 2 := by
    field_simp
    ring
  have parameter := mul_self_nonneg t
  rw [complete, Real.sqrt_sq (by positivity)]

open OverReals

/-- Lengths that do not count as zero are positive. -/
theorem smallestLength_pos : (0 : ℝ) < smallestLength := by norm_num [smallestLength]

/-- A frame whose axes are unit vectors at a right angle. -/
structure ConicFrame.Orthonormal (frame : ConicFrame ℝ) : Prop where
  unit : frame.along.x ^ 2 + frame.along.y ^ 2 = 1
  across : frame.across = frame.along.turned

namespace ConicFrame

variable {frame : ConicFrame ℝ}

/-- The points of a frame are as far apart as their coordinates. -/
theorem Orthonormal.norm_minus (right : frame.Orthonormal) (a b a' b' : ℝ) :
    ((frame.point a b).minus (frame.point a' b')).norm = √((a - a') ^ 2 + (b - b') ^ 2) := by
  have unit := right.unit
  simp only [PlaneVector.norm, point, PlaneVector.minus, PlaneVector.plus, PlaneVector.times,
    right.across, PlaneVector.turned]
  congr 1
  linear_combination ((a - a') ^ 2 + (b - b') ^ 2) * unit

/-- The coordinate of a point along the axis of a frame. -/
theorem Orthonormal.dot_along (right : frame.Orthonormal) (a b : ℝ) :
    ((frame.point a b).minus frame.center).dot frame.along = a := by
  have unit := right.unit
  simp only [PlaneVector.dot, point, PlaneVector.minus, PlaneVector.plus, PlaneVector.times,
    right.across, PlaneVector.turned]
  norm_num
  linear_combination a * unit

/-- The mirror image of a point on the axis of a frame. -/
theorem mirrored_point (frame : ConicFrame ℝ) (k : ℝ) :
    (PlaneVector.times 2.0 frame.center).minus (frame.point k 0) = frame.point (-k) 0 := by
  simp only [point, PlaneVector.minus, PlaneVector.plus, PlaneVector.times, PlaneVector.mk.injEq]
  norm_num
  constructor <;> ring

/-- The frame of a conic whose focus is not at its center: it has right angles, the center of the
conic, and its focus on the axis. -/
theorem of_eq_ok {c f : PlaneVector ℝ} (apart : smallestLength < (f.minus c).norm) :
    ∃ frame : ConicFrame ℝ, ConicFrame.of c f = .ok frame ∧ frame.Orthonormal ∧ frame.center = c ∧
      frame.focal = (f.minus c).norm ∧ f = frame.point frame.focal 0 := by
  have away : ¬ atMost (f.minus c).norm smallestLength :=
    decide_eq_true_iff.not.mpr (not_le.mpr apart)
  have far : 0 < (f.minus c).norm := smallestLength_pos.trans apart
  have square : (f.minus c).norm ^ 2 = (f.minus c).x ^ 2 + (f.minus c).y ^ 2 :=
    Real.sq_sqrt (by positivity)
  generalize focal : (f.minus c).norm = distance at *
  refine ⟨⟨c, (f.minus c).dividedBy distance, ((f.minus c).dividedBy distance).turned, distance⟩,
    ?_, ⟨?_, rfl⟩, rfl, rfl, ?_⟩
  · unfold ConicFrame.of
    dsimp only
    rw [PlaneVector.length_real, ok_bind, focal, if_neg away]
  · simp only [PlaneVector.dividedBy]
    rw [div_pow, div_pow, ← add_div, ← square, div_self (by positivity)]
  · obtain ⟨x, y⟩ := f
    simp only [point, PlaneVector.dividedBy, PlaneVector.turned, PlaneVector.plus,
      PlaneVector.times, PlaneVector.minus, PlaneVector.mk.injEq, mul_div_cancel₀ _ far.ne']
    norm_num

end ConicFrame

/-- The distances of a point to the focus and to its mirror image. -/
theorem ConicFrame.Orthonormal.focalDistances_point {frame : ConicFrame ℝ}
    (right : frame.Orthonormal) (a b k : ℝ) :
    focalDistances (frame.point a b) frame.center (frame.point k 0) =
      .ok (√((a - k) ^ 2 + b ^ 2), √((a - -k) ^ 2 + b ^ 2)) := by
  unfold focalDistances
  dsimp only
  rw [ConicFrame.mirrored_point, distance_real, ok_bind, distance_real, ok_bind, right.norm_minus,
    right.norm_minus, sub_zero]

/-- The major radius of a hyperbola is a real, and zero if the minor radius is too large. -/
theorem hyperbolicMajor_real (focalSquare minor : ℝ) :
    hyperbolicMajor focalSquare minor = .ok √(max (focalSquare - minor * minor) 0) := by
  have same : larger (focalSquare - minor * minor) 0.0 = max (focalSquare - minor * minor) 0 := by
    rw [larger_real]
    norm_num
  unfold hyperbolicMajor
  rw [same]
  exact root_real (le_max_right _ _)

/-- Points that differ by nothing are the same. -/
theorem PlaneVector.eq_of_minus {u v : PlaneVector ℝ} (x : (u.minus v).x = 0)
    (y : (u.minus v).y = 0) : u = v := by
  obtain ⟨a, b⟩ := u
  exact PlaneVector.mk.injEq .. ▸ ⟨sub_eq_zero.mp x, sub_eq_zero.mp y⟩

/-- Both ends of an arc whose rows vanish are points of its curve. -/
theorem ArcEndSlots.on_curve {ends : ArcEndSlots} {read : SlotReader ℝ}
    {curve : ℝ → Except Fault (PlaneVector ℝ)} (vanish : ends.rows read curve = .ok [0, 0, 0, 0]) :
    ∀ slots ∈ [ends.start, ends.finish], ∃ t p, curve t = .ok p ∧ slots.vector read = .ok p := by
  obtain ⟨first, -, rest⟩ := bind_eq_ok.mp vanish
  obtain ⟨second, -, rest⟩ := bind_eq_ok.mp rest
  obtain ⟨p, onFirst, rest⟩ := bind_eq_ok.mp rest
  obtain ⟨start, begins, rest⟩ := bind_eq_ok.mp rest
  obtain ⟨q, onSecond, rest⟩ := bind_eq_ok.mp rest
  obtain ⟨finish, ends, rest⟩ := bind_eq_ok.mp rest
  have zero := Except.ok.inj rest
  simp only [List.cons.injEq, and_true] at zero
  obtain ⟨startX, startY, finishX, finishY⟩ := zero
  obtain rfl := PlaneVector.eq_of_minus startX startY
  obtain rfl := PlaneVector.eq_of_minus finishX finishY
  intro slots there
  simp only [List.mem_cons, List.not_mem_nil, or_false] at there
  obtain rfl | rfl := there
  · exact ⟨first, p, onFirst, begins⟩
  · exact ⟨second, q, onSecond, ends⟩

section Agreement

variable {read : SlotReader ℝ} {c f : PlaneVector ℝ} {ends : ArcEndSlots}
  (apart : smallestLength < (f.minus c).norm)

include apart

/-- The ends of an arc of an ellipse lie on the ellipse. -/
theorem ellipse_incident {conic : ConicSlots} (centered : conic.center.vector read = .ok c)
    (focused : conic.focus.vector read = .ok f)
    (vanish : (Relation.ellipseArcRules conic ends).rows read = .ok [0, 0, 0, 0]) :
    ∀ slots ∈ [ends.start, ends.finish], ∃ p, slots.vector read = .ok p ∧
      (Relation.pointOnEllipse slots conic).rows read = .ok [0] := by
  obtain ⟨frame, framed, right, rfl, focal, rfl⟩ := ConicFrame.of_eq_ok apart
  simp only [Relation.rows] at vanish ⊢
  rw [centered, ok_bind, focused, ok_bind, framed, ok_bind] at vanish
  obtain ⟨minor, minors, vanish⟩ := bind_eq_ok.mp vanish
  obtain ⟨major, majors, vanish⟩ := bind_eq_ok.mp vanish
  intro slots there
  obtain ⟨t, p, onCurve, placed⟩ := ArcEndSlots.on_curve vanish slots there
  cases onCurve
  refine ⟨_, placed, ?_⟩
  rw [centered, ok_bind, focused, ok_bind, minors, ok_bind, placed, distance_real, ok_bind,
    square_real, ok_bind, ← focal, sq frame.focal, majors, ok_bind, ok_bind,
    right.focalDistances_point, ok_bind]
  dsimp only
  have nonneg : 0 ≤ minor * minor + frame.focal * frame.focal :=
    add_nonneg (mul_self_nonneg minor) (mul_self_nonneg frame.focal)
  rw [root_real nonneg] at majors
  rw [focal_sum (Except.ok.inj majors).symm t]
  congr 2
  norm_num

/-- The ends of an arc of a hyperbola lie on the hyperbola. -/
theorem hyperbola_incident {conic : ConicSlots} (centered : conic.center.vector read = .ok c)
    (focused : conic.focus.vector read = .ok f)
    (vanish : (Relation.hyperbolaArcRules conic ends).rows read = .ok [0, 0, 0, 0]) :
    ∀ slots ∈ [ends.start, ends.finish], ∃ p, slots.vector read = .ok p ∧
      (Relation.pointOnHyperbola slots conic).rows read = .ok [0] := by
  obtain ⟨frame, framed, right, rfl, focal, rfl⟩ := ConicFrame.of_eq_ok apart
  simp only [Relation.rows] at vanish ⊢
  rw [centered, ok_bind, focused, ok_bind, framed, ok_bind] at vanish
  obtain ⟨minor, minors, vanish⟩ := bind_eq_ok.mp vanish
  obtain ⟨major, majors, vanish⟩ := bind_eq_ok.mp vanish
  intro slots there
  obtain ⟨t, p, onCurve, placed⟩ := ArcEndSlots.on_curve vanish slots there
  cases onCurve
  refine ⟨_, placed, ?_⟩
  rw [centered, ok_bind, focused, ok_bind, minors, ok_bind, placed, distance_real, ok_bind,
    square_real, ok_bind, ← focal, sq frame.focal, majors, ok_bind, ok_bind,
    right.focalDistances_point, ok_bind]
  dsimp only
  rw [hyperbolicMajor_real] at majors
  have positive : 0 < frame.focal := focal ▸ smallestLength_pos.trans apart
  rw [magnitude_real, focal_difference positive (Except.ok.inj majors).symm t]
  congr 2
  norm_num

/-- The ends of an arc of a parabola lie on the parabola. -/
theorem parabola_incident {parabola : ParabolaSlots}
    (centered : parabola.vertex.vector read = .ok c)
    (focused : parabola.focus.vector read = .ok f)
    (vanish : (Relation.parabolaArcRules parabola ends).rows read = .ok [0, 0, 0, 0]) :
    ∀ slots ∈ [ends.start, ends.finish], ∃ p, slots.vector read = .ok p ∧
      (Relation.pointOnParabola slots parabola).rows read = .ok [0] := by
  obtain ⟨frame, framed, right, rfl, focal, rfl⟩ := ConicFrame.of_eq_ok apart
  simp only [Relation.rows] at vanish ⊢
  rw [centered, ok_bind, focused, ok_bind, framed, ok_bind] at vanish
  intro slots there
  obtain ⟨t, p, onCurve, placed⟩ := ArcEndSlots.on_curve vanish slots there
  cases onCurve
  refine ⟨_, placed, ?_⟩
  rw [centered, ok_bind, focused, ok_bind, framed, ok_bind, placed, ok_bind, distance_real, ok_bind,
    right.dot_along, right.norm_minus, sub_zero, larger_real, max_eq_left (focal ▸ apart.le)]
  have positive : 0 < frame.focal := focal ▸ smallestLength_pos.trans apart
  have four : (4.0 : ℝ) = 4 := by norm_num
  congr 2
  rw [ofScientific_real, four, focal_parabola positive, sub_self]

end Agreement

/-- An arc of a conic: the kinds that rule it and that put a point on it, its center or vertex, its
focus and its ends. -/
structure ConicArc where
  rules : BuiltinKind
  incidence : BuiltinKind
  center : View
  focus : View
  start : View
  finish : View

/-- A view as an arc of a conic. -/
def View.conicArc? (view : View) : Option ConicArc :=
  match view.figure with
  | .arcOfEllipse center focus start finish _ _ _ =>
    some ⟨.ellipseArcRules, .pointOnEllipse, center, focus, start, finish⟩
  | .arcOfHyperbola center focus start finish _ _ _ =>
    some ⟨.hyperbolaArcRules, .pointOnHyperbola, center, focus, start, finish⟩
  | .arcOfParabola vertex focus start finish _ _ =>
    some ⟨.parabolaArcRules, .pointOnParabola, vertex, focus, start, finish⟩
  | _ => none

/-- What has coordinates is a point. -/
theorem View.eq_point_of_vector {view : View} {read : SlotReader ℝ} {p : PlaneVector ℝ}
    (placed : view.slots.vector read = .ok p) : ∃ x y binding, view = ⟨.point x y, binding⟩ := by
  obtain ⟨figure, binding⟩ := view
  cases figure with
  | point x y => exact ⟨x, y, binding, rfl⟩
  | _ => cases placed

/-- The two descriptions of a conic agree over the reals. Of an arc whose focus does not lie at its
center, however its parameters are read, where the rules of the arc hold both of its ends lie on
the conic of the arc. -/
theorem View.ends_incident {arc : View} {conic : ConicArc} (curved : arc.conicArc? = some conic)
    (read : SlotReader ℝ) {c f : PlaneVector ℝ} (centered : conic.center.slots.vector read = .ok c)
    (focused : conic.focus.slots.vector read = .ok f) (apart : 1e-12 < (f.minus c).norm) :
    ∃ rules, conic.rules.relation? [.view arc] = some rules ∧
      (rules.rows read = .ok [0, 0, 0, 0] → ∀ tip ∈ [conic.start, conic.finish], ∃ incident,
        conic.incidence.relation? [.view tip, .view arc] = some incident ∧
          incident.rows read = .ok [0]) := by
  obtain ⟨figure, binding⟩ := arc
  cases figure with
  | arcOfEllipse center focus start finish startAngle endAngle minor =>
    cases curved
    refine ⟨_, rfl, fun vanish tip there => ?_⟩
    obtain ⟨p, placed, incident⟩ := ellipse_incident apart centered focused vanish tip.slots
      (List.mem_map_of_mem there)
    obtain ⟨x, y, own, rfl⟩ := View.eq_point_of_vector placed
    exact ⟨_, rfl, incident⟩
  | arcOfHyperbola center focus start finish startAngle endAngle minor =>
    cases curved
    refine ⟨_, rfl, fun vanish tip there => ?_⟩
    obtain ⟨p, placed, incident⟩ := hyperbola_incident apart centered focused vanish tip.slots
      (List.mem_map_of_mem there)
    obtain ⟨x, y, own, rfl⟩ := View.eq_point_of_vector placed
    exact ⟨_, rfl, incident⟩
  | arcOfParabola vertex focus start finish startAngle endAngle =>
    cases curved
    refine ⟨_, rfl, fun vanish tip there => ?_⟩
    obtain ⟨p, placed, incident⟩ := parabola_incident apart centered focused vanish tip.slots
      (List.mem_map_of_mem there)
    obtain ⟨x, y, own, rfl⟩ := View.eq_point_of_vector placed
    exact ⟨_, rfl, incident⟩
  | _ => cases curved

/-- An arc of an ellipse whose slots follow each other. -/
def halfEllipse : View :=
  ⟨.arcOfEllipse ⟨.point 0 1, none⟩ ⟨.point 2 3, none⟩ ⟨.point 4 5, none⟩ ⟨.point 6 7, none⟩ 8 9 10,
    none⟩

/-- The parameters of half an ellipse with radii five and four. -/
noncomputable def halfParameters : SlotReader ℝ := fun slot =>
  .ok ([0, 0, 3, 0, 5, 0, -5, 0, 0, Real.pi, 4].getD slot.toNat 0)

/-- The focal distance of the half is three. -/
theorem half_focal : ((⟨3, 0⟩ : PlaneVector ℝ).minus ⟨0, 0⟩).norm = 3 := by
  have square : ((3 : ℝ) - 0) ^ 2 + (0 - 0) ^ 2 = 3 ^ 2 := by norm_num
  exact (congrArg _ square).trans (Real.sqrt_sq (by norm_num))

/-- The rules of the half hold. -/
theorem half_rules :
    (Relation.ellipseArcRules ⟨.slots 0 1, .slots 2 3, 10⟩ ⟨.slots 4 5, .slots 6 7, 8, 9⟩).rows
      halfParameters = .ok [0, 0, 0, 0] := by
  have framed : ConicFrame.of (⟨0, 0⟩ : PlaneVector ℝ) ⟨3, 0⟩ =
      .ok ⟨⟨0, 0⟩, ⟨1, 0⟩, ⟨0, 1⟩, 3⟩ := by
    have away : ¬ atMost (3 : ℝ) smallestLength :=
      decide_eq_true_iff.not.mpr (not_le.mpr (by norm_num [smallestLength]))
    unfold ConicFrame.of
    dsimp only
    rw [PlaneVector.length_real, ok_bind, half_focal, if_neg away]
    simp [PlaneVector.dividedBy, PlaneVector.turned, PlaneVector.minus]
  have major : root ((4 : ℝ) * 4 + 3 * 3) = .ok 5 := by
    have square : (4 : ℝ) * 4 + 3 * 3 = 5 ^ 2 := by norm_num
    rw [root_real (by norm_num), square, Real.sqrt_sq (by norm_num)]
  show (ConicFrame.of (⟨0, 0⟩ : PlaneVector ℝ) ⟨3, 0⟩ >>= _) = _
  rw [framed, ok_bind]
  show (root ((4 : ℝ) * 4 + 3 * 3) >>= _) = _
  rw [major, ok_bind]
  show Except.ok
    [0 + 5 * Real.cos 0 * 1 + 4 * Real.sin 0 * 0 - 5,
      0 + 5 * Real.cos 0 * 0 + 4 * Real.sin 0 * 1 - 0,
      0 + 5 * Real.cos Real.pi * 1 + 4 * Real.sin Real.pi * 0 - -5,
      0 + 5 * Real.cos Real.pi * 0 + 4 * Real.sin Real.pi * 1 - 0] = _
  simp

/-- Half an ellipse begins and ends on the ellipse. -/
theorem half_ends_incident :
    ∃ rules, BuiltinKind.ellipseArcRules.relation? [.view halfEllipse] = some rules ∧
      rules.rows halfParameters = .ok [0, 0, 0, 0] ∧
      ∀ tip ∈ ([⟨.point 4 5, none⟩, ⟨.point 6 7, none⟩] : List View), ∃ incident,
        BuiltinKind.pointOnEllipse.relation? [.view tip, .view halfEllipse] = some incident ∧
          incident.rows halfParameters = .ok [0] := by
  obtain ⟨rules, stated, incident⟩ := @View.ends_incident halfEllipse _ rfl halfParameters ⟨0, 0⟩
    ⟨3, 0⟩ rfl rfl (by rw [half_focal]; norm_num)
  cases stated
  exact ⟨_, rfl, half_rules, incident half_rules⟩

end Drafting
