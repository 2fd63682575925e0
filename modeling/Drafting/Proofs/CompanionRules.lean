import Drafting.Proofs.RequestEffects

/-!
# Rules live and die with their geometry

The constraint that rules an arc or an open spline is registered right after it, under its tag, and
nowhere is it written down that the two belong together. They stay together all the same: what is
removed is removed by its tag, in both lists alike, and no identifier is used a second time. Only a
removal that stops between the two lists can tear them apart.
-/

namespace Drafting

namespace Request

variable {request : Request}

/-- Whether a request removes constraints and geometries alike: a removal whose tag equals an
integer reads its tag as well. -/
def RemovesAlike (request : Request) : Prop :=
  ∀ n, request.removesConstraint n → request.readsTag

/-- Such a request removes geometries of a tag exactly if it removes constraints of it. -/
theorem RemovesAlike.removesGeometry (alike : request.RemovesAlike) (n : Int) :
    request.removesGeometry n = request.removesConstraint n := by
  unfold Request.removesGeometry
  cases removes : request.removesConstraint n with
  | false => rfl
  | true => exact alike n removes

/-- Only the removal of an array can tear apart what belongs together. -/
theorem removesAlike_of_isTag (isTag : ∀ tag, request = .removeTag tag → tag.IsTag) :
    request.RemovesAlike := by
  intro n removes
  cases request with
  | removeTag tag =>
    have equals : affirmed (tag.equalsInteger n) = true := removes
    rw [(isTag tag rfl).equalsInteger] at equals
    have key : tag.integerKey? = some n := of_decide_eq_true equals
    show tag.toInteger.isOk = true
    cases read : tag.toInteger with
    | ok number => rfl
    | error fault =>
      rw [Value.integerKey?_of_unread read] at key
      cases key
  | _ => rfl

end Request

namespace Sketch

variable {sketch : Sketch} {entry : GeometryEntry} {request : Request}

/-- Every registered geometry that has rules is accompanied by the constraint that states them. -/
def Accompanied (sketch : Sketch) : Prop :=
  ∀ entry ∈ sketch.table.entries, ∀ kind, entry.view.figure.rules? = some kind →
    ∃ c ∈ sketch.constraints, c.Rules kind entry

/-- Nothing is registered in a new sketch. -/
theorem accompanied_start (identity : Nat) (options : SolveOptions) (journal : Journal) :
    (start identity options journal).Accompanied := List.forall_mem_nil _

/-- Every request that removes alike keeps the registered geometries accompanied. -/
theorem Accompanied.after (accompanied : sketch.Accompanied) (ready : sketch.Ready)
    (alike : request.RemovesAlike) : (sketch.after request).Accompanied := by
  have effect := request.effect ready
  generalize (request.perform.outcome sketch).1 = answer at effect
  generalize sketch.after request = after at effect ⊢
  intro entry there kind stated
  cases effect with
  | idle idle =>
    rw [idle.entries] at there
    rw [idle.constraints]
    exact accompanied entry there kind stated
  | @drawn _ new companion _ _ _ named companions _ _ entries constraints =>
    rw [entries] at there
    rw [constraints]
    rcases List.mem_append.mp there with before | last
    · obtain ⟨c, registered, rules⟩ := accompanied entry before kind stated
      exact ⟨c, List.mem_append_left _ registered, rules⟩
    · obtain rfl := List.mem_singleton.mp last
      rw [named.symm.trans stated] at companions
      cases companions with
      | some rules => exact ⟨_, List.mem_append_right _ List.mem_cons_self, rules⟩
  | constrained _ _ _ _ entries constraints =>
    rw [entries] at there
    rw [constraints]
    obtain ⟨c, registered, rules⟩ := accompanied entry there kind stated
    exact ⟨c, List.mem_append_left _ registered, rules⟩
  | dropped _ entries constraints =>
    rw [entries] at there
    rw [constraints]
    obtain ⟨before, stays⟩ := List.mem_filter.mp there
    rw [alike.removesGeometry] at stays
    obtain ⟨c, registered, rules⟩ := accompanied entry before kind stated
    exact ⟨c, List.mem_filter.mpr ⟨registered, rules.tag ▸ stays⟩, rules⟩

/-- Every sketch that such requests leave has its geometries accompanied. -/
theorem accompanied_afterAll {requests : List Request}
    (alike : ∀ request ∈ requests, request.RemovesAlike) (ready : sketch.Ready)
    (accompanied : sketch.Accompanied) : (sketch.afterAll requests).Accompanied :=
  ready.invariant_afterAll alike (fun ready alike held => held.after ready alike) accompanied

/-- A geometry with rules that was registered still is, or its identifier names nothing any more and
neither does the next one, which the constraint had. -/
structure LeftTogether (sketch : Sketch) (entry : GeometryEntry) : Prop where
  used : entry.id + 1 < sketch.table.nextId
  both : entry ∈ sketch.table.entries ∨
    (∀ other ∈ sketch.table.entries, other.id ≠ entry.id) ∧
      ∀ c ∈ sketch.constraints, c.id ≠ entry.id + 1

/-- Of two registered geometries with one identifier each is the other. -/
theorem Numbered.entry_unique (numbered : sketch.Numbered) {other : GeometryEntry}
    (there : entry ∈ sketch.table.entries) (among : other ∈ sketch.table.entries)
    (same : other.id = entry.id) : other = entry := by
  have found := numbered.find?_entry among
  rw [same, numbered.find?_entry there] at found
  exact (Option.some.inj found).symm

/-- Of two registered constraints with one identifier each is the other. -/
theorem Numbered.constraint_unique (numbered : sketch.Numbered) {c other : Constraint}
    (there : c ∈ sketch.constraints) (among : other ∈ sketch.constraints)
    (same : other.id = c.id) : other = c := by
  have found := numbered.constraint?_id among
  rw [same, numbered.constraint?_id there] at found
  exact (Option.some.inj found).symm

/-- A registered geometry with rules is left with them. -/
theorem Accompanied.leftTogether (accompanied : sketch.Accompanied) (numbered : sketch.Numbered)
    {kind : BuiltinKind} (stated : entry.view.figure.rules? = some kind)
    (there : entry ∈ sketch.table.entries) : sketch.LeftTogether entry := by
  obtain ⟨c, registered, rules⟩ := accompanied entry there kind stated
  exact ⟨rules.id ▸ numbered.constraints c registered, .inl there⟩

/-- Every request that removes alike leaves a geometry together with its rules. -/
theorem LeftTogether.after (left : sketch.LeftTogether entry) {kind : BuiltinKind}
    (stated : entry.view.figure.rules? = some kind) (accompanied : sketch.Accompanied)
    (ready : sketch.Ready) (alike : request.RemovesAlike) :
    (sketch.after request).LeftTogether entry := by
  obtain ⟨used, both⟩ := left
  have effect := request.effect ready
  generalize (request.perform.outcome sketch).1 = answer at effect
  generalize sketch.after request = after at effect ⊢
  cases effect with
  | idle idle =>
    refine ⟨Nat.lt_of_lt_of_le used idle.later, ?_⟩
    rw [idle.entries, idle.constraints]
    exact both
  | @drawn _ new companion _ next _ _ companions _ _ entries constraints later =>
    refine ⟨by omega, ?_⟩
    rw [entries, constraints]
    refine both.imp (List.mem_append_left _) fun ⟨noEntry, noConstraint⟩ => ⟨?_, ?_⟩
    · intro other there
      rcases List.mem_append.mp there with before | last
      · exact noEntry other before
      · rw [List.mem_singleton.mp last]
        omega
    · intro c there
      rcases List.mem_append.mp there with before | last
      · exact noConstraint c before
      · obtain ⟨kind, -, rules⟩ := rules_of_mem companions last
        rw [rules.id]
        omega
  | @constrained _ new _ _ _ _ _ _ _ _ _ next _ _ entries constraints later =>
    refine ⟨by omega, ?_⟩
    rw [entries, constraints]
    refine both.imp_right fun ⟨noEntry, noConstraint⟩ => ⟨noEntry, fun c there => ?_⟩
    rcases List.mem_append.mp there with before | last
    · exact noConstraint c before
    · rw [List.mem_singleton.mp last]
      omega
  | dropped _ entries constraints later =>
    refine ⟨later ▸ used, ?_⟩
    rw [entries, constraints]
    simp only [alike.removesGeometry]
    rcases both with there | ⟨noEntry, noConstraint⟩
    · by_cases gone : request.removesConstraint entry.tag
      · -- The tag is that of the constraint as well, so both go.
        refine .inr ⟨fun other among same => ?_, fun c among same => ?_⟩
        · obtain ⟨before, stays⟩ := List.mem_filter.mp among
          rw [ready.entry_unique there before same, gone] at stays
          cases stays
        · obtain ⟨before, stays⟩ := List.mem_filter.mp among
          obtain ⟨ruling, registered, rules⟩ := accompanied entry there kind stated
          rw [ready.constraint_unique registered before (same.trans rules.id.symm), rules.tag,
            gone] at stays
          cases stays
      · exact .inl (List.mem_filter.mpr ⟨there, by simpa using gone⟩)
    · exact .inr ⟨fun other among => noEntry other (List.mem_of_mem_filter among),
        fun c among => noConstraint c (List.mem_of_mem_filter among)⟩

/-- A geometry that is left together with its rules and no longer found is gone with them. -/
theorem LeftTogether.gone (left : sketch.LeftTogether entry) (numbered : sketch.Numbered)
    (missing : sketch.table.find? entry.id = none) : sketch.constraint? (entry.id + 1) = none := by
  rcases left.both with there | ⟨-, noConstraint⟩
  · rw [numbered.find?_entry there] at missing
    cases missing
  · unfold constraint?
    rw [List.find?_eq_none]
    intro c among same
    exact noConstraint c among (by exact_mod_cast of_decide_eq_true same)

/-- Requests that remove alike leave a geometry together with its rules. -/
theorem LeftTogether.afterAll {requests : List Request} (left : sketch.LeftTogether entry)
    {kind : BuiltinKind} (stated : entry.view.figure.rules? = some kind)
    (accompanied : sketch.Accompanied) (ready : sketch.Ready)
    (alike : ∀ request ∈ requests, request.RemovesAlike) :
    (sketch.afterAll requests).LeftTogether entry := by
  have both : (sketch.afterAll requests).Accompanied ∧
      (sketch.afterAll requests).LeftTogether entry := by
    refine @Ready.invariant_afterAll _ (fun sketch =>
      sketch.Accompanied ∧ sketch.LeftTogether entry) _ _ ready alike ?_ ⟨accompanied, left⟩
    rintro _ _ ready alike ⟨accompanied, left⟩
    exact ⟨accompanied.after ready alike, left.after stated accompanied ready alike⟩
  exact both.2

/-- What a drawing request that is answered registers: a geometry of its kind, and the constraint
that rules it just where the request has rules. -/
theorem registers_of_answered (ready : sketch.Ready) {id : Nat}
    (draws : request.draws?.isSome)
    (answered : (request.perform.outcome sketch).1 = .ok (.id id)) :
    ∃ (entry : GeometryEntry) (companion : Option Constraint), entry.id = id ∧
      request.draws? = some entry.view.kind ∧ entry.view.figure.rules? = request.rules? ∧
      Option.Rel (fun kind c => c.Rules kind entry) request.rules? companion ∧
      (sketch.after request).table.entries = sketch.table.entries ++ [entry] ∧
      (sketch.after request).constraints = sketch.constraints ++ companion.toList := by
  have adds : request.adds := Request.adds_of_draws draws
  have effect := request.effect ready
  rw [answered] at effect
  generalize sketch.after request = after at effect ⊢
  generalize told : (Except.ok (Answer.id id) : Except Fault Answer) = answer at effect
  cases effect with
  | idle _ refused =>
    obtain ⟨fault, failed⟩ := refused adds
    cases told.trans failed
  | drawn _ drawn stated accompanied _ _ entries constraints =>
    cases told
    exact ⟨_, _, rfl, drawn, stated, accompanied, entries, constraints⟩
  | constrained asked =>
    rw [asked] at draws
    cases draws
  | dropped others => cases others.symm.trans adds

/-- In every sketch that requests leave, each geometry that has rules is accompanied by the
constraint that states them: under the identifier after its own, with its tag, driving and not
temporary, and with its registered view for the only operand. Once a geometry that had rules is
gone, so is that constraint. A request that draws registers rules for what it draws exactly if it
draws an arc or a spline that is not periodic. All this holds as long as no removal is handed a tag
that equals an integer and cannot be read as one. -/
theorem rules_accompany (identity : Nat) (options : SolveOptions) (journal : Journal)
    {requests : List Request} (alike : ∀ request ∈ requests, request.RemovesAlike) :
    let first := start identity options journal
    let sketch := first.afterAll requests
    (∀ entry ∈ sketch.table.entries, ∀ kind, entry.view.figure.rules? = some kind →
        ∃ c, sketch.constraint? (entry.id + 1) = some c ∧ c.Rules kind entry) ∧
      (∀ earlier later, requests = earlier ++ later →
        ∀ entry ∈ (first.afterAll earlier).table.entries, entry.view.figure.rules?.isSome →
          sketch.table.find? entry.id = none → sketch.constraint? (entry.id + 1) = none) ∧
      ∀ request : Request, request.draws?.isSome →
        ∀ id, (request.perform.outcome sketch).1 = .ok (.id id) →
          ∃ (entry : GeometryEntry) (companion : Option Constraint), entry.id = id ∧
            request.draws? = some entry.view.kind ∧ entry.view.figure.rules? = request.rules? ∧
            Option.Rel (fun kind c => c.Rules kind entry) request.rules? companion ∧
            (sketch.after request).table.entries = sketch.table.entries ++ [entry] ∧
            (sketch.after request).constraints = sketch.constraints ++ companion.toList := by
  intro first sketch
  have begins : first.Ready := ready_start identity options journal
  have ready : sketch.Ready := begins.afterAll requests
  have accompanied : sketch.Accompanied :=
    accompanied_afterAll alike begins (accompanied_start identity options journal)
  refine ⟨fun entry there kind stated => ?_, ?_, ?_⟩
  · obtain ⟨c, registered, rules⟩ := accompanied entry there kind stated
    refine ⟨c, ?_, rules⟩
    have found := ready.constraint?_id registered
    rw [rules.id] at found
    exact found
  · rintro earlier later rfl entry there ruled missing
    obtain ⟨kind, stated⟩ := Option.isSome_iff_exists.mp ruled
    obtain ⟨before, since⟩ := List.forall_mem_append.mp alike
    have past := begins.afterAll earlier
    have held := accompanied_afterAll before begins (accompanied_start identity options journal)
    have left := (held.leftTogether past.toNumbered stated there).afterAll stated held past since
    rw [show (first.afterAll earlier).afterAll later = sketch from
      (List.foldl_append ..).symm] at left
    exact left.gone ready.toNumbered missing
  · exact fun request draws id answered => registers_of_answered ready draws answered

/-- Requests that draw an arc over three points, under a tag of its own. -/
def arcRequests : List Request :=
  [.addPoint (.int 0) (.int 0) (.bool false) (.int 0),
    .addPoint (.int 1) (.int 0) (.bool false) (.int 0),
    .addPoint (.int 0) (.int 1) (.bool false) (.int 0),
    .addArc (.int 0) (.int 1) (.int 2) (.int 0) (.int 1) (.int 1) (.bool false) (.int 7)]

/-- The arc that these requests draw has its rules, and once its tag is removed it has gone with
them. -/
theorem rules_accompany_removedArc :
    (∀ request ∈ arcRequests ++ [.removeTag (.int 7)], request.RemovesAlike) ∧
      (((start 0 .standard .silent).afterAll arcRequests).constraint? 4).map (·.kind) =
        some "arc_rules" ∧
      ((start 0 .standard .silent).afterAll
        (arcRequests ++ [.removeTag (.int 7)])).constraint? 4 = none := by
  have alike : ∀ request ∈ arcRequests ++ [.removeTag (.int 7)], request.RemovesAlike := by
    intro request there
    refine Request.removesAlike_of_isTag fun tag same => ?_
    subst same
    simp only [arcRequests, List.cons_append, List.nil_append, List.mem_cons, List.not_mem_nil,
      or_false, reduceCtorEq, false_or, Request.removeTag.injEq] at there
    rw [there]
    trivial
  have missing : ((start 0 .standard .silent).afterAll
      (arcRequests ++ [.removeTag (.int 7)])).table.find? 3 = none := by decide +kernel
  have drawn : (((start 0 .standard .silent).afterAll arcRequests).table.find? 3).map
      (·.view.figure.rules?) = some (some .arcRules) := by decide +kernel
  obtain ⟨entry, found, ruled⟩ := Option.map_eq_some_iff.mp drawn
  obtain ⟨there, same⟩ := GeometryTable.find?_eq_some found
  have gone := (rules_accompany 0 .standard .silent alike).2.1 arcRequests
    [.removeTag (.int 7)] rfl entry there (by rw [ruled]; rfl) (by rw [same]; exact missing)
  rw [same] at gone
  exact ⟨alike, by decide +kernel, gone⟩

/-- An array with the tag for its only entry equals the tag of the arc and of its rules, so that the
rules are removed. Then it is refused as an integer, and the arc stays without them. -/
theorem array_removes_rules_only :
    ¬((start 0 .standard .silent).afterAll
      (arcRequests ++ [.removeTag (.array [1] [7.0])])).Accompanied := by
  have drawn : (((start 0 .standard .silent).afterAll
      (arcRequests ++ [.removeTag (.array [1] [7.0])])).table.find? 3).map
        (·.view.figure.rules?) = some (some .arcRules) := by decide +kernel
  have unruled : ((start 0 .standard .silent).afterAll
      (arcRequests ++ [.removeTag (.array [1] [7.0])])).constraints.length = 0 := by
    decide +kernel
  obtain ⟨entry, found, ruled⟩ := Option.map_eq_some_iff.mp drawn
  intro accompanied
  obtain ⟨c, registered, -⟩ :=
    accompanied entry (GeometryTable.find?_eq_some found).1 .arcRules ruled
  rw [List.length_eq_zero_iff.mp unruled] at registered
  cases registered

end Sketch

end Drafting
