import StackShell.Proofs.Limit
import StackShell.Proofs.Simulation

/-!
# Programs that mean the same

A loop means the same as a conditional that runs its body once and then the loop; a conditional with
several branches means the same as one with the first branch only, with the others in a conditional
of their own; and a body that is pushed as a function and called at once means the same as the body
itself. Two programs mean the same if they come to the same outcomes on every state, failures with
their places and everything that was put out included, but not the count of statements begun. The
failures of a body that is called are given the place of the call where they have none.

The longer program of each pair nests its parts one deeper at some point, so the bound on their
depth may end its run where the other one goes on. `Environment.Rewrites` sets that aside: what the
shorter program comes to within the bound the longer one comes to within a bound greater by one, and
what the longer one comes to within the bound the shorter one does as well.

The proofs compare evaluations: an evaluation of one program is taken apart by its rules and put
together again as one of the other program. Where the two begin a different number of statements,
the rest of the evaluation is moved to another count.
-/

namespace StackShell

/-! ## What work yields -/

/-- The outcome that work comes to in a whole run, apart from the count of statements begun. -/
def Yields (env : Environment) (room : Nat) (w : Work) (s : State) (o : Outcome) : Prop :=
  ∃ e, Evaluates env room w s e ∧ e.outcome.uncounted = o

section

variable {env : Environment} {room : Nat} {w : Work} {s t : State} {o : Outcome}

theorem Ending.Related.outcome {e e' : Ending} (h : e.Related State.Recounted e') :
    e.outcome.uncounted = e'.outcome.uncounted := by
  cases e with
  | through s =>
    obtain ⟨t, rfl, hs, -⟩ := h.of_through
    rw [hs]
    rfl
  | broken failure chain s =>
    obtain ⟨t, rfl, hs, -⟩ := h.of_broken
    rw [hs]
    rfl

theorem yields_counting (h : env.Steady) (hs : s.cancelled = false) (n : Nat) :
    Yields env room w (s.counting n) o ↔ Yields env room w s o := by
  have hthere : (s.counting n).Recounted s := ⟨rfl, hs⟩
  have hback : s.Recounted (s.counting n) := ⟨rfl, hs⟩
  constructor
  · rintro ⟨e, he, rfl⟩
    obtain ⟨e', he', hrelated⟩ := he.simulate h.simulation hthere
    exact ⟨e', he', hrelated.outcome.symm⟩
  · rintro ⟨e, he, rfl⟩
    obtain ⟨e', he', hrelated⟩ := he.simulate h.simulation hback
    exact ⟨e', he', hrelated.outcome.symm⟩

/-- Work that goes through has not asked the run to stop. -/
theorem Evaluates.calm (h : env.Steady) (hs : s.cancelled = false)
    (he : Evaluates env room w s (.through t)) : t.cancelled = false := by
  have hsame : s.Recounted s := ⟨rfl, hs⟩
  obtain ⟨e', -, hrelated⟩ := he.simulate h.simulation hsame
  obtain ⟨t', -, ht, hcalm⟩ := hrelated.of_through
  rw [ht]
  exact hcalm

/-- A program is evaluated by parts: the second part runs if the first one goes through. -/
theorem evaluates_append {first second : Program} {e : Ending} :
    Evaluates env room (.program (first ++ second)) s e ↔
      (∃ failure chain t, e = .broken failure chain t ∧
        Evaluates env room (.program first) s (.broken failure chain t)) ∨
      ∃ t, Evaluates env room (.program first) s (.through t) ∧
        Evaluates env room (.program second) t e := by
  induction first generalizing s with
  | nil =>
    constructor
    · intro h
      exact .inr ⟨s, .nil, h⟩
    · rintro (⟨failure, chain, t, -, h⟩ | ⟨t, h, hsecond⟩)
      · cases h
      · cases h
        exact hsecond
  | cons statement first ih =>
    constructor
    · intro h
      -- where the first part breaks off, the second one is not reached
      cases h with
      | refused hstart => exact .inl ⟨_, _, _, rfl, .refused hstart⟩
      | breaks hstart hfirst => exact .inl ⟨_, _, _, rfl, .breaks hstart hfirst⟩
      | next hstart hfirst hrest =>
        rcases ih.1 hrest with ⟨failure, chain, t, rfl, hbroken⟩ | ⟨t, hthrough, hsecond⟩
        · exact .inl ⟨_, _, _, rfl, .next hstart hfirst hbroken⟩
        · exact .inr ⟨t, .next hstart hfirst hthrough, hsecond⟩
    · rintro (⟨failure, chain, t, rfl, h⟩ | ⟨t, h, hsecond⟩)
      · cases h with
        | refused hstart => exact .refused hstart
        | breaks hstart hfirst => exact .breaks hstart hfirst
        | next hstart hfirst hrest =>
          exact .next hstart hfirst (ih.2 (.inl ⟨_, _, _, rfl, hrest⟩))
      · cases h with
        | next hstart hfirst hrest =>
          exact .next hstart hfirst (ih.2 (.inr ⟨t, hrest, hsecond⟩))

/-- The first statement of a program always begins; it is counted, and the others run if it goes
through. -/
theorem evaluates_cons (h : env.Steady) (hs : s.cancelled = false) {statement : Statement}
    {rest : Program} {e : Ending} :
    Evaluates env room (.program (statement :: rest)) s e ↔
      (∃ failure chain t, e = .broken failure chain t ∧
        Evaluates env room (.statement statement) (s.counting (s.steps + 1))
          (.broken failure chain t)) ∨
      ∃ t, Evaluates env room (.statement statement) (s.counting (s.steps + 1)) (.through t) ∧
        Evaluates env room (.program rest) t e := by
  have hbegins := h.start hs statement
  constructor
  · intro he
    cases he with
    | refused hstart =>
      rw [hbegins] at hstart
      cases hstart
    | breaks hstart hbroken =>
      rw [hbegins] at hstart
      cases hstart
      exact .inl ⟨_, _, _, rfl, hbroken⟩
    | next hstart hthrough hrest =>
      rw [hbegins] at hstart
      cases hstart
      exact .inr ⟨_, hthrough, hrest⟩
  · rintro (⟨failure, chain, t, rfl, hbroken⟩ | ⟨t, hthrough, hrest⟩)
    · exact .breaks hbegins hbroken
    · exact .next hbegins hthrough hrest

/-- A program of one statement yields what the statement does. -/
theorem yields_single (h : env.Steady) (hs : s.cancelled = false) (statement : Statement) :
    Yields env room (.program [statement]) s o ↔ Yields env room (.statement statement) s o := by
  -- in the program the statement has been counted when it runs
  rw [← yields_counting (w := .statement statement) h hs (s.steps + 1)]
  constructor
  · rintro ⟨e, he, rfl⟩
    rcases (evaluates_cons h hs).1 he with
      ⟨failure, chain, t, rfl, hbroken⟩ | ⟨t, hthrough, hnothing⟩
    · exact ⟨_, hbroken, rfl⟩
    · cases hnothing
      exact ⟨_, hthrough, rfl⟩
  · rintro ⟨e, he, rfl⟩
    cases e with
    | through t => exact ⟨_, (evaluates_cons h hs).2 (.inr ⟨t, he, .nil⟩), rfl⟩
    | broken failure chain t =>
      exact ⟨_, (evaluates_cons h hs).2 (.inl ⟨failure, chain, t, rfl, he⟩), rfl⟩

/-- A statement without a place leaves the outcome of the work in it as it is. -/
theorem Ending.outcome_under {statement : Statement} (hplace : statement.place? = none)
    (e : Ending) : (e.under statement).outcome = e.outcome := by
  cases e with
  | through s => rfl
  | broken failure chain s =>
    simp only [under, outcome, Failure.locateBy_concat, Statement.locate, hplace]

/-! ## Room -/

/-- Whether a run did not end for lack of room. -/
def Outcome.WithinDepth (o : Outcome) : Prop :=
  ∀ s, o ≠ .failed (.fault .depth) s

/-- No statement makes a fault of another failure. -/
theorem Failure.locateBy_eq_fault {failure : Failure} {chain : List Statement} {problem : Fault}
    (h : failure.locateBy chain = .fault problem) : failure = .fault problem := by
  induction chain generalizing failure with
  | nil => exact h
  | cons statement chain ih =>
    have hfirst : statement.locate failure = .fault problem := ih h
    unfold Statement.locate at hfirst
    split at hfirst
    · cases failure with
      | fault other => exact hfirst
      | script cause given =>
        cases given with
        | some given => exact hfirst
        | none =>
          unfold Failure.locate at hfirst
          split at hfirst <;> cases hfirst
    · exact hfirst

theorem Ending.withinDepth_iff {e : Ending} :
    e.outcome.uncounted.WithinDepth ↔ e.WithinDepth := by
  cases e with
  | through s => exact ⟨fun _ => .through s, fun _ => nofun⟩
  | broken failure chain s =>
    constructor
    · rintro h chain' s' heq
      cases heq
      exact h _ (congrArg (Outcome.failed · _)
        (Failure.locateBy_eq_self (fun _ => rfl) chain))
    · intro h s' heq
      rw [Failure.locateBy_eq_fault (Outcome.failed.inj heq).1] at h
      exact h _ _ rfl

/-- What work comes to that did not end for lack of room it comes to with more room, too. -/
theorem Yields.with_more_room {more : Nat} (h : Yields env room w s o) (hdepth : o.WithinDepth)
    (hmore : room ≤ more) : Yields env more w s o := by
  obtain ⟨e, he, rfl⟩ := h
  exact ⟨e, he.with_more_room (Ending.withinDepth_iff.1 hdepth) hmore, rfl⟩

/-- A loop needs room for its condition and its body. -/
theorem yields_whileLoop (h : env.Steady) (hs : s.cancelled = false) (hdepth : o.WithinDepth)
    {condition body : Program} :
    Yields env room (.program [.whileLoop condition body]) s o ↔
      ∃ less, room = less + 1 ∧ Yields env less (.loop condition body) s o := by
  rw [yields_single h hs]
  constructor
  · rintro ⟨_, he, rfl⟩
    cases he with
    | act hact => cases hact
    | loopTooDeep => exact absurd rfl (Ending.withinDepth_iff.1 hdepth _ _)
    | whileLoop he => exact ⟨_, rfl, _, he, by rw [Ending.outcome_under rfl]⟩
  · rintro ⟨less, rfl, _, he, rfl⟩
    exact ⟨_, .whileLoop he, by rw [Ending.outcome_under rfl]⟩

/-- A conditional needs room for its conditions and its parts. -/
theorem yields_conditional (h : env.Steady) (hs : s.cancelled = false) (hdepth : o.WithinDepth)
    {branches : List Branch} {otherwise : Option Program} :
    Yields env room (.program [.conditional branches otherwise]) s o ↔
      ∃ less, room = less + 1 ∧ Yields env less (.branches branches otherwise) s o := by
  rw [yields_single h hs]
  constructor
  · rintro ⟨_, he, rfl⟩
    cases he with
    | act hact => cases hact
    | conditionalTooDeep => exact absurd rfl (Ending.withinDepth_iff.1 hdepth _ _)
    | conditional he => exact ⟨_, rfl, _, he, by rw [Ending.outcome_under rfl]⟩
  · rintro ⟨less, rfl, _, he, rfl⟩
    exact ⟨_, .conditional he, by rw [Ending.outcome_under rfl]⟩

/-! ## The rewrites -/

/-- A loop that comes round does what a conditional does with the body and the loop again. -/
theorem Yields.unfold_loop (h : env.Steady) (hs : s.cancelled = false) (hdepth : o.WithinDepth)
    {condition body : Program} (hloop : Yields env room (.loop condition body) s o) :
    Yields env (room + 1)
      (.branches [.mk condition (body ++ [.whileLoop condition body])] none) s o := by
  have hround := h.round hs (.whileLoop condition body)
  have hstays : ∀ {t}, (Act.round (.whileLoop condition body)).perform env s = .done t → t = s := by
    intro t ht
    rw [hround] at ht
    cases ht
    rfl
  obtain ⟨e, he, rfl⟩ := hloop
  have hwithin := Ending.withinDepth_iff.1 hdepth
  have hmore : room ≤ room + 1 := Nat.le_succ room
  cases he with
  | loopRefused hrefused =>
    rw [hround] at hrefused
    cases hrefused
  | loopConditionBreaks hagain hcondition =>
    obtain rfl := hstays hagain
    exact ⟨_, .conditionBreaks (hcondition.with_more_room hwithin hmore), rfl⟩
  | loopUndecided hagain hcondition hpop =>
    obtain rfl := hstays hagain
    exact ⟨_, .undecided (hcondition.with_more_room (.through _) hmore) hpop, rfl⟩
  | left hagain hcondition hpop =>
    obtain rfl := hstays hagain
    exact ⟨_, .passed (hcondition.with_more_room (.through _) hmore) hpop .skipped, rfl⟩
  | bodyBreaks hagain hcondition hpop hbody =>
    obtain rfl := hstays hagain
    have hbroken := hbody.with_more_room hwithin hmore
    exact ⟨_, .taken (hcondition.with_more_room (.through _) hmore) hpop
      (evaluates_append.2 (.inl ⟨_, _, _, rfl, hbroken⟩)), rfl⟩
  | again hagain hcondition hpop hbody hloop =>
    obtain rfl := hstays hagain
    -- the loop that is left runs as the last statement of the body, within the conditional
    have hcalm := hbody.calm h (State.popBoolean_calm (hcondition.calm h hs) hpop)
    obtain ⟨e', hwhile, houtcome⟩ :=
      (yields_whileLoop h hcalm hdepth).2 ⟨room, rfl, _, hloop, rfl⟩
    have hthrough := hbody.with_more_room (.through _) hmore
    exact ⟨e', .taken (hcondition.with_more_room (.through _) hmore) hpop
      (evaluates_append.2 (.inr ⟨_, hthrough, hwhile⟩)), houtcome⟩

/-- A conditional with a body and a loop does what the loop does when it comes round. -/
theorem Yields.fold_loop (h : env.Steady) (hs : s.cancelled = false) (hdepth : o.WithinDepth)
    {condition body : Program}
    (hbranches : Yields env room
      (.branches [.mk condition (body ++ [.whileLoop condition body])] none) s o) :
    Yields env room (.loop condition body) s o := by
  have hround := h.round hs (.whileLoop condition body)
  obtain ⟨e, he, rfl⟩ := hbranches
  cases he with
  | conditionBreaks hcondition => exact ⟨_, .loopConditionBreaks hround hcondition, rfl⟩
  | undecided hcondition hpop => exact ⟨_, .loopUndecided hround hcondition hpop, rfl⟩
  | passed hcondition hpop hnone =>
    cases hnone
    exact ⟨_, .left hround hcondition hpop, rfl⟩
  | taken hcondition hpop hbody =>
    rcases evaluates_append.1 hbody with ⟨failure, chain, t, rfl, hbroken⟩ | ⟨t, hthrough, hwhile⟩
    · exact ⟨_, .bodyBreaks hround hcondition hpop hbroken, rfl⟩
    · have hcalm := hthrough.calm h (State.popBoolean_calm (hcondition.calm h hs) hpop)
      obtain ⟨less, rfl, hloop⟩ := (yields_whileLoop h hcalm hdepth).1 ⟨_, hwhile, rfl⟩
      obtain ⟨e', hagain, houtcome⟩ := hloop.with_more_room hdepth (Nat.le_succ less)
      exact ⟨e', .again hround hcondition hpop hthrough hagain, houtcome⟩

/-- The branches behind the first one may stand in a conditional of their own. -/
theorem Yields.nest_branches (h : env.Steady) (hs : s.cancelled = false) (hdepth : o.WithinDepth)
    {first : Branch} {others : List Branch} {otherwise : Option Program}
    (hbranches : Yields env room (.branches (first :: others) otherwise) s o) :
    Yields env (room + 1) (.branches [first] (some [.conditional others otherwise])) s o := by
  obtain ⟨e, he, rfl⟩ := hbranches
  have hwithin := Ending.withinDepth_iff.1 hdepth
  have hmore : room ≤ room + 1 := Nat.le_succ room
  cases he with
  | conditionBreaks hcondition =>
    exact ⟨_, .conditionBreaks (hcondition.with_more_room hwithin hmore), rfl⟩
  | undecided hcondition hpop =>
    exact ⟨_, .undecided (hcondition.with_more_room (.through _) hmore) hpop, rfl⟩
  | taken hcondition hpop hbody =>
    exact ⟨_, .taken (hcondition.with_more_room (.through _) hmore) hpop
      (hbody.with_more_room hwithin hmore), rfl⟩
  | passed hcondition hpop hothers =>
    -- the other branches are reached through one more statement
    have hcalm := State.popBoolean_calm (hcondition.calm h hs) hpop
    obtain ⟨e', hnested, houtcome⟩ :=
      (yields_conditional h hcalm hdepth).2 ⟨room, rfl, _, hothers, rfl⟩
    exact ⟨e', .passed (hcondition.with_more_room (.through _) hmore) hpop (.otherwise hnested),
      houtcome⟩

/-- The branches of a conditional that stands behind the last branch of another one may follow that
branch. -/
theorem Yields.join_branches (h : env.Steady) (hs : s.cancelled = false) (hdepth : o.WithinDepth)
    {first : Branch} {others : List Branch} {otherwise : Option Program}
    (hbranches : Yields env room (.branches [first] (some [.conditional others otherwise])) s o) :
    Yields env room (.branches (first :: others) otherwise) s o := by
  obtain ⟨e, he, rfl⟩ := hbranches
  cases he with
  | conditionBreaks hcondition => exact ⟨_, .conditionBreaks hcondition, rfl⟩
  | undecided hcondition hpop => exact ⟨_, .undecided hcondition hpop, rfl⟩
  | taken hcondition hpop hbody => exact ⟨_, .taken hcondition hpop hbody, rfl⟩
  | passed hcondition hpop hnested =>
    have hcalm := State.popBoolean_calm (hcondition.calm h hs) hpop
    cases hnested with
    | otherwise hnested =>
      obtain ⟨less, rfl, hothers⟩ := (yields_conditional h hcalm hdepth).1 ⟨_, hnested, rfl⟩
      obtain ⟨e', hlater, houtcome⟩ := hothers.with_more_room hdepth (Nat.le_succ less)
      exact ⟨e', .passed hcondition hpop hlater, houtcome⟩

end

/-- An outcome whose failure is given a place, if it has none. -/
def Outcome.locate (place : Location) : Outcome → Outcome
  | .done s => .done s
  | .failed failure s => .failed (failure.locate place) s

section

variable {env : Environment} {room : Nat} {s : State} {o : Outcome}

theorem Ending.outcome_under_call (name : Option Text) (place : Location) (e : Ending) :
    (e.under (.call name place)).outcome.uncounted = e.outcome.uncounted.locate place := by
  cases e with
  | through s => rfl
  | broken failure chain s =>
    simp only [under, outcome, Failure.locateBy_concat]
    rfl

theorem Outcome.withinDepth_locate {place : Location} :
    (o.locate place).WithinDepth ↔ o.WithinDepth := by
  cases o with
  | done s => exact Iff.rfl
  | failed failure s =>
    constructor
    · rintro h s' heq
      cases heq
      exact h s rfl
    · rintro h s' heq
      have hfault : failure.locateBy [.call none place] = .fault .depth :=
        (Outcome.failed.inj heq).1
      rw [Failure.locateBy_eq_fault hfault] at h
      exact h s rfl

/-- A function that is called needs room for its body, and yields what that does. -/
theorem yields_call (h : env.Steady) (hs : s.cancelled = false) (hdepth : o.WithinDepth)
    {body : Program} {place : Location} :
    Yields env room (.program [.call none place]) (s.push (.function body)) o ↔
      ∃ less, room = less + 1 ∧
        ∃ o', Yields env less (.program body) s o' ∧ o = o'.locate place := by
  have hfetched : (s.push (.function body)).fetch none = .ok (body, s) := rfl
  rw [yields_single h (s := s.push (.function body)) hs]
  constructor
  · rintro ⟨e, he, rfl⟩
    cases he with
    | act hact hnot =>
      cases hact
      exact absurd rfl (hnot none)
    | unfetched hfetch =>
      rw [hfetched] at hfetch
      cases hfetch
    | callTooDeep => exact absurd rfl (Ending.withinDepth_iff.1 hdepth _ _)
    | called hfetch hbody =>
      rw [hfetched] at hfetch
      cases hfetch
      exact ⟨_, rfl, _, ⟨_, hbody, rfl⟩, Ending.outcome_under_call none place _⟩
  · rintro ⟨less, rfl, o', ⟨e, he, rfl⟩, rfl⟩
    exact ⟨_, .called hfetched he, Ending.outcome_under_call none place e⟩

theorem evaluates_push {body : Program} {e : Ending} :
    Evaluates env room (.statement (.define none body)) s e ↔
      e = .through (s.push (.function body)) := by
  constructor
  · intro h
    cases h with
    | act hact hfetch =>
      cases hact
      rfl
  · rintro rfl
    have hact : (Statement.define none body).act? = some (.define none body) := rfl
    exact .act hact (by simp)

/-- A body that is pushed as a function and called at once yields what it yields by itself. -/
theorem yields_wrapped (h : env.Steady) (hs : s.cancelled = false) (hdepth : o.WithinDepth)
    {body : Program} {place : Location} :
    Yields env room (.program [.define none body, .call none place]) s o ↔
      ∃ less, room = less + 1 ∧
        ∃ o', Yields env less (.program body) s o' ∧ o = o'.locate place := by
  -- the push is counted, so the call runs at another count than by itself
  rw [← yields_call h hs hdepth,
    ← yields_counting h (s := s.push (.function body)) hs (s.steps + 1)]
  constructor
  · rintro ⟨e, he, rfl⟩
    rcases (evaluates_cons h hs).1 he with ⟨failure, chain, t, rfl, hpush⟩ | ⟨t, hpush, hcall⟩
    · cases evaluates_push.1 hpush
    · cases evaluates_push.1 hpush
      exact ⟨e, hcall, rfl⟩
  · rintro ⟨e, he, rfl⟩
    exact ⟨e, (evaluates_cons h hs).2 (.inr ⟨_, evaluates_push.2 rfl, he⟩), rfl⟩

/-- After a request to stop no program begins. -/
theorem yields_cancelled (hs : s.cancelled = true) (statement : Statement) (rest : Program) :
    Yields env room (.program (statement :: rest)) s o ↔
      o = .failed (.of (.cancelled .requested)) (s.counting 0) := by
  have hrefused : (Act.start statement).perform env s = s.fail (.cancelled .requested) := by
    simp only [Act.perform, Environment.check, hs, State.fail]
    rfl
  constructor
  · rintro ⟨e, he, rfl⟩
    cases he with
    | refused hstart =>
      rw [hrefused] at hstart
      cases hstart
      rfl
    | breaks hstart | next hstart =>
      rw [hrefused] at hstart
      cases hstart
  · rintro rfl
    exact ⟨_, .refused hrefused, rfl⟩

end

/-! ## Programs that mean the same -/

/-- The program comes to the outcome on the state, apart from the count of statements begun. -/
def Environment.Gives (env : Environment) (program : Program) (s : State) (o : Outcome) : Prop :=
  ∃ raw, Machine.Stops env (Machine.start program s) raw ∧ raw.uncounted = o

theorem Environment.gives_iff_yields {env : Environment} {program : Program} {s : State}
    {o : Outcome} : env.Gives program s o ↔ Yields env env.depth (.program program) s o := by
  constructor
  · rintro ⟨raw, hstops, rfl⟩
    obtain ⟨e, he, rfl⟩ := Machine.stops_iff_evaluates.1 hstops
    exact ⟨e, he, rfl⟩
  · rintro ⟨e, he, rfl⟩
    exact ⟨e.outcome, Machine.stops_iff_evaluates.2 ⟨e, he, rfl⟩, rfl⟩

theorem Environment.deeper_gives_iff_yields {env : Environment} {program : Program} {s : State}
    {o : Outcome} :
    env.deeper.Gives program s o ↔ Yields env (env.depth + 1) (.program program) s o := by
  rw [Environment.gives_iff_yields]
  unfold Yields
  simp only [evaluates_deeper]
  rfl

/-- Whether two programs mean the same on a state, where the second one nests parts one deeper and
`change` is what it makes of the outcomes of the first one. The bound on nested parts is set aside:
what the first program comes to within the bound the second one comes to if one part more may nest,
and what the second one comes to within the bound the first one comes to as well. -/
structure Environment.Rewrites (env : Environment) (first second : Program) (s : State)
    (change : Outcome → Outcome) : Prop where
  forth : ∀ o, o.WithinDepth → env.Gives first s o → env.deeper.Gives second s (change o)
  back : ∀ o, o.WithinDepth → env.Gives second s o → ∃ o', env.Gives first s o' ∧ o = change o'

/-- After a request to stop two programs mean the same if each has a statement that is refused. -/
theorem Environment.Rewrites.of_cancelled {env : Environment} {s : State}
    (hs : s.cancelled = true) {change : Outcome → Outcome}
    (hchange : ∀ s', change (.failed (.of (.cancelled .requested)) s') =
      .failed (.of (.cancelled .requested)) s')
    (first second : Statement) (rest others : Program) :
    env.Rewrites (first :: rest) (second :: others) s change where
  forth o _ hgives := by
    rw [gives_iff_yields, yields_cancelled hs] at hgives
    rw [deeper_gives_iff_yields, yields_cancelled hs, hgives, hchange]
  back o _ hgives := by
    rw [gives_iff_yields, yields_cancelled hs] at hgives
    exact ⟨o, gives_iff_yields.2 ((yields_cancelled hs first rest).2 hgives),
      by rw [hgives, hchange]⟩

/-- Three rewrites of control flow keep the meaning of a program: a loop is unfolded once, the
branches behind the first one are moved to a conditional of their own, and a body is called as a
function. What a called body fails with is given the place of the call, if it has none. A program
that calls its body begins two statements before it, which a request to stop keeps from beginning;
so the body must begin one itself if somebody has asked to stop. The longer program of each pair is
the second one here, which is run where one part more may nest (`Environment.Rewrites`). -/
theorem control_flow_rewrites {env : Environment} (h : env.Steady) (s : State) :
    (∀ condition body : Program,
      env.Rewrites [.whileLoop condition body]
        [.conditional [.mk condition (body ++ [.whileLoop condition body])] none] s id) ∧
    (∀ (first second : Branch) (others : List Branch) (otherwise : Option Program),
      env.Rewrites [.conditional (first :: second :: others) otherwise]
        [.conditional [first] (some [.conditional (second :: others) otherwise])] s id) ∧
    ∀ (body : Program) (place : Location), s.cancelled = false ∨ body ≠ [] →
      env.Rewrites body [.define none body, .call none place] s (Outcome.locate place) := by
  refine ⟨fun condition body => ?_, fun first second others otherwise => ?_,
    fun body place hruns => ?_⟩
  · cases hs : s.cancelled with
    | true => exact .of_cancelled hs (fun _ => rfl) _ _ _ _
    | false =>
      refine ⟨fun o hdepth hgives => ?_, fun o hdepth hgives => ?_⟩
      · obtain ⟨less, hroom, hloop⟩ :=
          (yields_whileLoop h hs hdepth).1 (Environment.gives_iff_yields.1 hgives)
        exact Environment.deeper_gives_iff_yields.2 ((yields_conditional h hs hdepth).2
          ⟨env.depth, rfl, hroom ▸ hloop.unfold_loop h hs hdepth⟩)
      · obtain ⟨less, hroom, hbranches⟩ :=
          (yields_conditional h hs hdepth).1 (Environment.gives_iff_yields.1 hgives)
        exact ⟨o, Environment.gives_iff_yields.2 ((yields_whileLoop h hs hdepth).2
          ⟨less, hroom, hbranches.fold_loop h hs hdepth⟩), rfl⟩
  · cases hs : s.cancelled with
    | true => exact .of_cancelled hs (fun _ => rfl) _ _ _ _
    | false =>
      refine ⟨fun o hdepth hgives => ?_, fun o hdepth hgives => ?_⟩
      · obtain ⟨less, hroom, hbranches⟩ :=
          (yields_conditional h hs hdepth).1 (Environment.gives_iff_yields.1 hgives)
        exact Environment.deeper_gives_iff_yields.2 ((yields_conditional h hs hdepth).2
          ⟨env.depth, rfl, hroom ▸ hbranches.nest_branches h hs hdepth⟩)
      · obtain ⟨less, hroom, hbranches⟩ :=
          (yields_conditional h hs hdepth).1 (Environment.gives_iff_yields.1 hgives)
        exact ⟨o, Environment.gives_iff_yields.2 ((yields_conditional h hs hdepth).2
          ⟨less, hroom, hbranches.join_branches h hs hdepth⟩), rfl⟩
  · cases hs : s.cancelled with
    | true =>
      -- neither program begins, and a cancellation is given no place
      rw [hs] at hruns
      obtain ⟨statement, rest, rfl⟩ :=
        List.exists_cons_of_ne_nil (hruns.resolve_left (by simp))
      exact .of_cancelled hs (fun _ => rfl) _ _ _ _
    | false =>
      refine ⟨fun o hdepth hgives => ?_, fun o hdepth hgives => ?_⟩
      · exact Environment.deeper_gives_iff_yields.2
          ((yields_wrapped h hs (Outcome.withinDepth_locate.2 hdepth)).2
            ⟨env.depth, rfl, o, Environment.gives_iff_yields.1 hgives, rfl⟩)
      · obtain ⟨less, hroom, o', hbody, rfl⟩ :=
          (yields_wrapped h hs hdepth).1 (Environment.gives_iff_yields.1 hgives)
        have hmore := hbody.with_more_room (Outcome.withinDepth_locate.1 hdepth)
          (Nat.le_succ less)
        exact ⟨o', Environment.gives_iff_yields.2 (hroom ▸ hmore), rfl⟩

theorem bare_steady : (bare none).Steady where
  limit := rfl
  checkpoint := rfl
  calm name command h := by cases h
  blind name command h := by cases h

/-- A conditional whose condition uses up three values and leaves none. -/
def threeStores : Program :=
  [.conditional [.mk [.store "x" ⟨1, 4⟩, .store "x" ⟨1, 7⟩, .store "x" ⟨1, 10⟩] []] none]

/-- A loop that takes three truth values, unfolded and folded again; three branches, the second one
taken, nested; and a conditional that finds no truth value, called. -/
theorem control_flow_rewrites_on_truths :
    (bare none).Steady ∧
    (bare none).deeper.Gives [.conditional [.mk [] [.whileLoop [] []]] none] threeTruths
      (.done (State.initial .discard)) ∧
    (∃ o, (bare none).Gives [.whileLoop [] []] threeTruths o ∧
      .done (State.initial .discard) = id o) ∧
    (bare none).deeper.Gives
      [.conditional [.mk [.literal (.boolean false) ⟨1, 4⟩] []]
        (some [.conditional [.mk [] [], .mk [] []] none])] threeTruths
      (.done { State.initial .discard with stack := [.boolean true, .boolean false] }) ∧
    threeTruths.cancelled = false ∧
    (bare none).deeper.Gives [.define none threeStores, .call none ⟨2, 5⟩] threeTruths
      (.failed (.script (.underflow .condition) (some ⟨2, 5⟩))
        ((State.initial .discard).assign "x" (.boolean false))) := by
  have hloop : (bare none).Gives [.whileLoop [] []] threeTruths
      (.done (State.initial .discard)) :=
    ⟨_, ⟨10, rfl⟩, rfl⟩
  have hunfolded : (bare none).Gives [.conditional [.mk [] [.whileLoop [] []]] none] threeTruths
      (.done (State.initial .discard)) :=
    ⟨_, ⟨10, rfl⟩, rfl⟩
  have hbranches : (bare none).Gives
      [.conditional [.mk [.literal (.boolean false) ⟨1, 4⟩] [], .mk [] [], .mk [] []] none]
      threeTruths
      (.done { State.initial .discard with stack := [.boolean true, .boolean false] }) :=
    ⟨_, ⟨10, rfl⟩, rfl⟩
  have hstores : (bare none).Gives threeStores threeTruths
      (.failed (.of (.underflow .condition))
        ((State.initial .discard).assign "x" (.boolean false))) :=
    ⟨_, ⟨10, rfl⟩, rfl⟩
  have hwithin : (Outcome.failed (.of (.underflow .condition))
      ((State.initial .discard).assign "x" (.boolean false))).WithinDepth := by
    rintro s ⟨⟩
  obtain ⟨hunfold, hnest, hwrap⟩ := control_flow_rewrites bare_steady threeTruths
  exact ⟨bare_steady, (hunfold [] []).forth _ nofun hloop, (hunfold [] []).back _ nofun hunfolded,
    (hnest _ _ _ _).forth _ nofun hbranches, rfl,
    (hwrap _ ⟨2, 5⟩ (.inl rfl)).forth _ hwithin hstores⟩

/-- A state after a request to stop. -/
def alreadyCancelled : State :=
  { State.initial .discard with cancelled := true }

/-- After a request to stop an empty body goes through by itself, but not as a function; and where
one part may nest and no second one, a loop that comes round goes through, but not unfolded. -/
theorem control_flow_rewrites_not_exact :
    (bare none).Steady ∧
    (bare none).Gives [] alreadyCancelled (.done alreadyCancelled) ∧
    ¬(bare none).Gives [.define none [], .call none ⟨1, 7⟩] alreadyCancelled
      (.done alreadyCancelled) ∧
    { bare none with depth := 1 }.Gives [.whileLoop [] []] threeTruths
      (.done (State.initial .discard)) ∧
    { bare none with depth := 1 }.Gives [.conditional [.mk [] [.whileLoop [] []]] none] threeTruths
      (.failed (.fault .depth)
        { State.initial .discard with stack := [.boolean true, .boolean false] }) := by
  refine ⟨bare_steady, ⟨_, ⟨1, rfl⟩, rfl⟩, ?_, ⟨_, ⟨10, rfl⟩, rfl⟩, ⟨_, ⟨10, rfl⟩, rfl⟩⟩
  rw [Environment.gives_iff_yields, yields_cancelled rfl]
  exact nofun

end StackShell
