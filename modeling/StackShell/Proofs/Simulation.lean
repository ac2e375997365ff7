import StackShell.Proofs.Evaluation
import StackShell.Proofs.Places.Runs

/-!
# Evaluations side by side

Two evaluations of the same work go side by side if a relation between their states is kept by
everything that can be done to a state (`Evaluates.simulate`). This is used twice. The bound on the
depth of nested parts makes no difference to an evaluation within its room (`evaluates_deeper`). And
in a steady environment the count of statements begun makes none, as long as nobody asks to stop
(`Environment.Steady.simulation`).

More room makes no difference to an evaluation that did not fail for lack of it
(`Evaluates.with_more_room`).
-/

namespace StackShell

/-! ## Simulations -/

/-- Whether two endings are of the same kind, with the same failure and chain, and leave states that
are related. -/
def Ending.Related (R : State → State → Prop) : Ending → Ending → Prop
  | .through s, .through t => R s t
  | .broken failure chain s, .broken failure' chain' t =>
    failure = failure' ∧ chain = chain' ∧ R s t
  | .through _, .broken .. | .broken .., .through _ => False

namespace Ending.Related

variable {R : State → State → Prop} {e' : Ending}

theorem of_through {s : State} (h : (Ending.through s).Related R e') :
    ∃ t, e' = .through t ∧ R s t := by
  cases e' with
  | through t => exact ⟨t, rfl, h⟩
  | broken failure chain t => exact h.elim

theorem of_broken {failure : Failure} {chain : List Statement} {s : State}
    (h : (Ending.broken failure chain s).Related R e') :
    ∃ t, e' = .broken failure chain t ∧ R s t := by
  cases e' with
  | through t => exact h.elim
  | broken failure' chain' t =>
    obtain ⟨rfl, rfl, hst⟩ := h
    exact ⟨t, rfl, hst⟩

theorem eq {e : Ending} (h : e.Related Eq e') : e = e' := by
  cases e with
  | through s =>
    obtain ⟨t, rfl, rfl⟩ := h.of_through
    rfl
  | broken failure chain s =>
    obtain ⟨t, rfl, rfl⟩ := h.of_broken
    rfl

theorem under {e : Ending} (h : e.Related R e') (statement : Statement) :
    (e.under statement).Related R (e'.under statement) := by
  cases e with
  | through s =>
    obtain ⟨t, rfl, hst⟩ := h.of_through
    exact hst
  | broken failure chain s =>
    obtain ⟨t, rfl, hst⟩ := h.of_broken
    exact ⟨rfl, rfl, hst⟩

end Ending.Related

/-- Whether whatever can be done to a state in one environment can be done to related states in the
other one, with the same failures. -/
structure Simulation (env env' : Environment) (R : State → State → Prop) : Prop where
  performed {act : Act} {s s' t : State} : (∀ name, act ≠ .fetch name) → R s s' →
    act.perform env s = .done t → ∃ t', act.perform env' s' = .done t' ∧ R t t'
  failed {act : Act} {s s' t : State} {failure : Failure} : (∀ name, act ≠ .fetch name) → R s s' →
    act.perform env s = .failed failure t →
      ∃ t', act.perform env' s' = .failed failure t' ∧ R t t'
  decided {b : Bool} {s s' t : State} : R s s' → s.popBoolean = .ok (b, t) →
    ∃ t', s'.popBoolean = .ok (b, t') ∧ R t t'
  undecided {s s' : State} {failure : Failure} : R s s' → s.popBoolean = .error failure →
    s'.popBoolean = .error failure
  fetched {name : Option Text} {body : Program} {s s' t : State} : R s s' →
    s.fetch name = .ok (body, t) → ∃ t', s'.fetch name = .ok (body, t') ∧ R t t'
  unfetched {name : Option Text} {s s' : State} {failure : Failure} : R s s' →
    s.fetch name = .error failure → s'.fetch name = .error failure

/-- Environments in which acts do the same simulate each other, each state by itself. -/
theorem Simulation.of_perform_eq {env env' : Environment}
    (h : ∀ act s, Act.perform env act s = Act.perform env' act s) : Simulation env env' Eq where
  performed := by
    rintro act s _ t - rfl hdone
    exact ⟨t, h act s ▸ hdone, rfl⟩
  failed := by
    rintro act s _ t failure - rfl hfailed
    exact ⟨t, h act s ▸ hfailed, rfl⟩
  decided := by
    rintro b s _ t rfl hpop
    exact ⟨t, hpop, rfl⟩
  undecided := by
    rintro s _ failure rfl hpop
    exact hpop
  fetched := by
    rintro name body s _ t rfl hfetch
    exact ⟨t, hfetch, rfl⟩
  unfetched := by
    rintro name s _ failure rfl hfetch
    exact hfetch

namespace Evaluates

variable {env : Environment} {R : State → State → Prop} {room : Nat} {w : Work} {s t : State}

/-- An evaluation that is related to one that goes through goes through. -/
theorem of_related_through
    (h : ∃ e, Evaluates env room w s e ∧ (Ending.through t).Related R e) :
    ∃ t', Evaluates env room w s (.through t') ∧ R t t' := by
  obtain ⟨e, he, hrelated⟩ := h
  obtain ⟨t', rfl, ht⟩ := hrelated.of_through
  exact ⟨t', he, ht⟩

/-- An evaluation that is related to one that breaks off breaks off with the same failure. -/
theorem of_related_broken {failure : Failure} {chain : List Statement}
    (h : ∃ e, Evaluates env room w s e ∧ (Ending.broken failure chain t).Related R e) :
    ∃ t', Evaluates env room w s (.broken failure chain t') ∧ R t t' := by
  obtain ⟨e, he, hrelated⟩ := h
  obtain ⟨t', rfl, ht⟩ := hrelated.of_broken
  exact ⟨t', he, ht⟩

end Evaluates

/-- An evaluation in one environment is matched by one in the other, from any related state. -/
theorem Evaluates.simulate {env env' : Environment} {R : State → State → Prop}
    (hsim : Simulation env env' R) {room : Nat} {w : Work} {s : State} {e : Ending}
    (h : Evaluates env room w s e) {s' : State} (hs : R s s') :
    ∃ e', Evaluates env' room w s' e' ∧ e.Related R e' := by
  -- what a rule asks of a state holds of the related one too, so the same rule applies there
  induction h generalizing s' with
  | nil => exact ⟨_, .nil, hs⟩
  | refused hstart =>
    obtain ⟨t', hstart', ht⟩ := hsim.failed (by simp) hs hstart
    exact ⟨_, .refused hstart', rfl, rfl, ht⟩
  | breaks hstart _ ih =>
    obtain ⟨s₁', hstart', hs₁⟩ := hsim.performed (by simp) hs hstart
    obtain ⟨t', hfirst', ht⟩ := of_related_broken (ih hs₁)
    exact ⟨_, .breaks hstart' hfirst', rfl, rfl, ht⟩
  | next hstart _ _ ihFirst ihRest =>
    obtain ⟨s₁', hstart', hs₁⟩ := hsim.performed (by simp) hs hstart
    obtain ⟨s₂', hfirst', hs₂⟩ := of_related_through (ihFirst hs₁)
    obtain ⟨e', hrest', hrelated⟩ := ihRest hs₂
    exact ⟨e', .next hstart' hfirst' hrest', hrelated⟩
  | @act room statement act s hact hfetch =>
    cases hperform : act.perform env s with
    | done t =>
      obtain ⟨t', hperform', ht⟩ := hsim.performed hfetch hs hperform
      refine ⟨_, .act hact hfetch, ?_⟩
      rw [hperform']
      exact ht
    | failed failure t =>
      obtain ⟨t', hperform', ht⟩ := hsim.failed hfetch hs hperform
      refine ⟨_, .act hact hfetch, ?_⟩
      rw [hperform']
      exact ⟨rfl, rfl, ht⟩
  | stray => exact ⟨_, .stray, rfl, rfl, hs⟩
  | unfetched hfetch => exact ⟨_, .unfetched (hsim.unfetched hs hfetch), rfl, rfl, hs⟩
  | callTooDeep hfetch =>
    obtain ⟨s₁', hfetch', hs₁⟩ := hsim.fetched hs hfetch
    exact ⟨_, .callTooDeep hfetch', rfl, rfl, hs₁⟩
  | called hfetch _ ih =>
    obtain ⟨s₁', hfetch', hs₁⟩ := hsim.fetched hs hfetch
    obtain ⟨e', hbody', hrelated⟩ := ih hs₁
    exact ⟨_, .called hfetch' hbody', hrelated.under _⟩
  | conditionalTooDeep => exact ⟨_, .conditionalTooDeep, rfl, rfl, hs⟩
  | conditional _ ih =>
    obtain ⟨e', he', hrelated⟩ := ih hs
    exact ⟨_, .conditional he', hrelated.under _⟩
  | loopTooDeep => exact ⟨_, .loopTooDeep, rfl, rfl, hs⟩
  | whileLoop _ ih =>
    obtain ⟨e', he', hrelated⟩ := ih hs
    exact ⟨_, .whileLoop he', hrelated.under _⟩
  | skipped => exact ⟨_, .skipped, hs⟩
  | otherwise _ ih =>
    obtain ⟨e', he', hrelated⟩ := ih hs
    exact ⟨e', .otherwise he', hrelated⟩
  | conditionBreaks _ ih =>
    obtain ⟨t', hcondition', ht⟩ := of_related_broken (ih hs)
    exact ⟨_, .conditionBreaks hcondition', rfl, rfl, ht⟩
  | undecided _ hpop ih =>
    obtain ⟨s₁', hcondition', hs₁⟩ := of_related_through (ih hs)
    exact ⟨_, .undecided hcondition' (hsim.undecided hs₁ hpop), rfl, rfl, hs₁⟩
  | taken _ hpop _ ihCondition ihBody =>
    obtain ⟨s₁', hcondition', hs₁⟩ := of_related_through (ihCondition hs)
    obtain ⟨s₂', hpop', hs₂⟩ := hsim.decided hs₁ hpop
    obtain ⟨e', hbody', hrelated⟩ := ihBody hs₂
    exact ⟨e', .taken hcondition' hpop' hbody', hrelated⟩
  | passed _ hpop _ ihCondition ihOthers =>
    obtain ⟨s₁', hcondition', hs₁⟩ := of_related_through (ihCondition hs)
    obtain ⟨s₂', hpop', hs₂⟩ := hsim.decided hs₁ hpop
    obtain ⟨e', hothers', hrelated⟩ := ihOthers hs₂
    exact ⟨e', .passed hcondition' hpop' hothers', hrelated⟩
  | loopRefused hround =>
    obtain ⟨t', hround', ht⟩ := hsim.failed (by simp) hs hround
    exact ⟨_, .loopRefused hround', rfl, rfl, ht⟩
  | loopConditionBreaks hround _ ih =>
    obtain ⟨s₁', hround', hs₁⟩ := hsim.performed (by simp) hs hround
    obtain ⟨t', hcondition', ht⟩ := of_related_broken (ih hs₁)
    exact ⟨_, .loopConditionBreaks hround' hcondition', rfl, rfl, ht⟩
  | loopUndecided hround _ hpop ih =>
    obtain ⟨s₁', hround', hs₁⟩ := hsim.performed (by simp) hs hround
    obtain ⟨s₂', hcondition', hs₂⟩ := of_related_through (ih hs₁)
    exact ⟨_, .loopUndecided hround' hcondition' (hsim.undecided hs₂ hpop), rfl, rfl, hs₂⟩
  | left hround _ hpop ih =>
    obtain ⟨s₁', hround', hs₁⟩ := hsim.performed (by simp) hs hround
    obtain ⟨s₂', hcondition', hs₂⟩ := of_related_through (ih hs₁)
    obtain ⟨s₃', hpop', hs₃⟩ := hsim.decided hs₂ hpop
    exact ⟨_, .left hround' hcondition' hpop', hs₃⟩
  | bodyBreaks hround _ hpop _ ihCondition ihBody =>
    obtain ⟨s₁', hround', hs₁⟩ := hsim.performed (by simp) hs hround
    obtain ⟨s₂', hcondition', hs₂⟩ := of_related_through (ihCondition hs₁)
    obtain ⟨s₃', hpop', hs₃⟩ := hsim.decided hs₂ hpop
    obtain ⟨t', hbody', ht⟩ := of_related_broken (ihBody hs₃)
    exact ⟨_, .bodyBreaks hround' hcondition' hpop' hbody', rfl, rfl, ht⟩
  | again hround _ hpop _ _ ihCondition ihBody ihLoop =>
    obtain ⟨s₁', hround', hs₁⟩ := hsim.performed (by simp) hs hround
    obtain ⟨s₂', hcondition', hs₂⟩ := of_related_through (ihCondition hs₁)
    obtain ⟨s₃', hpop', hs₃⟩ := hsim.decided hs₂ hpop
    obtain ⟨s₄', hbody', hs₄⟩ := of_related_through (ihBody hs₃)
    obtain ⟨e', hloop', hrelated⟩ := ihLoop hs₄
    exact ⟨e', .again hround' hcondition' hpop' hbody' hloop', hrelated⟩

/-! ## The bound on nested parts -/

/-- The environment in which one more part of a program may nest. -/
def Environment.deeper (env : Environment) : Environment :=
  { env with depth := env.depth + 1 }

/-- No act looks at the bound on nested parts. -/
theorem Act.perform_deeper (env : Environment) (act : Act) (s : State) :
    act.perform env.deeper s = act.perform env s := by
  cases act <;> rfl

theorem evaluates_deeper {env : Environment} {room : Nat} {w : Work} {s : State} {e : Ending} :
    Evaluates env.deeper room w s e ↔ Evaluates env room w s e := by
  constructor
  · intro h
    obtain ⟨e', he', hrelated⟩ :=
      h.simulate (.of_perform_eq fun act s => act.perform_deeper env s) rfl
    rwa [hrelated.eq]
  · intro h
    obtain ⟨e', he', hrelated⟩ :=
      h.simulate (.of_perform_eq fun act s => (act.perform_deeper env s).symm) rfl
    rwa [hrelated.eq]

/-- Whether work did not end for lack of room. -/
def Ending.WithinDepth (e : Ending) : Prop :=
  ∀ chain s, e ≠ .broken (.fault .depth) chain s

namespace Ending.WithinDepth

theorem through (s : State) : (Ending.through s).WithinDepth := nofun

theorem of_under {e : Ending} {statement : Statement} (h : (e.under statement).WithinDepth) :
    e.WithinDepth := by
  rintro chain s rfl
  exact h _ _ rfl

end Ending.WithinDepth

/-- Work that did not end for lack of room ends so with more room, too. -/
theorem Evaluates.with_more_room {env : Environment} {room more : Nat} {w : Work} {s : State}
    {e : Ending} (h : Evaluates env room w s e) (hdepth : e.WithinDepth) (hmore : room ≤ more) :
    Evaluates env more w s e := by
  induction h generalizing more with
  | nil => exact .nil
  | refused hstart => exact .refused hstart
  | breaks hstart _ ih => exact .breaks hstart (ih hdepth hmore)
  | next hstart _ _ ihFirst ihRest =>
    exact .next hstart (ihFirst (.through _) hmore) (ihRest hdepth hmore)
  | act hact hfetch => exact .act hact hfetch
  | stray => exact .stray
  | unfetched hfetch => exact .unfetched hfetch
  | callTooDeep | conditionalTooDeep | loopTooDeep => exact absurd rfl (hdepth _ _)
  | called hfetch _ ih =>
    obtain ⟨more, rfl⟩ := Nat.exists_eq_succ_of_ne_zero (Nat.ne_zero_of_lt hmore)
    exact .called hfetch (ih hdepth.of_under (Nat.le_of_succ_le_succ hmore))
  | conditional _ ih =>
    obtain ⟨more, rfl⟩ := Nat.exists_eq_succ_of_ne_zero (Nat.ne_zero_of_lt hmore)
    exact .conditional (ih hdepth.of_under (Nat.le_of_succ_le_succ hmore))
  | whileLoop _ ih =>
    obtain ⟨more, rfl⟩ := Nat.exists_eq_succ_of_ne_zero (Nat.ne_zero_of_lt hmore)
    exact .whileLoop (ih hdepth.of_under (Nat.le_of_succ_le_succ hmore))
  | skipped => exact .skipped
  | otherwise _ ih => exact .otherwise (ih hdepth hmore)
  | conditionBreaks _ ih => exact .conditionBreaks (ih hdepth hmore)
  | undecided _ hpop ih => exact .undecided (ih (.through _) hmore) hpop
  | taken _ hpop _ ihCondition ihBody =>
    exact .taken (ihCondition (.through _) hmore) hpop (ihBody hdepth hmore)
  | passed _ hpop _ ihCondition ihOthers =>
    exact .passed (ihCondition (.through _) hmore) hpop (ihOthers hdepth hmore)
  | loopRefused hround => exact .loopRefused hround
  | loopConditionBreaks hround _ ih => exact .loopConditionBreaks hround (ih hdepth hmore)
  | loopUndecided hround _ hpop ih => exact .loopUndecided hround (ih (.through _) hmore) hpop
  | left hround _ hpop ih => exact .left hround (ih (.through _) hmore) hpop
  | bodyBreaks hround _ hpop _ ihCondition ihBody =>
    exact .bodyBreaks hround (ihCondition (.through _) hmore) hpop (ihBody hdepth hmore)
  | again hround _ hpop _ _ ihCondition ihBody ihLoop =>
    exact .again hround (ihCondition (.through _) hmore) hpop (ihBody (.through _) hmore)
      (ihLoop hdepth hmore)

/-! ## The count of statements -/

/-- The state with another count of statements begun. -/
def State.counting (n : Nat) (s : State) : State :=
  { s with steps := n }

/-- An outcome apart from the count of statements begun. -/
def Outcome.uncounted : Outcome → Outcome
  | .done s => .done (s.counting 0)
  | .failed failure s => .failed failure (s.counting 0)

/-- Runs without a limit and without a checkpoint, whose commands neither ask the run to stop nor
look at the count of statements begun. -/
structure Environment.Steady (env : Environment) : Prop extends env.Free where
  calm : ∀ name command, env.command? name = some command →
    ∀ s, s.cancelled = false → (command s).state.cancelled = false
  blind : ∀ name command, env.command? name = some command →
    ∀ s n, (command (s.counting n)).uncounted = (command s).uncounted

/-- Whether two states differ in the count of statements begun at most, and nobody has asked to
stop. -/
def State.Recounted (s t : State) : Prop :=
  s = t.counting s.steps ∧ t.cancelled = false

namespace State

variable {s t : State}

theorem Recounted.of_counting (h : s.counting 0 = t.counting 0) (ht : t.cancelled = false) :
    s.Recounted t := by
  refine ⟨?_, ht⟩
  have hcount := congrArg (counting s.steps) h
  exact hcount

theorem popBoolean_counting (n : Nat) (s : State) :
    (s.counting n).popBoolean = s.popBoolean.map fun popped => (popped.1, popped.2.counting n) := by
  unfold popBoolean
  cases hstack : s.stack with
  | nil =>
    simp only [counting, hstack]
    rfl
  | cons v stack =>
    simp only [counting, hstack]
    cases v <;> rfl

theorem fetch_counting (n : Nat) (name : Option Text) (s : State) :
    (s.counting n).fetch name =
      (s.fetch name).map fun fetched => (fetched.1, fetched.2.counting n) := by
  cases name with
  | some name =>
    have hlookup : (s.counting n).lookup name = s.lookup name := rfl
    simp only [fetch, hlookup]
    cases s.lookup name >>= Value.asFunction <;> rfl
  | none =>
    unfold fetch popFunction
    cases hstack : s.stack with
    | nil =>
      simp only [counting, hstack]
      rfl
    | cons v stack =>
      simp only [counting, hstack]
      cases v <;> rfl

theorem popBoolean_calm {b : Bool} (hs : s.cancelled = false) (h : s.popBoolean = .ok (b, t)) :
    t.cancelled = false := by
  obtain ⟨stack, -, rfl⟩ := popBoolean_eq_ok h
  exact hs

theorem fetch_calm {name : Option Text} {body : Program} (hs : s.cancelled = false)
    (h : s.fetch name = .ok (body, t)) : t.cancelled = false := by
  obtain ⟨stack, rfl⟩ := fetch_frame h
  exact hs

end State

/-- Nothing keeps a statement from beginning unless somebody has asked to stop. -/
theorem Environment.Free.check {env : Environment} (h : env.Free) {s : State}
    (hs : s.cancelled = false) (statement : Statement) : env.check statement s = .done s := by
  rw [Environment.check, hs, h.limit, h.checkpoint]
  rfl

namespace Environment.Steady

variable {env : Environment}

theorem start (h : env.Steady) {s : State} (hs : s.cancelled = false) (statement : Statement) :
    (Act.start statement).perform env s = .done (s.counting (s.steps + 1)) := by
  simp only [Act.perform, h.toFree.check hs]
  rfl

theorem round (h : env.Steady) {s : State} (hs : s.cancelled = false) (loop : Statement) :
    (Act.round loop).perform env s = .done s := by
  simp only [Act.perform, h.toFree.check hs]

/-- What an act does does not depend on the count of statements begun. -/
theorem perform_counting (h : env.Steady) {s : State} (hs : s.cancelled = false) (n : Nat)
    (act : Act) : (act.perform env (s.counting n)).uncounted = (act.perform env s).uncounted := by
  cases act with
  | start statement =>
    rw [h.start hs, h.start (s := s.counting n) hs]
    rfl
  | round loop =>
    rw [h.round hs, h.round (s := s.counting n) hs]
    rfl
  | literal v => rfl
  | load name =>
    have hlookup : (s.counting n).lookup name = s.lookup name := rfl
    simp only [Act.perform, hlookup]
    cases s.lookup name <;> rfl
  | store name =>
    have hstack : (s.counting n).stack = s.stack := rfl
    simp only [Act.perform, State.pop, hstack]
    cases s.stack <;> rfl
  | invoke name =>
    simp only [Act.perform]
    cases hcommand : env.command? name with
    | none => rfl
    | some command => exact h.blind name command hcommand s n
  | define name body => cases name <;> rfl
  | test =>
    simp only [Act.perform, State.popBoolean_counting]
    cases s.popBoolean <;> rfl
  | fetch name =>
    rw [Act.perform_fetch, Act.perform_fetch, State.fetch_counting]
    cases s.fetch name <;> rfl

/-- No act asks the run to stop. -/
theorem perform_calm (h : env.Steady) {s : State} (hs : s.cancelled = false) (act : Act) :
    (act.perform env s).state.cancelled = false := by
  by_cases helementary : act.isElementary = true
  · -- only a command could do more than change the stack and the variables
    rcases act.perform_frame env helementary s with ⟨name, command, rfl, hcommand⟩ | hframe
    · simp only [Act.perform, hcommand]
      exact h.calm name command hcommand s hs
    · obtain ⟨stack, bindings, hstate⟩ := hframe
      rw [hstate]
      exact hs
  · cases act with
    | start statement =>
      rw [h.start hs]
      exact hs
    | round loop =>
      rw [h.round hs]
      exact hs
    | _ => exact absurd rfl helementary

/-- States that differ in the count at most stay so, whatever is done to them. -/
theorem simulation (h : env.Steady) : Simulation env env State.Recounted where
  performed := by
    rintro act s s' t - ⟨hs, hcalm⟩ hdone
    have hsame := h.perform_counting hcalm s.steps act
    have hstays := h.perform_calm hcalm act
    rw [← hs, hdone] at hsame
    cases hdone' : act.perform env s' with
    | failed failure t' =>
      rw [hdone'] at hsame
      cases hsame
    | done t' =>
      rw [hdone'] at hsame hstays
      exact ⟨t', rfl, .of_counting (Outcome.done.inj hsame) hstays⟩
  failed := by
    rintro act s s' t failure - ⟨hs, hcalm⟩ hfailed
    have hsame := h.perform_counting hcalm s.steps act
    have hstays := h.perform_calm hcalm act
    rw [← hs, hfailed] at hsame
    cases hfailed' : act.perform env s' with
    | done t' =>
      rw [hfailed'] at hsame
      cases hsame
    | failed failure' t' =>
      rw [hfailed'] at hsame hstays
      obtain ⟨rfl, hstate⟩ := Outcome.failed.inj hsame
      exact ⟨t', rfl, .of_counting hstate hstays⟩
  decided := by
    rintro b s s' t ⟨hs, hcalm⟩ hpop
    rw [hs, State.popBoolean_counting] at hpop
    obtain ⟨⟨b', t'⟩, hpop', hsame⟩ := map_eq_ok.1 hpop
    cases hsame
    exact ⟨t', hpop', rfl, State.popBoolean_calm hcalm hpop'⟩
  undecided := by
    rintro s s' failure ⟨hs, -⟩ hpop
    rw [hs, State.popBoolean_counting] at hpop
    exact map_eq_error.1 hpop
  fetched := by
    rintro name body s s' t ⟨hs, hcalm⟩ hfetch
    rw [hs, State.fetch_counting] at hfetch
    obtain ⟨⟨body', t'⟩, hfetch', hsame⟩ := map_eq_ok.1 hfetch
    cases hsame
    exact ⟨t', hfetch', rfl, State.fetch_calm hcalm hfetch'⟩
  unfetched := by
    rintro name s s' failure ⟨hs, -⟩ hfetch
    rw [hs, State.fetch_counting] at hfetch
    exact map_eq_error.1 hfetch

end Environment.Steady

end StackShell
