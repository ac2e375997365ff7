import StackShell.Proofs.Places.Routines
import StackShell.Proofs.Runs

/-!
# Runs elsewhere

A run does not look at the places of its statements, as long as it begins no command that does. And
what a program does first does not depend on what follows it. Both facts come from one: putting a
machine within a larger run, that is moving its places, letting more statements follow, and letting
it go on from earlier events, goes with each step (`Machine.step_within`).

So a whole run, failures included, is the same after a move of places (`Machine.run_within`). And a
run of a program takes the same steps as a run of its first part, then of its second part on the
state that the first one leaves, wherever the two parts stand (`Machine.run_append`).
-/

namespace StackShell

/-! ## Machines within a larger run -/

/-- The statements that follow where no frame is left. -/
def follow (later : Program) (frames : List Frame) : Program :=
  if frames.isEmpty then later else []

/-- A frame with its places moved, with more to follow after it. -/
def Frame.within (r : Location → Location) (later : Program) : Frame → Frame
  | .call place rest => .call (r place) (Program.relocate r rest ++ later)
  | .chosen rest => .chosen (Program.relocate r rest ++ later)
  | .branch body others otherwise rest =>
    .branch (Program.relocate r body) (Branch.relocateAll r others)
      (Program.relocateOption r otherwise) (Program.relocate r rest ++ later)
  | .loopCondition condition body rest =>
    .loopCondition (Program.relocate r condition) (Program.relocate r body)
      (Program.relocate r rest ++ later)
  | .loopBody condition body rest =>
    .loopBody (Program.relocate r condition) (Program.relocate r body)
      (Program.relocate r rest ++ later)

/-- Frames with their places moved, with more to follow after the last one. -/
def framesWithin (r : Location → Location) (later : Program) : List Frame → List Frame
  | [] => []
  | frame :: frames => frame.within r (follow later frames) :: framesWithin r later frames

/-- A machine with its places moved in a larger run: it goes on from an earlier one, and more is to
follow. -/
def Machine.within (r : Location → Location) (earlier : List Event) (begun : Nat) (later : Program)
    (m : Machine) : Machine :=
  ⟨Program.relocate r m.code ++ follow later m.frames, framesWithin r later m.frames,
    m.state.within r earlier begun⟩

/-- What a step leads to, with the places moved in a larger run. -/
def Progress.within (r : Location → Location) (earlier : List Event) (begun : Nat)
    (later : Program) : Progress → Progress
  | .running m => .running (m.within r earlier begun later)
  | .stopped o => .stopped (o.within r earlier begun)

/-- The machine that a step leads to, if it keeps running. -/
def Progress.next? : Progress → Option Machine
  | .running m => some m
  | .stopped _ => none

theorem Progress.next?_within (r : Location → Location) (earlier : List Event) (begun : Nat)
    (later : Program) (p : Progress) :
    (p.within r earlier begun later).next? = p.next?.map (·.within r earlier begun later) := by
  cases p <;> rfl

/-! ## Checks -/

/-- Whether checks do the same to a state that is moved in a larger run. -/
def Environment.ChecksWithin (env : Environment) (r : Location → Location) (earlier : List Event)
    (begun : Nat) : Prop :=
  ∀ statement s, env.check (statement.relocate r) (s.within r earlier begun) =
    (env.check statement s).within r earlier begun

/-- A run without a limit and without a checkpoint. -/
structure Environment.Free (env : Environment) : Prop where
  limit : env.limit = none
  checkpoint : env.checkpoint = .pass

/-- Without a limit it does not matter how many statements were begun before. -/
theorem Environment.Free.checksWithin {env : Environment} (h : env.Free) (r : Location → Location)
    (earlier : List Event) (begun : Nat) : env.ChecksWithin r earlier begun := by
  intro statement s
  have hcancelled : (s.within r earlier begun).cancelled = s.cancelled := rfl
  rw [check, check, h.limit, h.checkpoint, hcancelled]
  split <;> rfl

/-- If no statements were begun before, the limit is reached at the same time. -/
theorem Environment.checksWithin_of_pass {env : Environment} (h : env.checkpoint = .pass)
    (r : Location → Location) (earlier : List Event) : env.ChecksWithin r earlier 0 := by
  intro statement s
  have hcancelled : (s.within r earlier 0).cancelled = s.cancelled := rfl
  have hsteps : (s.within r earlier 0).steps = s.steps := Nat.zero_add s.steps
  rw [check, check, h, hcancelled, hsteps]
  split
  · rfl
  · cases env.limit with
    | none => rfl
    | some n =>
      dsimp only
      split <;> rfl

/-! ## Failures -/

theorem Failure.relocate_locate (r : Location → Location) (place : Location) (failure : Failure) :
    (failure.relocate r).locate (r place) = (failure.locate place).relocate r := by
  cases failure with
  | fault problem => rfl
  | script cause given =>
    cases given with
    | some given => rfl
    | none =>
      simp only [relocate, locate, Option.map_none]
      split <;> rfl

/-! ## Taking values -/

namespace State

variable (r : Location → Location) (earlier : List Event) (begun : Nat) (s : State)

theorem lookup_within (name : Text) :
    (s.within r earlier begun).lookup name =
      relocateResult r (Value.relocate r) (s.lookup name) := by
  have hget := s.bindings.get?_mapValues (Value.relocate r) name
  unfold lookup
  rw [within, hget]
  cases s.bindings.get? name <;> rfl

theorem fetch_within (name : Option Text) :
    (s.within r earlier begun).fetch name =
      relocateResult r (Prod.map (Program.relocate r) (within r earlier begun)) (s.fetch name) := by
  cases name with
  | none =>
    unfold fetch popFunction
    cases hs : s.stack with
    | nil =>
      simp only [within, hs]
      rfl
    | cons v stack =>
      simp only [within, hs, List.map_cons]
      cases v <;> rfl
  | some name =>
    simp only [fetch, lookup_within]
    cases s.lookup name with
    | error failure => rfl
    | ok v => cases v <;> rfl

theorem popBoolean_within :
    (s.within r earlier begun).popBoolean =
      relocateResult r (Prod.map id (within r earlier begun)) s.popBoolean := by
  unfold popBoolean
  cases hs : s.stack with
  | nil =>
    simp only [within, hs]
    rfl
  | cons v stack =>
    simp only [within, hs, List.map_cons]
    cases v <;> rfl

end State

namespace Machine

/-- Whether nothing is left to be done. -/
def Finished (m : Machine) : Prop :=
  m.code = [] ∧ m.frames = []

/-- Whether the command that the machine begins, if it begins one, is blind. -/
def BlindAt (r : Location → Location) (env : Environment) (m : Machine) : Prop :=
  ∀ name place rest, m.code = .invoke name place :: rest →
    ∀ command, env.command? name = some command → command.BlindTo r

section

variable {r : Location → Location} {earlier : List Event} {begun : Nat} {later : Program}
  {env : Environment}

@[simp] theorem follow_nil (frames : List Frame) : follow [] frames = [] := by
  unfold follow
  split <;> rfl

@[simp] theorem follow_cons (later : Program) (frame : Frame) (frames : List Frame) :
    follow later (frame :: frames) = [] :=
  rfl

/-- A failure is given the place that it would be given, moved. -/
theorem locateIn_within (frames : List Frame) (failure : Failure) :
    locateIn (framesWithin r later frames) (failure.relocate r) =
      (locateIn frames failure).relocate r := by
  have hplace : (framesWithin r later frames).findSome? Frame.place? =
      (frames.findSome? Frame.place?).map r := by
    induction frames with
    | nil => rfl
    | cons frame frames ih =>
      rw [framesWithin, List.findSome?_cons, List.findSome?_cons, ih]
      cases frame <;> rfl
  unfold locateIn
  rw [hplace]
  cases frames.findSome? Frame.place? with
  | none => rfl
  | some place => exact Failure.relocate_locate r place failure

theorem locate_within (statement : Statement) (frames : List Frame) (failure : Failure) :
    locate (statement.relocate r) (framesWithin r later frames) (failure.relocate r) =
      (locate statement frames failure).relocate r := by
  unfold locate
  rw [Statement.place?_relocate]
  cases statement.place? with
  | none => exact locateIn_within frames failure
  | some place => exact Failure.relocate_locate r place failure

/-! ## Steps -/

theorem length_framesWithin (frames : List Frame) :
    (framesWithin r later frames).length = frames.length := by
  induction frames with
  | nil => rfl
  | cons frame frames ih => rw [framesWithin, List.length_cons, List.length_cons, ih]

theorem choose_within (branches : List Branch) (otherwise : Option Program) (rest : Program)
    (frames : List Frame) (s : State) :
    choose (Branch.relocateAll r branches) (Program.relocateOption r otherwise)
        (Program.relocate r rest ++ follow later frames) (framesWithin r later frames)
        (s.within r earlier begun) =
      (choose branches otherwise rest frames s).within r earlier begun later := by
  cases branches with
  | cons branch others =>
    obtain ⟨condition, body⟩ := branch
    simp [choose, within, Branch.relocateAll, Branch.relocate, Branch.condition, Branch.body,
      framesWithin, Frame.within]
  | nil =>
    cases otherwise with
    | none => rfl
    | some body =>
      simp [choose, within, Branch.relocateAll, Program.relocateOption, framesWithin, Frame.within]

/-- What a statement leads to, with the places moved in a larger run. -/
def executedWithin (r : Location → Location) (earlier : List Event) (begun : Nat)
    (later : Program) : Except (Failure × State) Machine → Except (Failure × State) Machine
  | .ok m => .ok (m.within r earlier begun later)
  | .error (failure, s) => .error (failure.relocate r, s.within r earlier begun)

/-- A part of a program has as much room in the larger run. -/
theorem nest_within (frames : List Frame) (m : Machine) :
    nest env (framesWithin r later frames) (m.within r earlier begun later) =
      executedWithin r earlier begun later (nest env frames m) := by
  unfold nest
  rw [length_framesWithin]
  split_ifs <;> rfl

/-- What a statement does goes with putting the machine within a larger run. -/
theorem execute_within (statement : Statement) (rest : Program) (frames : List Frame) (s : State)
    (hblind : ∀ name place, statement = .invoke name place →
      ∀ command, env.command? name = some command → command.BlindTo r) :
    execute env (statement.relocate r) (Program.relocate r rest ++ follow later frames)
        (framesWithin r later frames) (s.within r earlier begun) =
      executedWithin r earlier begun later (execute env statement rest frames s) := by
  cases statement with
  | literal value place => rfl
  | load name place =>
    simp only [execute, Statement.relocate, State.lookup_within]
    cases s.lookup name <;> rfl
  | store name place =>
    simp only [execute, Statement.relocate, State.pop]
    cases hs : s.stack with
    | nil => simp [State.within, hs, executedWithin, Failure.of, Failure.relocate]
    | cons v stack =>
      simp [executedWithin, within, State.assign, State.within, hs, Table.insert_mapValues]
  | invoke name place =>
    simp only [execute, Statement.relocate]
    cases hcommand : env.command? name with
    | none => rfl
    | some command =>
      dsimp only
      rw [hblind name place rfl command hcommand]
      cases command s <;> rfl
  | call name place =>
    rw [Statement.relocate, execute_call, execute_call, State.fetch_within]
    cases s.fetch name with
    | error failure => rfl
    | ok fetched =>
      dsimp only [relocateResult, Except.map, Except.mapError, Prod.map]
      rw [← nest_within]
      simp [within, framesWithin, Frame.within]
  | conditional branches otherwise =>
    rw [Statement.relocate, execute, execute, choose_within, nest_within]
  | whileLoop condition body =>
    rw [Statement.relocate, execute, execute, ← nest_within]
    simp [within, framesWithin, Frame.within, Program.relocate]
  | define name body =>
    cases name with
    | none => rfl
    | some name =>
      simp [execute, Statement.relocate, executedWithin, within, State.assign, State.within,
        ← Table.insert_mapValues, Value.relocate]
  | stray => rfl

/-- The outcome of a condition is taken alike wherever a machine stands. -/
theorem decideBy_within {frames : List Frame} {s : State} {next next' : Bool → State → Machine}
    (hnext : ∀ b s, next' b (s.within r earlier begun) = (next b s).within r earlier begun later) :
    decideBy (framesWithin r later frames) (s.within r earlier begun) next' =
      (decideBy frames s next).within r earlier begun later := by
  unfold decideBy
  rw [State.popBoolean_within]
  cases s.popBoolean with
  | error failure =>
    show Progress.stopped (.failed (locateIn _ (failure.relocate r)) _) = _
    rw [locateIn_within]
    rfl
  | ok taken => exact congrArg Progress.running (hnext taken.1 taken.2)

/-- What a frame does once the statements before it are through goes with putting the machine within
a larger run. -/
theorem resume_within (hcheck : env.ChecksWithin r earlier begun) (frame : Frame)
    (frames : List Frame) (s : State) :
    resume env (frame.within r (follow later frames)) (framesWithin r later frames)
        (s.within r earlier begun) =
      (resume env frame frames s).within r earlier begun later := by
  cases frame with
  | call place rest => rfl
  | chosen rest => rfl
  | branch body others otherwise rest =>
    refine decideBy_within fun b s => ?_
    cases b with
    | true => simp [within, framesWithin, Frame.within]
    | false => exact choose_within others otherwise rest frames s
  | loopCondition condition body rest =>
    refine decideBy_within fun b s => ?_
    cases b with
    | true => simp [within, framesWithin, Frame.within]
    | false => rfl
  | loopBody condition body rest =>
    have hloop := hcheck (.whileLoop condition body) s
    rw [Statement.relocate] at hloop
    simp only [Frame.within, resume, hloop]
    cases env.check (.whileLoop condition body) s with
    | failed failure s' =>
      show Progress.stopped (.failed (locateIn _ (failure.relocate r)) _) = _
      rw [locateIn_within]
      rfl
    | done s' =>
      simp [Outcome.within, Progress.within, within, framesWithin, Frame.within]

theorem executed_within (statement : Statement) (frames : List Frame)
    (x : Except (Failure × State) Machine) :
    executed (statement.relocate r) (framesWithin r later frames)
        (executedWithin r earlier begun later x) =
      (executed statement frames x).within r earlier begun later := by
  cases x with
  | ok m => rfl
  | error problem =>
    obtain ⟨failure, s⟩ := problem
    show Progress.stopped (.failed (locate _ _ (failure.relocate r)) _) = _
    rw [locate_within]
    rfl

/-- A statement begins alike wherever a machine stands. -/
theorem begin_within (hcheck : env.ChecksWithin r earlier begun) (statement : Statement)
    (rest : Program) (frames : List Frame) (s : State)
    (hblind : ∀ name place, statement = .invoke name place →
      ∀ command, env.command? name = some command → command.BlindTo r) :
    begin env (statement.relocate r) (Program.relocate r rest ++ follow later frames)
        (framesWithin r later frames) (s.within r earlier begun) =
      (begin env statement rest frames s).within r earlier begun later := by
  have hmoved := hcheck statement s
  cases h : env.check statement s with
  | failed failure s' =>
    rw [h] at hmoved
    rw [begin_of_check_failed hmoved, begin_of_check_failed h, locateIn_within]
    rfl
  | done s' =>
    rw [h] at hmoved
    rw [begin_of_check hmoved, begin_of_check h, ← executed_within,
      ← execute_within statement rest frames _ hblind]
    rfl

/-- A step goes with putting the machine within a larger run, unless the machine is finished and
something follows. -/
theorem step_within (hcheck : env.ChecksWithin r earlier begun) {m : Machine}
    (hm : later = [] ∨ ¬m.Finished) (hblind : m.BlindAt r env) :
    (m.within r earlier begun later).step env = (m.step env).within r earlier begun later := by
  obtain ⟨code, frames, s⟩ := m
  cases code with
  | nil =>
    cases frames with
    | nil =>
      rcases hm with rfl | hm
      · rfl
      · exact absurd ⟨rfl, rfl⟩ hm
    | cons frame frames => exact resume_within hcheck frame frames s
  | cons statement rest =>
    exact begin_within hcheck statement rest frames s
      fun name place h => hblind name place rest (by rw [h])

/-! ## Whole runs -/

/-- A run that begins blind commands only is the same wherever its places are moved to. -/
theorem run_within (hcheck : env.ChecksWithin r earlier begun)
    (hblind : ∀ name command, env.command? name = some command → command.BlindTo r) (fuel : Nat)
    (m : Machine) :
    (m.within r earlier begun []).run env fuel =
      (m.run env fuel).map (Outcome.within r earlier begun) := by
  induction fuel generalizing m with
  | zero => rfl
  | succ fuel ih =>
    have hat : m.BlindAt r env := fun name _ _ _ => hblind name
    have hstep := step_within hcheck (.inl rfl) hat
    cases h : m.step env with
    | running m' =>
      rw [h] at hstep
      rw [run_succ_of_running hstep, run_succ_of_running h, ih]
    | stopped o =>
      rw [h] at hstep
      rw [run_succ_of_stopped hstep, run_succ_of_stopped h]
      rfl

/-! ## Runs within a larger run -/

/-- Whether the first machine is where the second one is within a larger run. -/
def Follows (r : Location → Location) (earlier : List Event) (begun : Nat) (later : Program)
    (whole part : Machine) : Prop :=
  whole.within r [] 0 [] = part.within r earlier begun later

/-- Where the step of a machine within a larger run leads to, if the larger run keeps running. -/
theorem next?_step_within (hfree : env.Free) {m : Machine} (hm : ¬m.Finished)
    (hblind : m.BlindAt r env) :
    ((m.within r earlier begun later).step env).next? =
      (m.step env).next?.map (within r earlier begun later) := by
  rw [step_within (hfree.checksWithin r earlier begun) (.inr hm) hblind, Progress.next?_within]

theorem finished_of_within {m : Machine} (h : (m.within r earlier begun later).Finished) :
    m.Finished := by
  obtain ⟨hcode, hframes⟩ := h
  obtain ⟨code, frames, s⟩ := m
  cases frames with
  | cons frame frames => cases hframes
  | nil =>
    cases code with
    | cons statement rest => cases hcode
    | nil => exact ⟨rfl, rfl⟩

theorem Follows.finished {whole part : Machine} (h : Follows r earlier begun later whole part)
    (hwhole : whole.Finished) : part.Finished := by
  obtain ⟨code, frames, s⟩ := whole
  obtain ⟨rfl, rfl⟩ : code = [] ∧ frames = [] := hwhole
  have hempty : Machine.Finished (within r [] 0 [] ⟨[], [], s⟩) := ⟨rfl, rfl⟩
  unfold Follows at h
  rw [h] at hempty
  exact finished_of_within hempty

theorem not_finished_of_step {m m' : Machine} (h : m.step env = .running m') : ¬m.Finished := by
  obtain ⟨code, frames, s⟩ := m
  rintro ⟨hcode, hframes⟩
  obtain rfl : code = [] := hcode
  obtain rfl : frames = [] := hframes
  cases h

/-- A run succeeds only where nothing is left to be done. -/
theorem finished_of_done {m : Machine} {s : State} (h : m.step env = .stopped (.done s)) :
    m.Finished ∧ m.state = s := by
  obtain ⟨code, frames, s'⟩ := m
  cases code with
  | cons statement rest =>
    simp only [step, begin] at h
    split at h
    · cases h
    · split at h <;> cases h
  | nil =>
    cases frames with
    | nil =>
      cases h
      exact ⟨⟨rfl, rfl⟩, rfl⟩
    | cons frame frames =>
      cases frame with
      | call | chosen => cases h
      | branch | loopCondition =>
        simp only [step, resume, decideBy] at h
        split at h <;> cases h
      | loopBody =>
        simp only [step, resume] at h
        split at h <;> cases h

theorem blindAt_within {m : Machine} (hm : ¬m.Finished) :
    (m.within r earlier begun later).BlindAt r env ↔ m.BlindAt r env := by
  obtain ⟨code, frames, s⟩ := m
  cases code with
  | nil =>
    cases frames with
    | nil => exact absurd ⟨rfl, rfl⟩ hm
    | cons frame frames =>
      refine ⟨fun _ _ _ _ h => ?_, fun _ _ _ _ h => ?_⟩ <;> cases h
  | cons statement rest =>
    constructor
    · rintro h name place rest' hcode
      obtain ⟨rfl, -⟩ := List.cons.inj hcode
      exact h name (r place) _ rfl
    · rintro h name place rest' hcode
      obtain ⟨hstatement, -⟩ := List.cons.inj hcode
      cases statement with
      | invoke name' place' =>
        cases hstatement
        exact h name place' rest rfl
      | literal | load | store | call | conditional | whileLoop | define | stray => cases hstatement

theorem next?_eq_some {p : Progress} {m : Machine} : p.next? = some m ↔ p = .running m := by
  cases p with
  | running m' => simp [Progress.next?]
  | stopped o => simp [Progress.next?]

section

variable {whole part : Machine} (hfree : env.Free) (h : Follows r earlier begun later whole part)
  (hblind : whole.BlindAt r env)

include hfree h hblind

/-- The next steps of the two machines lead to the same place, unless the part is finished. -/
theorem Follows.next? (hpart : ¬part.Finished) :
    (whole.step env).next?.map (within r [] 0 []) =
      (part.step env).next?.map (within r earlier begun later) := by
  have hwhole : ¬whole.Finished := fun hwhole => hpart (h.finished hwhole)
  have hblind' : part.BlindAt r env := by
    rw [← blindAt_within hpart, ← h, blindAt_within hwhole]
    exact hblind
  rw [← next?_step_within hfree hwhole hblind, ← next?_step_within hfree hpart hblind', h]

/-- Where the whole goes, the part goes until it is finished. -/
theorem Follows.of_whole {whole' : Machine} (hpart : ¬part.Finished)
    (hstep : whole.step env = .running whole') :
    ∃ part', part.step env = .running part' ∧ Follows r earlier begun later whole' part' := by
  have hnext := h.next? hfree hblind hpart
  rw [hstep] at hnext
  obtain ⟨part', hpart', hsame⟩ := Option.map_eq_some_iff.1 hnext.symm
  exact ⟨part', next?_eq_some.1 hpart', hsame.symm⟩

/-- Where the part goes, the whole goes. -/
theorem Follows.of_part {part' : Machine} (hstep : part.step env = .running part') :
    ∃ whole', whole.step env = .running whole' ∧ Follows r earlier begun later whole' part' := by
  have hnext := h.next? hfree hblind (not_finished_of_step hstep)
  rw [hstep] at hnext
  obtain ⟨whole', hwhole', hsame⟩ := Option.map_eq_some_iff.1 hnext
  exact ⟨whole', next?_eq_some.1 hwhole', hsame⟩

end

/-- Whether a run begins blind commands only. -/
def Blind (r : Location → Location) (env : Environment) (m : Machine) : Prop :=
  ∀ m', Reaches env m m' → m'.BlindAt r env

theorem Blind.of_running {m m' : Machine} (h : m.Blind r env) (hstep : m.step env = .running m') :
    m'.Blind r env :=
  fun _ hreach => h _ (.next hstep hreach)

theorem Blind.at {m : Machine} (h : m.Blind r env) : m.BlindAt r env :=
  h m (.refl m)

/-- The part of a run that begins blind commands only begins blind commands only. -/
theorem Follows.blind {whole part : Machine} (hfree : env.Free)
    (h : Follows r earlier begun later whole part) (hblind : whole.Blind r env) :
    part.Blind r env := by
  intro part' hreach
  induction hreach generalizing whole with
  | refl part =>
    by_cases hpart : part.Finished
    · intro name place rest hcode
      rw [hpart.1] at hcode
      cases hcode
    · rw [← blindAt_within hpart, ← h, blindAt_within fun hwhole => hpart (h.finished hwhole)]
      exact hblind.at
  | next hstep _ ih =>
    obtain ⟨whole', hstep', hfollows⟩ := h.of_part hfree hblind.at hstep
    exact ih hfollows (hblind.of_running hstep')

/-- If the whole run succeeds, its part does, and the whole comes to where the part is finished. -/
theorem Follows.run_part {whole part : Machine} {fuel : Nat} {s : State} (hfree : env.Free)
    (h : Follows r earlier begun later whole part) (hblind : whole.Blind r env)
    (hrun : whole.run env fuel = some (.done s)) :
    ∃ s' whole' fuel', part.run env fuel = some (.done s') ∧ fuel' ≤ fuel ∧
      whole'.run env fuel' = some (.done s) ∧ whole'.Blind r env ∧
      Follows r earlier begun later whole' ⟨[], [], s'⟩ := by
  induction fuel generalizing whole part with
  | zero => cases hrun
  | succ fuel ih =>
    by_cases hpart : part.Finished
    · obtain ⟨code, frames, s'⟩ := part
      obtain ⟨rfl, rfl⟩ : code = [] ∧ frames = [] := hpart
      exact ⟨s', whole, fuel + 1, rfl, Nat.le_refl _, hrun, hblind, h⟩
    · cases hstep : whole.step env with
      | running whole' =>
        obtain ⟨part', hstep', hfollows⟩ := h.of_whole hfree hblind.at hpart hstep
        rw [run_succ_of_running hstep] at hrun
        rw [run_succ_of_running hstep']
        obtain ⟨s', last, fuel', hrun', hle, hlast⟩ :=
          ih hfollows (hblind.of_running hstep) hrun
        exact ⟨s', last, fuel', hrun', by omega, hlast⟩
      | stopped o =>
        rw [run_succ_of_stopped hstep] at hrun
        cases hrun
        exact absurd (h.finished (finished_of_done hstep).1) hpart

/-- A run of two programs one after the other is a run of the first one, then of the second one on
the state that the first one left: here in a run of its own, that starts on the same state up to
places, earlier events and the count of statements begun. -/
theorem run_append {program first second : Program} {fuel : Nat} {s t : State} (hfree : env.Free)
    (hprogram : Program.relocate r program = Program.relocate r first ++ Program.relocate r second)
    (hblind : (start program s).Blind r env)
    (hrun : (start program s).run env fuel = some (.done t)) :
    ∃ s', (start first s).run env fuel = some (.done s') ∧
      ∀ earlier begun s'', s''.within r earlier begun = s'.within r [] 0 →
        (start second s'').Blind r env ∧
        ∃ t', (start second s'').run env fuel = some (.done t') ∧
          t'.within r earlier begun = t.within r [] 0 := by
  have hfirst : Follows r [] 0 (Program.relocate r second) (start program s) (start first s) := by
    simp [Follows, within, start, hprogram, follow, framesWithin]
  obtain ⟨s', whole, fuel', hrun', hle, hwhole, hblind', hfollows⟩ :=
    hfirst.run_part hfree hblind hrun
  refine ⟨s', hrun', fun earlier begun s'' hs'' => ?_⟩
  have hsecond : Follows r earlier begun [] whole (start second s'') := by
    refine hfollows.trans ?_
    simp [within, start, follow, framesWithin, Program.relocate, hs'']
  obtain ⟨t', last, fuel'', hrun'', hle', hlast, -, hend⟩ :=
    hsecond.run_part hfree hblind' hwhole
  refine ⟨hsecond.blind hfree hblind', t', run_mono hle hrun'', ?_⟩
  -- nothing is left of the whole run either
  have hfinished : last.Finished := by
    have hempty : (within r earlier begun [] ⟨[], [], t'⟩).Finished := ⟨rfl, rfl⟩
    unfold Follows at hend
    rw [← hend] at hempty
    exact finished_of_within hempty
  obtain ⟨code, frames, u⟩ := last
  obtain ⟨rfl, rfl⟩ : code = [] ∧ frames = [] := hfinished
  cases fuel'' with
  | zero => cases hlast
  | succ fuel'' =>
    cases hlast
    exact (Machine.mk.inj hend).2.2.symm

end

end Machine

end StackShell
