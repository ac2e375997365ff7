import StackShell.Proofs.Acts

/-!
# Evaluation

The machine keeps all that is under way on one pile of frames. Here the same work is described piece
by piece, as it is nested: a program is evaluated statement by statement, and a statement by
evaluating the programs in it. An evaluation that breaks off keeps the failure as it was raised, and
beside it the chain of the statements that were under way, from the innermost to the outermost.

The two descriptions agree (`Machine.stops_iff_evaluates`): a machine comes to an outcome exactly if
there is an evaluation that ends with it. In one direction the proof follows the evaluation, in the
other one it follows the steps of the machine; both take a piece of work where it stands, with what
follows it and the frames around it.
-/

namespace StackShell

/-! ## Pieces of work -/

/-- A piece of work within a run. -/
inductive Work where
  | program (program : Program)
  /-- One statement that has been counted. -/
  | statement (statement : Statement)
  /-- The branches of a conditional that are left. -/
  | branches (branches : List Branch) (otherwise : Option Program)
  /-- A loop, from where it comes round. -/
  | loop (condition body : Program)

/-- How a piece of work ends. -/
inductive Ending where
  | through (state : State)
  /-- It breaks off with a failure, while the statements of the chain were under way, the innermost
  first. -/
  | broken (failure : Failure) (chain : List Statement) (state : State)

namespace Ending

/-- How an act ends: no statement is under way within it. -/
def of : Outcome → Ending
  | .done s => .through s
  | .failed failure s => .broken failure [] s

/-- How a piece of work ends that was under way within a statement. -/
def under (statement : Statement) : Ending → Ending
  | .through s => .through s
  | .broken failure chain s => .broken failure (chain ++ [statement]) s

end Ending

/-- How pieces of work end, where `room` says how many more parts of programs may nest within the
programs of the work. -/
inductive Evaluates (env : Environment) : Nat → Work → State → Ending → Prop where
  | nil {room : Nat} {s : State} : Evaluates env room (.program []) s (.through s)
  | refused {room : Nat} {statement : Statement} {rest : Program} {s t : State}
      {failure : Failure} :
      (Act.start statement).perform env s = .failed failure t →
        Evaluates env room (.program (statement :: rest)) s (.broken failure [] t)
  | breaks {room : Nat} {statement : Statement} {rest : Program} {s s₁ t : State}
      {failure : Failure} {chain : List Statement} :
      (Act.start statement).perform env s = .done s₁ →
        Evaluates env room (.statement statement) s₁ (.broken failure chain t) →
          Evaluates env room (.program (statement :: rest)) s (.broken failure chain t)
  | next {room : Nat} {statement : Statement} {rest : Program} {s s₁ s₂ : State} {e : Ending} :
      (Act.start statement).perform env s = .done s₁ →
        Evaluates env room (.statement statement) s₁ (.through s₂) →
          Evaluates env room (.program rest) s₂ e →
            Evaluates env room (.program (statement :: rest)) s e
  /-- A statement that is no more than its elementary act. -/
  | act {room : Nat} {statement : Statement} {act : Act} {s : State} :
      statement.act? = some act → (∀ name, act ≠ .fetch name) →
        Evaluates env room (.statement statement) s
          ((Ending.of (act.perform env s)).under statement)
  | stray {room : Nat} {s : State} :
      Evaluates env room (.statement .stray) s
        (.broken (.fault (.unknownStatement "Branch")) [.stray] s)
  | unfetched {room : Nat} {name : Option Text} {place : Location} {s : State}
      {failure : Failure} :
      s.fetch name = .error failure →
        Evaluates env room (.statement (.call name place)) s
          (.broken failure [.call name place] s)
  | callTooDeep {name : Option Text} {place : Location} {body : Program} {s s₁ : State} :
      s.fetch name = .ok (body, s₁) →
        Evaluates env 0 (.statement (.call name place)) s
          (.broken (.fault .depth) [.call name place] s₁)
  | called {room : Nat} {name : Option Text} {place : Location} {body : Program}
      {s s₁ : State} {e : Ending} :
      s.fetch name = .ok (body, s₁) → Evaluates env room (.program body) s₁ e →
        Evaluates env (room + 1) (.statement (.call name place)) s (e.under (.call name place))
  | conditionalTooDeep {branches : List Branch} {otherwise : Option Program} {s : State} :
      Evaluates env 0 (.statement (.conditional branches otherwise)) s
        (.broken (.fault .depth) [.conditional branches otherwise] s)
  | conditional {room : Nat} {branches : List Branch} {otherwise : Option Program} {s : State}
      {e : Ending} :
      Evaluates env room (.branches branches otherwise) s e →
        Evaluates env (room + 1) (.statement (.conditional branches otherwise)) s
          (e.under (.conditional branches otherwise))
  | loopTooDeep {condition body : Program} {s : State} :
      Evaluates env 0 (.statement (.whileLoop condition body)) s
        (.broken (.fault .depth) [.whileLoop condition body] s)
  | whileLoop {room : Nat} {condition body : Program} {s : State} {e : Ending} :
      Evaluates env room (.loop condition body) s e →
        Evaluates env (room + 1) (.statement (.whileLoop condition body)) s
          (e.under (.whileLoop condition body))
  | skipped {room : Nat} {s : State} : Evaluates env room (.branches [] none) s (.through s)
  | otherwise {room : Nat} {body : Program} {s : State} {e : Ending} :
      Evaluates env room (.program body) s e → Evaluates env room (.branches [] (some body)) s e
  | conditionBreaks {room : Nat} {branch : Branch} {others : List Branch}
      {otherwise : Option Program} {s t : State} {failure : Failure} {chain : List Statement} :
      Evaluates env room (.program branch.condition) s (.broken failure chain t) →
        Evaluates env room (.branches (branch :: others) otherwise) s (.broken failure chain t)
  | undecided {room : Nat} {branch : Branch} {others : List Branch} {otherwise : Option Program}
      {s s₁ : State} {failure : Failure} :
      Evaluates env room (.program branch.condition) s (.through s₁) →
        s₁.popBoolean = .error failure →
          Evaluates env room (.branches (branch :: others) otherwise) s (.broken failure [] s₁)
  | taken {room : Nat} {branch : Branch} {others : List Branch} {otherwise : Option Program}
      {s s₁ s₂ : State} {e : Ending} :
      Evaluates env room (.program branch.condition) s (.through s₁) →
        s₁.popBoolean = .ok (true, s₂) → Evaluates env room (.program branch.body) s₂ e →
          Evaluates env room (.branches (branch :: others) otherwise) s e
  | passed {room : Nat} {branch : Branch} {others : List Branch} {otherwise : Option Program}
      {s s₁ s₂ : State} {e : Ending} :
      Evaluates env room (.program branch.condition) s (.through s₁) →
        s₁.popBoolean = .ok (false, s₂) → Evaluates env room (.branches others otherwise) s₂ e →
          Evaluates env room (.branches (branch :: others) otherwise) s e
  | loopRefused {room : Nat} {condition body : Program} {s t : State} {failure : Failure} :
      (Act.round (.whileLoop condition body)).perform env s = .failed failure t →
        Evaluates env room (.loop condition body) s (.broken failure [] t)
  | loopConditionBreaks {room : Nat} {condition body : Program} {s s₁ t : State}
      {failure : Failure} {chain : List Statement} :
      (Act.round (.whileLoop condition body)).perform env s = .done s₁ →
        Evaluates env room (.program condition) s₁ (.broken failure chain t) →
          Evaluates env room (.loop condition body) s (.broken failure chain t)
  | loopUndecided {room : Nat} {condition body : Program} {s s₁ s₂ : State} {failure : Failure} :
      (Act.round (.whileLoop condition body)).perform env s = .done s₁ →
        Evaluates env room (.program condition) s₁ (.through s₂) →
          s₂.popBoolean = .error failure →
            Evaluates env room (.loop condition body) s (.broken failure [] s₂)
  | left {room : Nat} {condition body : Program} {s s₁ s₂ s₃ : State} :
      (Act.round (.whileLoop condition body)).perform env s = .done s₁ →
        Evaluates env room (.program condition) s₁ (.through s₂) →
          s₂.popBoolean = .ok (false, s₃) →
            Evaluates env room (.loop condition body) s (.through s₃)
  | bodyBreaks {room : Nat} {condition body : Program} {s s₁ s₂ s₃ t : State}
      {failure : Failure} {chain : List Statement} :
      (Act.round (.whileLoop condition body)).perform env s = .done s₁ →
        Evaluates env room (.program condition) s₁ (.through s₂) →
          s₂.popBoolean = .ok (true, s₃) →
            Evaluates env room (.program body) s₃ (.broken failure chain t) →
              Evaluates env room (.loop condition body) s (.broken failure chain t)
  | again {room : Nat} {condition body : Program} {s s₁ s₂ s₃ s₄ : State} {e : Ending} :
      (Act.round (.whileLoop condition body)).perform env s = .done s₁ →
        Evaluates env room (.program condition) s₁ (.through s₂) →
          s₂.popBoolean = .ok (true, s₃) →
            Evaluates env room (.program body) s₃ (.through s₄) →
              Evaluates env room (.loop condition body) s₄ e →
                Evaluates env room (.loop condition body) s e

/-! ## The place of a failure -/

/-- What a statement that is under way makes of a failure: it gives it its own place, if it has one,
unless the failure has a place already. -/
def Statement.locate (statement : Statement) (failure : Failure) : Failure :=
  match statement.place? with
  | some place => failure.locate place
  | none => failure

/-- What the statements of a chain make of a failure, the innermost first. -/
def Failure.locateBy (chain : List Statement) (failure : Failure) : Failure :=
  chain.foldl (fun failure statement => statement.locate failure) failure

namespace Failure

/-- A failure is given a place only once. -/
theorem locate_locate (failure : Failure) (place outer : Location) :
    (failure.locate place).locate outer = failure.locate place := by
  cases failure with
  | fault problem => rfl
  | script cause given =>
    cases given with
    | some given => rfl
    | none =>
      cases hruntime : cause.kind.isRuntime with
      | true => simp [locate, hruntime]
      | false => simp [locate, hruntime]

theorem locateBy_concat (chain : List Statement) (statement : Statement) (failure : Failure) :
    failure.locateBy (chain ++ [statement]) = statement.locate (failure.locateBy chain) := by
  simp [locateBy]

/-- A chain changes nothing about a failure that each of its statements leaves alone. -/
theorem locateBy_eq_self {failure : Failure} (h : ∀ place, failure.locate place = failure)
    (chain : List Statement) : failure.locateBy chain = failure := by
  induction chain with
  | nil => rfl
  | cons statement chain ih =>
    have hfirst : statement.locate failure = failure := by
      unfold Statement.locate
      split
      · exact h _
      · rfl
    show (statement.locate failure).locateBy chain = failure
    rw [hfirst]
    exact ih

end Failure

/-- The outcome of a run that ends so. -/
def Ending.outcome : Ending → Outcome
  | .through s => .done s
  | .broken failure chain s => .failed (failure.locateBy chain) s

namespace Machine

/-- The frames leave a failure alone that was located before. -/
theorem locateIn_locate (frames : List Frame) (failure : Failure) (place : Location) :
    locateIn frames (failure.locate place) = failure.locate place := by
  unfold locateIn
  split
  · exact failure.locate_locate place _
  · rfl

theorem locateIn_call (place : Location) (rest : Program) (frames : List Frame)
    (failure : Failure) :
    locateIn (.call place rest :: frames) failure = locateIn frames (failure.locate place) := by
  rw [locateIn_locate]
  rfl

/-- A failure of a statement is located by the statement first, then by the frames. -/
theorem locate_eq_locateIn (statement : Statement) (frames : List Frame) (failure : Failure) :
    locate statement frames failure = locateIn frames (statement.locate failure) := by
  unfold locate Statement.locate
  cases statement.place? with
  | some place => rw [locateIn_locate]
  | none => rfl

end Machine

/-! ## Work where it stands -/

/-- Whether a step leads to a machine with the property, or else to the outcome. -/
def Progress.At (P : Machine → Prop) (o : Outcome) : Progress → Prop
  | .running m => P m
  | .stopped o' => o' = o

/-- Whether a piece of work, with `rest` to follow it in the innermost of the frames, stands in a
machine with the property; a statement stands in the middle of a step. -/
def Work.At (env : Environment) (P : Machine → Prop) (o : Outcome) (rest : Program)
    (frames : List Frame) (s : State) : Work → Prop
  | .program code => P ⟨code ++ rest, frames, s⟩
  | .statement st => (Machine.executed st frames (Machine.execute env st rest frames s)).At P o
  | .branches left otherwise => P (Machine.choose left otherwise rest frames s)
  | .loop condition body => P ⟨[], .loopBody condition body rest :: frames, s⟩

/-- How many frames a piece of work puts around the programs in it. -/
def Work.nesting : Work → Nat
  | .program _ | .statement _ => 0
  | .branches .. | .loop .. => 1

/-- Whether a piece of work that ends so leaves a machine with the property, or else has led to the
outcome. -/
def Ending.At (P : Machine → Prop) (o : Outcome) (rest : Program) (frames : List Frame) :
    Ending → Prop
  | .through s => P ⟨rest, frames, s⟩
  | .broken failure chain s => o = .failed (locateIn frames (failure.locateBy chain)) s

namespace Machine

variable {env : Environment} {P Q : Machine → Prop} {o : Outcome} {rest : Program}
  {frames : List Frame}

/-- The first step of a program asks whether the first statement may begin. -/
theorem step_cons (env : Environment) (statement : Statement) (rest : Program)
    (frames : List Frame) (s : State) :
    step env ⟨statement :: rest, frames, s⟩ =
      match (Act.start statement).perform env s with
      | .failed failure t => .stopped (.failed (locateIn frames failure) t)
      | .done t => executed statement frames (execute env statement rest frames t) := by
  simp only [Act.perform]
  cases hcheck : env.check statement s with
  | failed failure t => exact begin_of_check_failed hcheck rest frames
  | done t => exact begin_of_check hcheck rest frames

/-- A statement that is no more than its elementary act does what the act does. -/
theorem execute_act {statement : Statement} {act : Act} (hact : statement.act? = some act)
    (hfetch : ∀ name, act ≠ .fetch name) (rest : Program) (frames : List Frame) (s : State) :
    execute env statement rest frames s =
      match act.perform env s with
      | .done t => .ok ⟨rest, frames, t⟩
      | .failed failure t => .error (failure, t) := by
  cases statement with
  | literal v place =>
    cases hact
    rfl
  | load name place =>
    cases hact
    simp only [execute, Act.perform]
    cases s.lookup name <;> rfl
  | store name place =>
    cases hact
    simp only [execute, Act.perform]
    cases s.pop <;> rfl
  | invoke name place =>
    cases hact
    simp only [execute, Act.perform]
    cases env.command? name <;> rfl
  | define name body =>
    cases hact
    cases name <;> rfl
  | call name place =>
    cases hact
    exact absurd rfl (hfetch name)
  | conditional | whileLoop | stray => cases hact

/-- A loop asks whether it may come round, and then its condition runs. -/
theorem step_loopBody (env : Environment) (condition body rest : Program) (frames : List Frame)
    (s : State) :
    step env ⟨[], .loopBody condition body rest :: frames, s⟩ =
      match (Act.round (.whileLoop condition body)).perform env s with
      | .failed failure t => .stopped (.failed (locateIn frames failure) t)
      | .done t => .running ⟨condition, .loopCondition condition body rest :: frames, t⟩ :=
  rfl

/-- The outcome of the condition of a branch decides between its body and the other branches. -/
theorem step_branch (env : Environment) (body : Program) (others : List Branch)
    (otherwise : Option Program) (rest : Program) (frames : List Frame) (s : State) :
    step env ⟨[], .branch body others otherwise rest :: frames, s⟩ =
      match s.popBoolean with
      | .ok (true, t) => .running ⟨body, .chosen rest :: frames, t⟩
      | .ok (false, t) => .running (choose others otherwise rest frames t)
      | .error failure => .stopped (.failed (locateIn frames failure) s) := by
  simp only [step, resume, decideBy]
  rcases s.popBoolean with failure | ⟨_ | _, t⟩ <;> rfl

/-- The outcome of the condition of a loop decides between its body and what follows. -/
theorem step_loopCondition (env : Environment) (condition body rest : Program)
    (frames : List Frame) (s : State) :
    step env ⟨[], .loopCondition condition body rest :: frames, s⟩ =
      match s.popBoolean with
      | .ok (true, t) => .running ⟨body, .loopBody condition body rest :: frames, t⟩
      | .ok (false, t) => .running ⟨rest, frames, t⟩
      | .error failure => .stopped (.failed (locateIn frames failure) s) := by
  simp only [step, resume, decideBy]
  rcases s.popBoolean with failure | ⟨_ | _, t⟩ <;> rfl

end Machine

namespace Ending

variable {P Q : Machine → Prop} {o : Outcome} {rest : Program} {frames : List Frame} {e : Ending}

theorem At.mono (hPQ : ∀ m, P m → Q m) (h : e.At P o rest frames) : e.At Q o rest frames := by
  cases e with
  | through s => exact hPQ _ h
  | broken failure chain s => exact h

/-- A statement without a place changes nothing about where work ends. -/
theorem at_under {statement : Statement} (hplace : statement.place? = none) :
    (e.under statement).At P o rest frames ↔ e.At P o rest frames := by
  cases e with
  | through s => exact Iff.rfl
  | broken failure chain s =>
    simp only [under, At, Failure.locateBy_concat, Statement.locate, hplace]

/-- A failure of an act is located by the statement that it belongs to. -/
theorem at_of_under (statement : Statement) (result : Outcome) :
    ((of result).under statement).At P o rest frames ↔
      (Machine.executed statement frames (match result with
        | .done t => .ok ⟨rest, frames, t⟩
        | .failed failure t => .error (failure, t))).At P o := by
  cases result with
  | done t => exact Iff.rfl
  | failed failure t =>
    simp only [of, under, At, Failure.locateBy_concat, Machine.executed, Progress.At,
      Machine.locate_eq_locateIn]
    exact eq_comm

end Ending

/-! ## From evaluations to runs -/

section Sound

variable {env : Environment} {P : Machine → Prop} {o : Outcome}

/-- A chosen part of a conditional is worked off in its own frame. -/
theorem Ending.at_chosen (hback : ∀ m : Machine, (m.step env).At P o → P m) {e : Ending}
    {rest : Program} {frames : List Frame} (h : e.At P o rest frames) :
    e.At P o [] (.chosen rest :: frames) := by
  cases e with
  | through s => exact hback _ h
  | broken failure chain s => exact h

/-- The body of a function is worked off in the frame of its call. -/
theorem Ending.at_call (hback : ∀ m : Machine, (m.step env).At P o → P m) {e : Ending}
    {name : Option Text} {place : Location} {rest : Program} {frames : List Frame}
    (h : (e.under (.call name place)).At P o rest frames) :
    e.At P o [] (.call place rest :: frames) := by
  cases e with
  | through s => exact hback _ h
  | broken failure chain s =>
    simp only [under, At, Failure.locateBy_concat] at h
    simp only [At, Machine.locateIn_call]
    exact h

theorem Work.at_program_nil {program : Program} {frames : List Frame} {s : State} :
    (Work.program program).At env P o [] frames s ↔ P ⟨program, frames, s⟩ := by
  rw [Work.At, List.append_nil]

/-- The condition of a branch is worked off in a frame of its own. -/
theorem Work.at_branches {branch : Branch} {others : List Branch} {otherwise : Option Program}
    {s : State} {rest : Program} {frames : List Frame}
    (h : (Work.program branch.condition).At env P o []
      (.branch branch.body others otherwise rest :: frames) s) :
    (Work.branches (branch :: others) otherwise).At env P o rest frames s :=
  Work.at_program_nil.1 h

/-- A loop that comes round works off its condition in a frame of its own. -/
theorem Work.at_loop (hback : ∀ m : Machine, (m.step env).At P o → P m) {condition body : Program}
    {s s₁ : State} (hround : (Act.round (.whileLoop condition body)).perform env s = .done s₁)
    {rest : Program} {frames : List Frame}
    (h : (Work.program condition).At env P o [] (.loopCondition condition body rest :: frames) s₁) :
    (Work.loop condition body).At env P o rest frames s := by
  apply hback
  rw [Machine.step_loopBody, hround]
  exact Work.at_program_nil.1 h

/-- Where a statement has room, one more frame may be put around its parts. -/
theorem Work.room_of_nest {depth room nested : Nat} (h : nested + (room + 1) = depth) :
    nested < depth := by
  omega

/-- The room for a statement, less one, is that for its parts. -/
theorem Work.room_within {depth room nested : Nat} (h : nested + (room + 1) = depth) :
    nested + 1 + room = depth := by
  omega

/-- Work that is evaluated is done by the machine, wherever it stands. The induction is on the
evaluation; what the machine does after the work is all in `P`, which holds of a machine as soon as
its next step keeps it or leads to the outcome. -/
theorem Evaluates.at (hback : ∀ m : Machine, (m.step env).At P o → P m) {room : Nat} {w : Work}
    {s : State} {e : Ending} (h : Evaluates env room w s e) (rest : Program)
    (frames : List Frame) (hroom : frames.length + w.nesting + room = env.depth)
    (hend : e.At P o rest frames) : w.At env P o rest frames s := by
  induction h generalizing rest frames with
  | nil => exact hend
  | refused hstart =>
    apply hback
    rw [List.cons_append, Machine.step_cons, hstart]
    exact hend.symm
  | breaks hstart _ ih =>
    apply hback
    rw [List.cons_append, Machine.step_cons, hstart]
    exact ih _ _ hroom hend
  | next hstart _ _ ihFirst ihRest =>
    apply hback
    rw [List.cons_append, Machine.step_cons, hstart]
    exact ihFirst _ _ hroom (ihRest _ _ hroom hend)
  | act hact hfetch =>
    simp only [Work.At]
    rw [Machine.execute_act hact hfetch]
    exact (Ending.at_of_under _ _).1 hend
  | stray => exact hend.symm
  | unfetched hfetch =>
    simp only [Work.At]
    rw [Machine.execute_call, hfetch]
    exact (Ending.at_of_under _ (.failed _ _)).1 hend
  | callTooDeep hfetch =>
    simp only [Work.At]
    rw [Machine.execute_call, hfetch]
    simp only
    rw [Machine.nest_of_le (Nat.le_of_eq hroom.symm)]
    exact (Ending.at_of_under _ (.failed _ _)).1 hend
  | called hfetch _ ih =>
    simp only [Work.At]
    rw [Machine.execute_call, hfetch]
    simp only
    rw [Machine.nest_of_lt (Work.room_of_nest hroom)]
    -- the frame of the call takes some of the room
    exact Work.at_program_nil.1 (ih _ _ (Work.room_within hroom) (Ending.at_call hback hend))
  | conditionalTooDeep =>
    simp only [Work.At, Machine.execute]
    rw [Machine.nest_of_le (Nat.le_of_eq hroom.symm), Machine.choose_state]
    exact (Ending.at_of_under _ (.failed _ _)).1 hend
  | conditional _ ih =>
    simp only [Work.At, Machine.execute]
    rw [Machine.nest_of_lt (Work.room_of_nest hroom)]
    exact ih _ _ (Work.room_within hroom) ((Ending.at_under rfl).1 hend)
  | loopTooDeep =>
    simp only [Work.At, Machine.execute]
    rw [Machine.nest_of_le (Nat.le_of_eq hroom.symm)]
    exact (Ending.at_of_under _ (.failed _ _)).1 hend
  | whileLoop _ ih =>
    simp only [Work.At, Machine.execute]
    rw [Machine.nest_of_lt (Work.room_of_nest hroom)]
    exact ih _ _ (Work.room_within hroom) ((Ending.at_under rfl).1 hend)
  | skipped => exact hend
  | otherwise _ ih =>
    exact Work.at_program_nil.1 (ih _ _ hroom (Ending.at_chosen hback hend))
  | conditionBreaks _ ih => exact Work.at_branches (ih _ _ hroom hend)
  | undecided _ hpop ih =>
    refine Work.at_branches (ih _ _ hroom (hback _ ?_))
    rw [Machine.step_branch, hpop]
    exact hend.symm
  | taken _ hpop _ ihCondition ihBody =>
    have hbody := ihBody [] (.chosen rest :: frames) hroom (Ending.at_chosen hback hend)
    refine Work.at_branches (ihCondition _ _ hroom (hback _ ?_))
    rw [Machine.step_branch, hpop]
    exact Work.at_program_nil.1 hbody
  | passed _ hpop _ ihCondition ihOthers =>
    refine Work.at_branches (ihCondition _ _ hroom (hback _ ?_))
    rw [Machine.step_branch, hpop]
    exact ihOthers _ _ hroom hend
  | loopRefused hround =>
    apply hback
    rw [Machine.step_loopBody, hround]
    exact hend.symm
  | loopConditionBreaks hround _ ih => exact Work.at_loop hback hround (ih _ _ hroom hend)
  | loopUndecided hround _ hpop ih =>
    refine Work.at_loop hback hround (ih _ _ hroom (hback _ ?_))
    rw [Machine.step_loopCondition, hpop]
    exact hend.symm
  | left hround _ hpop ih =>
    refine Work.at_loop hback hround (ih _ _ hroom (hback _ ?_))
    rw [Machine.step_loopCondition, hpop]
    exact hend
  | @bodyBreaks room condition body s s₁ s₂ s₃ t failure chain hround _ hpop _ ihCondition
      ihBody =>
    have hbody := ihBody [] (.loopBody condition body rest :: frames) hroom hend
    refine Work.at_loop hback hround (ihCondition _ _ hroom (hback _ ?_))
    rw [Machine.step_loopCondition, hpop]
    exact Work.at_program_nil.1 hbody
  | @again room condition body s s₁ s₂ s₃ s₄ e hround _ hpop _ _ ihCondition ihBody ihLoop =>
    -- when the body is through, the frame is where the loop comes round
    have hbody := ihBody [] (.loopBody condition body rest :: frames) hroom
      (ihLoop _ _ hroom hend)
    refine Work.at_loop hback hround (ihCondition _ _ hroom (hback _ ?_))
    rw [Machine.step_loopCondition, hpop]
    exact Work.at_program_nil.1 hbody

end Sound

/-! ## From runs to evaluations -/

namespace Machine

/-- Whether a machine comes to the outcome within `fuel` steps. -/
def ComesTo (env : Environment) (o : Outcome) (fuel : Nat) (m : Machine) : Prop :=
  m.run env fuel = some o

variable {env : Environment} {o : Outcome} {fuel : Nat} {m : Machine}

theorem not_comesTo_zero : ¬ComesTo env o 0 m := by
  intro h
  cases h

theorem comesTo_succ : ComesTo env o (fuel + 1) m ↔ (m.step env).At (ComesTo env o fuel) o := by
  unfold ComesTo
  cases hstep : m.step env with
  | running m' =>
    rw [run_succ_of_running hstep]
    exact Iff.rfl
  | stopped o' =>
    rw [run_succ_of_stopped hstep]
    exact Option.some_inj

theorem ComesTo.mono {fuel' : Nat} (hle : fuel ≤ fuel') (h : ComesTo env o fuel m) :
    ComesTo env o fuel' m :=
  run_mono hle h

end Machine

open Machine (ComesTo)

/-- Whether a piece of work is evaluated whenever a machine that it stands in comes to the outcome
within `fuel` steps, and the machine that it leaves comes to that outcome as soon. -/
def Work.Accounted (env : Environment) (o : Outcome) (fuel : Nat) (w : Work) : Prop :=
  ∀ room rest frames s, frames.length + w.nesting + room = env.depth →
    w.At env (ComesTo env o fuel) o rest frames s →
      ∃ e, Evaluates env room w s e ∧ e.At (ComesTo env o fuel) o rest frames

section Complete

variable {env : Environment} {o : Outcome} {fuel : Nat}

theorem Ending.At.of_chosen {e : Ending} {rest : Program} {frames : List Frame}
    (h : e.At (ComesTo env o fuel) o [] (.chosen rest :: frames)) :
    e.At (ComesTo env o fuel) o rest frames := by
  cases e with
  | broken failure chain s => exact h
  | through s =>
    cases fuel with
    | zero => exact absurd h Machine.not_comesTo_zero
    | succ fuel =>
      have hleft : ComesTo env o fuel ⟨rest, frames, s⟩ := Machine.comesTo_succ.1 h
      exact hleft.mono (Nat.le_succ fuel)

theorem Ending.At.of_call {e : Ending} {name : Option Text} {place : Location} {rest : Program}
    {frames : List Frame} (h : e.At (ComesTo env o fuel) o [] (.call place rest :: frames)) :
    (e.under (.call name place)).At (ComesTo env o fuel) o rest frames := by
  cases e with
  | broken failure chain s =>
    simp only [At, Machine.locateIn_call] at h
    simp only [under, At, Failure.locateBy_concat]
    exact h
  | through s =>
    cases fuel with
    | zero => exact absurd h Machine.not_comesTo_zero
    | succ fuel =>
      have hreturned : ComesTo env o fuel ⟨rest, frames, s⟩ := Machine.comesTo_succ.1 h
      exact hreturned.mono (Nat.le_succ fuel)

namespace Work

/-- A program is evaluated if all work is that takes fewer steps. -/
theorem program_accounted (hless : ∀ fuel' < fuel, ∀ w, Accounted env o fuel' w)
    (code : Program) : Accounted env o fuel (.program code) := by
  intro room rest frames s hroom h
  cases code with
  | nil => exact ⟨.through s, .nil, h⟩
  | cons statement later =>
    cases fuel with
    | zero => exact absurd h Machine.not_comesTo_zero
    | succ fuel =>
      have hstep := Machine.comesTo_succ.1 h
      rw [List.cons_append, Machine.step_cons] at hstep
      cases hstart : (Act.start statement).perform env s with
      | failed failure t =>
        rw [hstart] at hstep
        exact ⟨.broken failure [] t, .refused hstart, hstep.symm⟩
      | done s₁ =>
        rw [hstart] at hstep
        -- the step is spent on the beginning, so both parts come to the outcome sooner
        obtain ⟨e₁, hfirst, hend₁⟩ := hless fuel (Nat.lt_succ_self fuel) (.statement statement)
          room (later ++ rest) frames s₁ hroom hstep
        cases e₁ with
        | broken failure chain t => exact ⟨_, .breaks hstart hfirst, hend₁⟩
        | through s₂ =>
          obtain ⟨e, hlater, hend⟩ := hless fuel (Nat.lt_succ_self fuel) (.program later)
            room rest frames s₂ hroom hend₁
          exact ⟨e, .next hstart hfirst hlater,
            hend.mono fun m hm => hm.mono (Nat.le_succ fuel)⟩

theorem branches_accounted (hless : ∀ fuel' < fuel, ∀ w, Accounted env o fuel' w)
    (left : List Branch) (otherwise : Option Program) :
    Accounted env o fuel (.branches left otherwise) := by
  intro room rest frames s hroom h
  cases left with
  | nil =>
    cases otherwise with
    | none => exact ⟨.through s, .skipped, h⟩
    | some body =>
      obtain ⟨e, hbody, hend⟩ := program_accounted hless body room [] (.chosen rest :: frames) s
        hroom (Work.at_program_nil.2 h)
      exact ⟨e, .otherwise hbody, hend.of_chosen⟩
  | cons branch others =>
    -- no step has been made yet: the condition stands in the very same machine
    obtain ⟨e₁, hcondition, hend₁⟩ := program_accounted hless branch.condition room []
      (.branch branch.body others otherwise rest :: frames) s hroom (Work.at_program_nil.2 h)
    cases e₁ with
    | broken failure chain t => exact ⟨_, .conditionBreaks hcondition, hend₁⟩
    | through s₁ =>
      cases fuel with
      | zero => exact absurd hend₁ Machine.not_comesTo_zero
      | succ fuel =>
        have hstep := Machine.comesTo_succ.1 hend₁
        rw [Machine.step_branch] at hstep
        cases hpop : s₁.popBoolean with
        | error failure =>
          rw [hpop] at hstep
          exact ⟨_, .undecided hcondition hpop, hstep.symm⟩
        | ok popped =>
          rw [hpop] at hstep
          obtain ⟨decision, s₂⟩ := popped
          cases decision with
          | true =>
            obtain ⟨e, hbody, hend⟩ := hless fuel (Nat.lt_succ_self fuel) (.program branch.body)
              room [] (.chosen rest :: frames) s₂ hroom (Work.at_program_nil.2 hstep)
            exact ⟨e, .taken hcondition hpop hbody,
              hend.of_chosen.mono fun m hm => hm.mono (Nat.le_succ fuel)⟩
          | false =>
            obtain ⟨e, hothers, hend⟩ := hless fuel (Nat.lt_succ_self fuel)
              (.branches others otherwise) room rest frames s₂ hroom hstep
            exact ⟨e, .passed hcondition hpop hothers,
              hend.mono fun m hm => hm.mono (Nat.le_succ fuel)⟩

theorem loop_accounted (hless : ∀ fuel' < fuel, ∀ w, Accounted env o fuel' w)
    (condition body : Program) : Accounted env o fuel (.loop condition body) := by
  intro room rest frames s hroom h
  cases fuel with
  | zero => exact absurd h Machine.not_comesTo_zero
  | succ fuel =>
    have hstep := Machine.comesTo_succ.1 h
    rw [Machine.step_loopBody] at hstep
    cases hround : (Act.round (.whileLoop condition body)).perform env s with
    | failed failure t =>
      rw [hround] at hstep
      exact ⟨_, .loopRefused hround, hstep.symm⟩
    | done s₁ =>
      rw [hround] at hstep
      obtain ⟨e₁, hcondition, hend₁⟩ := hless fuel (Nat.lt_succ_self fuel) (.program condition)
        room [] (.loopCondition condition body rest :: frames) s₁ hroom
        (Work.at_program_nil.2 hstep)
      cases e₁ with
      | broken failure chain t => exact ⟨_, .loopConditionBreaks hround hcondition, hend₁⟩
      | through s₂ =>
        -- a second step takes the outcome of the condition off the stack
        cases fuel with
        | zero => exact absurd hend₁ Machine.not_comesTo_zero
        | succ fuel =>
          have hstep := Machine.comesTo_succ.1 hend₁
          rw [Machine.step_loopCondition] at hstep
          cases hpop : s₂.popBoolean with
          | error failure =>
            rw [hpop] at hstep
            exact ⟨_, .loopUndecided hround hcondition hpop, hstep.symm⟩
          | ok popped =>
            rw [hpop] at hstep
            obtain ⟨decision, s₃⟩ := popped
            cases decision with
            | false =>
              exact ⟨_, .left hround hcondition hpop, hstep.mono (by omega)⟩
            | true =>
              obtain ⟨e₂, hbody, hend₂⟩ := hless fuel (by omega) (.program body) room []
                (.loopBody condition body rest :: frames) s₃ hroom (Work.at_program_nil.2 hstep)
              cases e₂ with
              | broken failure chain t => exact ⟨_, .bodyBreaks hround hcondition hpop hbody, hend₂⟩
              | through s₄ =>
                -- the body leaves the machine where the loop comes round
                obtain ⟨e, hloop, hend⟩ := hless fuel (by omega) (.loop condition body) room rest
                  frames s₄ hroom hend₂
                exact ⟨e, .again hround hcondition hpop hbody hloop,
                  hend.mono fun m hm => hm.mono (by omega)⟩

theorem act_accounted {statement : Statement} {act : Act} (hact : statement.act? = some act)
    (hfetch : ∀ name, act ≠ .fetch name) : Accounted env o fuel (.statement statement) := by
  intro room rest frames s hroom h
  simp only [Work.At] at h
  rw [Machine.execute_act hact hfetch] at h
  exact ⟨_, .act hact hfetch, (Ending.at_of_under statement _).2 h⟩

theorem call_accounted (hless : ∀ fuel' < fuel, ∀ w, Accounted env o fuel' w)
    (name : Option Text) (place : Location) :
    Accounted env o fuel (.statement (.call name place)) := by
  intro room rest frames s hroom h
  simp only [Work.At] at h
  rw [Machine.execute_call] at h
  cases hfetch : s.fetch name with
  | error failure =>
    rw [hfetch] at h
    exact ⟨_, .unfetched hfetch, (Ending.at_of_under _ (.failed failure s)).2 h⟩
  | ok fetched =>
    obtain ⟨body, s₁⟩ := fetched
    rw [hfetch] at h
    simp only at h
    cases room with
    | zero =>
      rw [Machine.nest_of_le (Nat.le_of_eq hroom.symm)] at h
      exact ⟨_, .callTooDeep hfetch, (Ending.at_of_under _ (.failed (.fault .depth) s₁)).2 h⟩
    | succ room =>
      rw [Machine.nest_of_lt (room_of_nest hroom)] at h
      obtain ⟨e, hbody, hend⟩ := program_accounted hless body room []
        (.call place rest :: frames) s₁ (room_within hroom) (Work.at_program_nil.2 h)
      exact ⟨_, .called hfetch hbody, hend.of_call⟩

theorem statement_accounted (hless : ∀ fuel' < fuel, ∀ w, Accounted env o fuel' w)
    (statement : Statement) : Accounted env o fuel (.statement statement) := by
  cases statement with
  | call name place => exact call_accounted hless name place
  | conditional branches otherwise =>
    intro room rest frames s hroom h
    simp only [Work.At, Machine.execute] at h
    cases room with
    | zero =>
      rw [Machine.nest_of_le (Nat.le_of_eq hroom.symm), Machine.choose_state] at h
      exact ⟨_, .conditionalTooDeep, (Ending.at_of_under _ (.failed (.fault .depth) s)).2 h⟩
    | succ room =>
      rw [Machine.nest_of_lt (room_of_nest hroom)] at h
      obtain ⟨e, hbranches, hend⟩ := branches_accounted hless branches otherwise room rest frames
        s (room_within hroom) h
      exact ⟨_, .conditional hbranches, (Ending.at_under rfl).2 hend⟩
  | whileLoop condition body =>
    intro room rest frames s hroom h
    simp only [Work.At, Machine.execute] at h
    cases room with
    | zero =>
      rw [Machine.nest_of_le (Nat.le_of_eq hroom.symm)] at h
      exact ⟨_, .loopTooDeep, (Ending.at_of_under _ (.failed (.fault .depth) s)).2 h⟩
    | succ room =>
      rw [Machine.nest_of_lt (room_of_nest hroom)] at h
      obtain ⟨e, hloop, hend⟩ := loop_accounted hless condition body room rest frames s
        (room_within hroom) h
      exact ⟨_, .whileLoop hloop, (Ending.at_under rfl).2 hend⟩
  | stray =>
    intro room rest frames s hroom h
    exact ⟨_, .stray, h.symm⟩
  | literal | load | store | invoke | define =>
    exact act_accounted rfl fun name h => by cases h

/-- What a machine comes to is accounted for by the evaluation of the work in it. The induction is
on the steps that are left: between two of them a statement may turn into its branches or its loop,
and these into programs, but a program begins with a step. -/
theorem accounted (fuel : Nat) (w : Work) : Accounted env o fuel w := by
  induction fuel using Nat.strongRecOn generalizing w with
  | ind fuel hless =>
    cases w with
    | program code => exact program_accounted hless code
    | statement st => exact statement_accounted hless st
    | branches left otherwise => exact branches_accounted hless left otherwise
    | loop condition body => exact loop_accounted hless condition body

end Work

end Complete

/-! ## The two agree -/

namespace Machine

variable {env : Environment} {o : Outcome}

theorem stops_of_step {m : Machine} (h : (m.step env).At (Stops env · o) o) : Stops env m o := by
  cases hstep : m.step env with
  | running m' =>
    rw [hstep] at h
    exact .of_running hstep h
  | stopped o' =>
    rw [hstep] at h
    obtain rfl : o' = o := h
    exact .of_stopped hstep

theorem ending_at_nil {e : Ending} : e.At (Stops env · o) o [] [] ↔ o = e.outcome := by
  cases e with
  | broken failure chain s => exact Iff.rfl
  | through s =>
    have hdone : Stops env ⟨[], [], s⟩ (.done s) := .of_stopped rfl
    constructor
    · intro h
      exact h.unique hdone
    · intro h
      rw [h]
      exact hdone

/-- A machine that starts on a program comes to exactly the outcomes of its evaluations. -/
theorem stops_iff_evaluates {program : Program} {s : State} :
    Stops env (start program s) o ↔
      ∃ e, Evaluates env env.depth (.program program) s e ∧ o = e.outcome := by
  have hroom : 0 + env.depth = env.depth := Nat.zero_add _
  constructor
  · rintro ⟨fuel, hrun⟩
    obtain ⟨e, he, hend⟩ := Work.accounted fuel (.program program) env.depth [] [] s hroom
      (Work.at_program_nil.2 hrun)
    exact ⟨e, he, ending_at_nil.1 (hend.mono fun m hm => ⟨fuel, hm⟩)⟩
  · rintro ⟨e, he, ho⟩
    exact Work.at_program_nil.1
      (he.at (fun m h => stops_of_step h) [] [] hroom (ending_at_nil.2 ho))

end Machine

end StackShell
