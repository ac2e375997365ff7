import StackShell.Program.Reader
import StackShell.Proofs.Places.Basic
import StackShell.Proofs.Results

/-!
# Reading tokens that stand elsewhere

The reader does not look at where tokens stand: from the same tokens at other places it makes the
same program at these places, or refuses it for the same reason at one of these places
(`Program.parse_relocate`).
-/

namespace StackShell

/-- A lexeme that stands elsewhere. -/
def Lexeme.relocate (r : Location → Location) (token : Lexeme) : Lexeme :=
  { token with place := r token.place }

/-- The refusal of a source text whose tokens stand elsewhere. -/
def Failure.relocateSource (r : Location → Location) : Failure → Failure
  | .script (.parse error) place => .script (.parse { error with place := r error.place }) place
  | failure => failure

/-- What is read from tokens that stand elsewhere: `f` moves what is read, `r` a refusal. -/
def readElsewhere {α β : Type} (r : Location → Location) (f : α → β) (x : Except Failure α) :
    Except Failure β :=
  (x.map f).mapError (Failure.relocateSource r)

/-- One thing is read elsewhere after another. -/
theorem readElsewhere_bind {α β γ δ : Type} {r : Location → Location} {f : α → β} {h : γ → δ}
    {x : Except Failure α} {next : α → Except Failure γ} {next' : β → Except Failure δ}
    (hnext : ∀ a, next' (f a) = readElsewhere r h (next a)) :
    (readElsewhere r f x >>= next') = readElsewhere r h (x >>= next) := by
  cases x with
  | error failure => rfl
  | ok a => exact hnext a

/-! ## Nodes -/

mutual

/-- A node whose tokens stand elsewhere. -/
def Node.relocate (r : Location → Location) : Node → Node
  | .atom token => .atom (token.relocate r)
  | .conditional branches otherwise =>
    .conditional (NodeBranch.relocateAll r branches) (Node.relocateOption r otherwise)
  | .whileLoop condition body => .whileLoop (Node.relocateAll r condition) (Node.relocateAll r body)
  | .define name body => .define (name.map (Lexeme.relocate r)) (Node.relocateAll r body)
termination_by structural x => x

/-- Each node with its tokens elsewhere. -/
def Node.relocateAll (r : Location → Location) : List Node → List Node
  | [] => []
  | node :: rest => Node.relocate r node :: Node.relocateAll r rest
termination_by structural x => x

/-- A row of nodes that may be missing, with its tokens elsewhere. -/
def Node.relocateOption (r : Location → Location) : Option (List Node) → Option (List Node)
  | none => none
  | some body => some (Node.relocateAll r body)
termination_by structural x => x

/-- A branch whose tokens stand elsewhere. -/
def NodeBranch.relocate (r : Location → Location) : NodeBranch → NodeBranch
  | .mk condition body => .mk (Node.relocateAll r condition) (Node.relocateAll r body)
termination_by structural x => x

/-- Each branch with its tokens elsewhere. -/
def NodeBranch.relocateAll (r : Location → Location) : List NodeBranch → List NodeBranch
  | [] => []
  | branch :: rest => NodeBranch.relocate r branch :: NodeBranch.relocateAll r rest
termination_by structural x => x

end

section

variable (r : Location → Location)

theorem Node.relocateAll_eq_map (nodes : List Node) :
    Node.relocateAll r nodes = nodes.map (Node.relocate r) := by
  induction nodes with
  | nil => rfl
  | cons node rest ih => rw [Node.relocateAll, ih, List.map_cons]

theorem NodeBranch.relocateAll_eq_map (branches : List NodeBranch) :
    NodeBranch.relocateAll r branches = branches.map (NodeBranch.relocate r) := by
  induction branches with
  | nil => rfl
  | cons branch rest ih => rw [NodeBranch.relocateAll, ih, List.map_cons]

end

/-! ## Statements -/

namespace Program

variable [Platform]

/-- What is still to be read, elsewhere. -/
def Pending.relocate (r : Location → Location) : Pending → Pending
  | .leaf token => .leaf (token.relocate r)
  | .ready s => .ready (s.relocate r)

namespace Reading

variable (reading : Reading) (r : Location → Location)

theorem atom_relocate (part : Text) (token : Lexeme) :
    reading.atom part (token.relocate r) =
      readElsewhere r (Statement.relocate r) (reading.atom part token) := by
  unfold atom
  have hkind : (token.relocate r).kind = token.kind := rfl
  rw [hkind]
  cases token.kind with
  | integer =>
    -- a number that is too long or malformed is reported without its place
    show (readIntegerToken part token >>= _) = _
    dsimp only
    unfold readIntegerToken
    cases Decimal.readInteger token.text with
    | ok n => rfl
    | error problem => cases problem <;> rfl
  | string =>
    show (readStringToken reading.file (token.relocate r) >>= _) = _
    have hinner : innerOf (token.relocate r) = innerOf token := rfl
    dsimp only
    unfold readStringToken
    rw [hinner]
    cases Escape.decode (innerOf token) <;> rfl
  | real | store | namedCall | atSign => rfl
  | word | blank | comment =>
    have htext : (token.relocate r).text = token.text := rfl
    dsimp only
    rw [htext]
    split <;> rfl
  | keyword k =>
    cases k with
    | trueWord | falseWord | callWord => rfl
    | _ =>
      have htext : (token.relocate r).text = token.text := rfl
      dsimp only
      rw [htext]
      split <;> rfl

theorem leaves_relocate (part : Text) (pending : List Pending) :
    reading.leaves part (pending.map (Pending.relocate r)) =
      readElsewhere r (Program.relocate r) (reading.leaves part pending) := by
  induction pending with
  | nil => rfl
  | cons p rest ih =>
    cases p with
    | leaf token =>
      rw [List.map_cons, Pending.relocate, leaves, leaves, atom_relocate, ih]
      exact readElsewhere_bind fun s => readElsewhere_bind fun others => rfl
    | ready s =>
      rw [List.map_cons, Pending.relocate, leaves, leaves, ih]
      exact readElsewhere_bind fun others => rfl

mutual

theorem node_relocate (node : Node) :
    reading.node (node.relocate r) = readElsewhere r (Pending.relocate r) (reading.node node) := by
  cases node with
  | atom token => rfl
  | conditional branches otherwise =>
    rw [Node.relocate, Reading.node, Reading.node, branches_relocate, otherwise_relocate]
    exact readElsewhere_bind fun bs => readElsewhere_bind fun o => rfl
  | whileLoop condition body =>
    rw [Node.relocate, Reading.node, Reading.node, nodes_relocate condition, nodes_relocate body]
    refine readElsewhere_bind fun ps => ?_
    rw [leaves_relocate]
    refine readElsewhere_bind fun c => readElsewhere_bind fun ps' => ?_
    rw [leaves_relocate]
    exact readElsewhere_bind fun b => rfl
  | define name body =>
    rw [Node.relocate, Reading.node, Reading.node, nodes_relocate body]
    refine readElsewhere_bind fun ps => ?_
    rw [leaves_relocate]
    exact readElsewhere_bind fun b => by cases name <;> rfl
termination_by structural node

theorem nodes_relocate (nodes : List Node) :
    reading.nodes (Node.relocateAll r nodes) =
      readElsewhere r (List.map (Pending.relocate r)) (reading.nodes nodes) := by
  cases nodes with
  | nil => rfl
  | cons node rest =>
    rw [Node.relocateAll, Reading.nodes, Reading.nodes, node_relocate node, nodes_relocate rest]
    exact readElsewhere_bind fun p => readElsewhere_bind fun ps => rfl
termination_by structural nodes

theorem otherwise_relocate (otherwise : Option (List Node)) :
    reading.otherwise (Node.relocateOption r otherwise) =
      readElsewhere r (Program.relocateOption r) (reading.otherwise otherwise) := by
  cases otherwise with
  | none => rfl
  | some body =>
    rw [Node.relocateOption, Reading.otherwise, Reading.otherwise, nodes_relocate body]
    refine readElsewhere_bind fun ps => ?_
    rw [leaves_relocate]
    exact readElsewhere_bind fun b => rfl
termination_by structural otherwise

theorem branch_relocate (branch : NodeBranch) :
    reading.branch (branch.relocate r) =
      readElsewhere r (Branch.relocate r) (reading.branch branch) := by
  cases branch with
  | mk condition body =>
    rw [NodeBranch.relocate, Reading.branch, Reading.branch, nodes_relocate condition,
      nodes_relocate body]
    refine readElsewhere_bind fun ps => ?_
    rw [leaves_relocate]
    refine readElsewhere_bind fun c => readElsewhere_bind fun ps' => ?_
    rw [leaves_relocate]
    exact readElsewhere_bind fun b => rfl
termination_by structural branch

theorem branches_relocate (branches : List NodeBranch) :
    reading.branches (NodeBranch.relocateAll r branches) =
      readElsewhere r (Branch.relocateAll r) (reading.branches branches) := by
  cases branches with
  | nil => rfl
  | cons branch rest =>
    rw [NodeBranch.relocateAll, Reading.branches, Reading.branches, branch_relocate branch,
      branches_relocate rest]
    exact readElsewhere_bind fun b => readElsewhere_bind fun bs => rfl
termination_by structural branches

end

end Reading

end Program

/-! ## Blocks -/

namespace Block

variable (r : Location → Location)

/-- A part of a block whose tokens stand elsewhere. -/
def Part.relocate : Part → Part
  | .ifCondition done => .ifCondition (done.map (NodeBranch.relocate r))
  | .ifBody done condition =>
    .ifBody (done.map (NodeBranch.relocate r)) (condition.map (Node.relocate r))
  | .elseBody done => .elseBody (done.map (NodeBranch.relocate r))
  | .whileCondition => .whileCondition
  | .whileBody condition => .whileBody (condition.map (Node.relocate r))
  | .defName => .defName
  | .defBody name => .defBody (name.relocate r)
  | .fnBody => .fnBody

/-- An open block whose tokens stand elsewhere. -/
def Level.relocate (level : Level) : Level :=
  ⟨level.part.relocate r, level.before.map (Node.relocate r)⟩

namespace Reader

/-- A reader of tokens that stand elsewhere. -/
def relocate (reader : Reader) : Reader :=
  ⟨reader.nodes.map (Node.relocate r), reader.levels.map (Level.relocate r)⟩

theorem delimit_relocate (reader : Reader) (k : Keyword) :
    (reader.relocate r).delimit k = (reader.delimit k).map (relocate r) := by
  obtain ⟨nodes, levels⟩ := reader
  cases levels with
  | nil => rfl
  | cons level levels =>
    obtain ⟨part, before⟩ := level
    cases part <;> cases k <;> first
      | rfl
      | simp [relocate, delimit, Level.relocate, Part.relocate, Level.proceed, Level.close,
          Node.relocate, Node.relocateOption, Node.relocateAll_eq_map,
          NodeBranch.relocateAll_eq_map, NodeBranch.relocate]

theorem accept_relocate (reader : Reader) (token : Lexeme) :
    (reader.relocate r).accept (token.relocate r) = (reader.accept token).map (relocate r) := by
  unfold accept
  have hkind : (token.relocate r).kind = token.kind := rfl
  rw [hkind]
  cases token.kind with
  | keyword k =>
    cases k with
    | thenWord | elifWord | elseWord | endWord | doWord => exact delimit_relocate r reader _
    | _ => rfl
  | _ => rfl

theorem take_relocate (reader : Reader) (token : Lexeme) :
    (reader.relocate r).take (token.relocate r) = (reader.take token).map (relocate r) := by
  have haccept := accept_relocate r reader token
  obtain ⟨nodes, levels⟩ := reader
  cases levels with
  | nil => exact haccept
  | cons level levels =>
    obtain ⟨part, before⟩ := level
    cases part with
    | defName =>
      have hkind : (token.relocate r).kind = token.kind := rfl
      simp only [relocate, List.map_cons, Level.relocate, Part.relocate, take, hkind]
      cases token.kind <;> rfl
    | _ => exact haccept

theorem takeAll_relocate (reader : Reader) (tokens : List Lexeme) :
    (reader.relocate r).takeAll (tokens.map (Lexeme.relocate r)) =
      ((reader.takeAll tokens).map (relocate r)).mapError (Lexeme.relocate r) := by
  induction tokens generalizing reader with
  | nil => rfl
  | cons token rest ih =>
    rw [List.map_cons, takeAll, takeAll, take_relocate]
    cases reader.take token with
    | none => rfl
    | some reader' => exact ih reader'

theorem finish?_relocate (reader : Reader) :
    (reader.relocate r).finish? = reader.finish?.map (Node.relocateAll r) := by
  obtain ⟨nodes, levels⟩ := reader
  cases levels with
  | nil => simp [finish?, relocate, Node.relocateAll_eq_map]
  | cons level levels => rfl

end Reader

end Block

/-! ## Source texts -/

namespace Program

variable {r : Location → Location} {scan scan' : Token.Scan}

/-- The tokens of two scans are grouped alike if they are the same at other places. -/
theorem blocks_relocate (file : Option Text)
    (htokens : scan'.tokens = scan.tokens.map (Lexeme.relocate r))
    (hstuck : scan'.stuck = scan.stuck.map (Prod.map id r)) :
    blocks file scan' = readElsewhere r (Node.relocateAll r) (blocks file scan) := by
  have htake := Block.Reader.takeAll_relocate r .empty scan.tokens
  have hempty : Block.Reader.empty.relocate r = .empty := rfl
  rw [hempty] at htake
  unfold blocks
  dsimp only
  rw [htokens, htake]
  cases hread : Block.Reader.empty.takeAll scan.tokens with
  | error token => rfl
  | ok reader =>
    have hfinish := Block.Reader.finish?_relocate r reader
    dsimp only [Except.map, Except.mapError]
    rw [hstuck, hfinish]
    cases scan.stuck with
    | some stuck => rfl
    | none =>
      cases hnodes : reader.finish? with
      | some nodes => rfl
      | none =>
        -- a block is open, so there is a last token
        cases htokens : scan.tokens with
        | nil =>
          rw [htokens] at hread
          cases hread
          cases hnodes
        | cons token rest =>
          have hlast : ((token :: rest).map (Lexeme.relocate r)).getLast? =
              (token :: rest).getLast?.map (Lexeme.relocate r) := List.getLast?_map ..
          obtain ⟨last, hlast'⟩ : ∃ last, (token :: rest).getLast? = some last :=
            Option.isSome_iff_exists.1 (by simp)
          rw [hlast, hlast']
          rfl

/-- The same tokens at other places are read as the same program at these places, or refused for the
same reason. -/
theorem parse_relocate [Platform] (isCommand : Text → Bool) (file : Option Text)
    {source source' : Text}
    (htokens : (Token.scan source').tokens = (Token.scan source).tokens.map (Lexeme.relocate r))
    (hstuck : (Token.scan source').stuck = (Token.scan source).stuck.map (Prod.map id r)) :
    parse isCommand source' file =
      readElsewhere r (Program.relocate r) (parse isCommand source file) := by
  unfold parse
  rw [blocks_relocate file htokens hstuck]
  refine readElsewhere_bind fun nodes => ?_
  dsimp only
  rw [Reading.nodes_relocate]
  exact readElsewhere_bind fun pending => Reading.leaves_relocate _ r topPart pending

end Program

end StackShell
