import StackShell.Program.Reader
import StackShell.Proofs.Results
import StackShell.Proofs.Syntax.Lexing
import StackShell.Proofs.Syntax.Trees

/-!
# What trees mean

Every tree stands for one statement: an atom for the statement of its token, a block for the block
statement with the same parts in the same order. The main facts are that the reader of programs
succeeds on the nodes of trees exactly if every string among the tokens decodes and every integer
converts, and then gives just these statements (`body_ok_iff`); and, with the splitting of the text
and the derivation of its tokens, what a source text is read as (`parse_ok_iff`).
-/

namespace StackShell.Syntax

open Program

/-- A text whose scan goes through is read to nodes exactly if its tokens derive their trees. -/
theorem blocks_ok_iff {file : Option Text} {scan : Token.Scan} {nodes : List Node} :
    blocks file scan = .ok nodes ↔
      scan.stuck = none ∧ ∃ row, treesTokens row = scan.tokens ∧ treesNodes row = nodes := by
  rw [← takeAll_eq_ok_iff]
  unfold blocks
  dsimp only
  cases Block.Reader.empty.takeAll scan.tokens with
  | error token => simp
  | ok r =>
    cases scan.stuck with
    | some stuck => simp
    | none => cases hfinish : r.finish? <;> simp [hfinish]

section

variable [Platform]

/-- A token can be read as a literal, if it is to be: a string decodes, an integer converts. -/
structure Converts (token : Lexeme) : Prop where
  string : token.kind = .string → ∃ text, Escape.decode (innerOf token) = .ok text
  integer : token.kind = .integer → ∃ n, Decimal.readInteger token.text = .ok n

/-- The integer that a token writes. -/
def integerOf (token : Lexeme) : Int :=
  match Decimal.readInteger token.text with
  | .ok n => n
  | .error _ => 0

/-- The string that a token writes. -/
def stringOf (token : Lexeme) : Text :=
  match Escape.decode (innerOf token) with
  | .ok text => text
  | .error _ => ""

/-- The statement that an atom stands for. -/
def statementOf (isCommand : Text → Bool) (token : Lexeme) : Statement :=
  match token.kind with
  | .integer => .literal (.int (integerOf token)) token.place
  | .real => .literal (.number (.float (Decimal.readReal token.text))) token.place
  | .string => .literal (.string (stringOf token)) token.place
  | .keyword .trueWord => .literal (.boolean true) token.place
  | .keyword .falseWord => .literal (.boolean false) token.place
  | .store => .store (nameOf token) token.place
  | .namedCall => .call (some (nameOf token)) token.place
  | .atSign | .keyword .callWord => .call none token.place
  | _ =>
    let word := Text.ofList token.text
    if isCommand word then .invoke word token.place else .load word token.place

section

variable (isCommand : Text → Bool)

mutual

/-- The statement that a tree stands for. -/
def Tree.statement : Tree → Statement
  | .atom token => statementOf isCommand token.1
  | .conditional _ condition _ body tail =>
    .conditional (.mk (treesProgram condition) (treesProgram body) :: tail.arms) tail.otherwiseBody
  | .loop _ condition _ body _ => .whileLoop (treesProgram condition) (treesProgram body)
  | .definition _ name body _ => .define (some (Text.ofList name.1.text)) (treesProgram body)
  | .function _ body _ => .define none (treesProgram body)
termination_by structural x => x

/-- The branches with a condition after the first one, in order. -/
def Tail.arms : Tail → List Branch
  | .elif _ condition _ body tail => .mk (treesProgram condition) (treesProgram body) :: tail.arms
  | .otherwise .. | .close _ => []
termination_by structural x => x

/-- The branch without a condition, if there is one. -/
def Tail.otherwiseBody : Tail → Option Program
  | .elif _ _ _ _ tail => tail.otherwiseBody
  | .otherwise _ body _ => some (treesProgram body)
  | .close _ => none
termination_by structural x => x

/-- The statements that a row of trees stands for. -/
def treesProgram : List Tree → Program
  | [] => []
  | tree :: trees => tree.statement :: treesProgram trees
termination_by structural x => x

end

end

/-! ## Reading atoms -/

theorem converts_of_ne {token : Lexeme} (hstring : token.kind ≠ .string)
    (hinteger : token.kind ≠ .integer) : Converts token :=
  ⟨fun h => absurd h hstring, fun h => absurd h hinteger⟩

theorem converts_mark {k : Keyword} (mark : Mark k) : Converts mark.1 := by
  apply converts_of_ne <;> simp [mark.2]

theorem converts_name (name : Name) : Converts name.1 := by
  apply converts_of_ne <;> simp [name.2]

/-- A leaf is read exactly if it converts, and as the statement that it stands for. -/
theorem atom_ok_iff {reading : Reading} {part : Text} {token : Lexeme} {s : Statement} :
    reading.atom part token = .ok s ↔
      s = statementOf reading.isCommand token ∧ Converts token := by
  have hok : ∀ {a b : Statement}, Converts token →
      ((.ok a : Except Failure Statement) = .ok b ↔ b = a ∧ Converts token) :=
    fun h => ⟨fun heq => ⟨(Except.ok.inj heq).symm, h⟩, fun heq => congrArg Except.ok heq.1.symm⟩
  unfold Reading.atom statementOf
  cases hkind : token.kind with
  | integer =>
    have hconverts : Converts token ↔ ∃ n, Decimal.readInteger token.text = .ok n :=
      ⟨fun h => h.integer hkind, fun h => ⟨by simp [hkind], fun _ => h⟩⟩
    cases hn : Decimal.readInteger token.text with
    | ok n =>
      rw [readIntegerToken, integerOf, hn]
      exact hok (hconverts.2 ⟨n, hn⟩)
    | error e =>
      rw [hconverts, readIntegerToken, hn]
      cases e <;> simp [bind, Except.bind]
  | string =>
    have hconverts : Converts token ↔ ∃ text, Escape.decode (innerOf token) = .ok text :=
      ⟨fun h => h.string hkind, fun h => ⟨fun _ => h, by simp [hkind]⟩⟩
    cases htext : Escape.decode (innerOf token) with
    | ok text =>
      rw [readStringToken, stringOf, htext]
      exact hok (hconverts.2 ⟨text, htext⟩)
    | error e =>
      rw [hconverts, readStringToken, htext]
      simp [bind, Except.bind]
  | real | store | namedCall | atSign | word | blank | comment =>
    -- only integers and strings are converted
    exact hok (converts_of_ne (by simp [hkind]) (by simp [hkind]))
  | keyword k =>
    have hconverts : Converts token := converts_of_ne (by simp [hkind]) (by simp [hkind])
    cases k <;> exact hok hconverts

/-! ## Reading trees -/

/-- The statement that a leaf or a block becomes in the named part of a program. -/
def finish (reading : Reading) (part : Text) : Pending → Except Failure Statement
  | .leaf token => reading.atom part token
  | .ready s => .ok s

/-- Reads one node in the named part of a program. -/
def readNode (reading : Reading) (part : Text) (node : Node) : Except Failure Statement :=
  reading.node node >>= finish reading part

/-- Reads the nodes of the named part of a program. -/
def readBody (reading : Reading) (part : Text) (nodes : List Node) : Except Failure Program :=
  reading.nodes nodes >>= reading.leaves part

section

variable {reading : Reading} {part : Text}

/-- The statements of a part are read one by one. -/
theorem readBody_cons_ok_iff {node : Node} {nodes : List Node} {program : Program} :
    readBody reading part (node :: nodes) = .ok program ↔
      ∃ s others, readNode reading part node = .ok s ∧ readBody reading part nodes = .ok others ∧
        program = s :: others := by
  have hleaves : ∀ p ps, reading.leaves part (p :: ps) =
      (finish reading part p >>= fun s => reading.leaves part ps >>= fun others =>
        .ok (s :: others)) := by
    intro p ps
    cases p <;> rfl
  rw [readBody, Reading.nodes, bind_eq_ok]
  constructor
  · rintro ⟨row, hrow, h⟩
    obtain ⟨p, hp, hrow⟩ := bind_eq_ok.1 hrow
    obtain ⟨ps, hps, hrow⟩ := bind_eq_ok.1 hrow
    cases hrow
    rw [hleaves] at h
    obtain ⟨s, hs, h⟩ := bind_eq_ok.1 h
    obtain ⟨others, hothers, h⟩ := bind_eq_ok.1 h
    cases h
    exact ⟨s, others, bind_eq_ok.2 ⟨p, hp, hs⟩, bind_eq_ok.2 ⟨ps, hps, hothers⟩, rfl⟩
  · rintro ⟨s, others, hnode, hnodes, rfl⟩
    obtain ⟨p, hp, hs⟩ := bind_eq_ok.1 hnode
    obtain ⟨ps, hps, hothers⟩ := bind_eq_ok.1 hnodes
    refine ⟨p :: ps, bind_eq_ok.2 ⟨p, hp, bind_eq_ok.2 ⟨ps, hps, rfl⟩⟩, ?_⟩
    rw [hleaves]
    exact bind_eq_ok.2 ⟨s, hs, bind_eq_ok.2 ⟨others, hothers, rfl⟩⟩

/-- The parts of a block are read on their own. -/
theorem nodes_bind {β : Type} (nodes : List Node) (next : Program → Except Failure β) :
    (reading.nodes nodes >>= fun ps => reading.leaves part ps >>= next) =
      readBody reading part nodes >>= next := by
  rw [readBody]
  cases reading.nodes nodes <;> rfl

theorem branch_ok_iff {condition body : List Node} {branch : Branch} :
    reading.branch (.mk condition body) = .ok branch ↔
      ∃ c b, readBody reading innerPart condition = .ok c ∧
        readBody reading innerPart body = .ok b ∧ branch = .mk c b := by
  rw [Reading.branch, nodes_bind, bind_eq_ok]
  simp only [nodes_bind, bind_eq_ok, pure, Except.pure, Except.ok.injEq, eq_comm (b := branch)]
  grind

theorem branches_cons_ok_iff {branch : NodeBranch} {branches : List NodeBranch}
    {arms : List Branch} :
    reading.branches (branch :: branches) = .ok arms ↔
      ∃ b bs, reading.branch branch = .ok b ∧ reading.branches branches = .ok bs ∧
        arms = b :: bs := by
  rw [Reading.branches, bind_eq_ok]
  simp only [bind_eq_ok, pure, Except.pure, Except.ok.injEq, eq_comm (b := arms)]
  grind

theorem otherwise_some_ok_iff {body : List Node} {otherwise : Option Program} :
    reading.otherwise (some body) = .ok otherwise ↔
      ∃ b, readBody reading innerPart body = .ok b ∧ otherwise = some b := by
  rw [Reading.otherwise, nodes_bind, bind_eq_ok]
  simp only [pure, Except.pure, Except.ok.injEq, eq_comm (b := otherwise)]

/-- A branch and those after it are read exactly if all their parts can be. -/
theorem arms_ok_iff {condition body : List Node} {branches : List NodeBranch}
    {last : Option (List Node)} {c b : Program} {bs : List Branch} {o : Option Program}
    {P Q R : Prop}
    (hcondition : ∀ {p}, readBody reading innerPart condition = .ok p ↔ p = c ∧ P)
    (hbody : ∀ {p}, readBody reading innerPart body = .ok p ↔ p = b ∧ Q)
    (htail : ∀ {arms otherwise}, reading.branches branches = .ok arms ∧
      reading.otherwise last = .ok otherwise ↔ arms = bs ∧ otherwise = o ∧ R)
    {arms : List Branch} {otherwise : Option Program} :
    reading.branches (.mk condition body :: branches) = .ok arms ∧
        reading.otherwise last = .ok otherwise ↔
      arms = .mk c b :: bs ∧ otherwise = o ∧ P ∧ Q ∧ R := by
  constructor
  · rintro ⟨hbranches, hlast⟩
    obtain ⟨branch, others, hbranch, hothers, rfl⟩ := branches_cons_ok_iff.1 hbranches
    obtain ⟨c', b', hc, hb, rfl⟩ := branch_ok_iff.1 hbranch
    obtain ⟨rfl, hP⟩ := hcondition.1 hc
    obtain ⟨rfl, hQ⟩ := hbody.1 hb
    obtain ⟨rfl, rfl, hR⟩ := htail.1 ⟨hothers, hlast⟩
    exact ⟨rfl, rfl, hP, hQ, hR⟩
  · rintro ⟨rfl, rfl, hP, hQ, hR⟩
    obtain ⟨hothers, hlast⟩ := htail.2 ⟨rfl, rfl, hR⟩
    have hbranch := branch_ok_iff.2 ⟨c, b, hcondition.2 ⟨rfl, hP⟩, hbody.2 ⟨rfl, hQ⟩, rfl⟩
    exact ⟨branches_cons_ok_iff.2 ⟨_, _, hbranch, hothers, rfl⟩, hlast⟩

theorem conditional_ok_iff {branches : List NodeBranch} {otherwise : Option (List Node)}
    {s : Statement} :
    readNode reading part (.conditional branches otherwise) = .ok s ↔
      ∃ bs o, reading.branches branches = .ok bs ∧ reading.otherwise otherwise = .ok o ∧
        s = .conditional bs o := by
  rw [readNode, Reading.node, bind_eq_ok]
  simp only [bind_eq_ok, pure, Except.pure, Except.ok.injEq]
  constructor
  · rintro ⟨p, ⟨bs, hbs, o, ho, rfl⟩, hs⟩
    exact ⟨bs, o, hbs, ho, (Except.ok.inj hs).symm⟩
  · rintro ⟨bs, o, hbs, ho, rfl⟩
    exact ⟨_, ⟨bs, hbs, o, ho, rfl⟩, rfl⟩

theorem whileLoop_ok_iff {condition body : List Node} {s : Statement} :
    readNode reading part (.whileLoop condition body) = .ok s ↔
      ∃ c b, readBody reading innerPart condition = .ok c ∧
        readBody reading innerPart body = .ok b ∧ s = .whileLoop c b := by
  rw [readNode, Reading.node, nodes_bind, bind_eq_ok]
  simp only [nodes_bind, bind_eq_ok, pure, Except.pure, Except.ok.injEq]
  constructor
  · rintro ⟨p, ⟨c, hc, b, hb, rfl⟩, hs⟩
    exact ⟨c, b, hc, hb, (Except.ok.inj hs).symm⟩
  · rintro ⟨c, b, hc, hb, rfl⟩
    exact ⟨_, ⟨c, hc, b, hb, rfl⟩, rfl⟩

theorem define_ok_iff {name : Option Lexeme} {body : List Node} {s : Statement} :
    readNode reading part (.define name body) = .ok s ↔
      ∃ b, readBody reading innerPart body = .ok b ∧
        s = .define (name.map fun token => Text.ofList token.text) b := by
  rw [readNode, Reading.node, nodes_bind, bind_eq_ok]
  simp only [bind_eq_ok, pure, Except.pure, Except.ok.injEq]
  constructor
  · rintro ⟨p, ⟨b, hb, rfl⟩, hs⟩
    exact ⟨b, hb, (Except.ok.inj hs).symm⟩
  · rintro ⟨b, hb, rfl⟩
    exact ⟨_, ⟨b, hb, rfl⟩, rfl⟩

mutual

/-- A tree is read exactly if its tokens convert, and as the statement that it stands for. -/
theorem readNode_ok_iff (tree : Tree) (part : Text) {s : Statement} :
    readNode reading part tree.node = .ok s ↔
      s = tree.statement reading.isCommand ∧ ∀ token ∈ tree.tokens, Converts token := by
  cases tree with
  | atom token =>
    have hatom : readNode reading part (.atom token.1) = reading.atom part token.1 := rfl
    rw [Tree.node, hatom, atom_ok_iff, Tree.statement, Tree.tokens, List.forall_mem_singleton]
  | conditional opener condition mark body tail =>
    rw [Tree.node, conditional_ok_iff, Tree.statement, Tree.tokens]
    simp only [List.forall_mem_cons, List.forall_mem_append, converts_mark, true_and]
    -- the first branch and the tail are read together, as one row of branches
    have harms := @arms_ok_iff _ reading _ _ _ _ _ _ _ _ _ _ _ (readBody_ok_iff condition _)
      (readBody_ok_iff body _) (tail_ok_iff tail)
    constructor
    · rintro ⟨arms, otherwise, hbranches, hlast, rfl⟩
      obtain ⟨rfl, rfl, hconverts⟩ := harms.1 ⟨hbranches, hlast⟩
      exact ⟨rfl, hconverts⟩
    · rintro ⟨rfl, hconverts⟩
      obtain ⟨hbranches, hlast⟩ := harms.2 ⟨rfl, rfl, hconverts⟩
      exact ⟨_, _, hbranches, hlast, rfl⟩
  | loop opener condition mark body closer =>
    rw [Tree.node, whileLoop_ok_iff, Tree.statement, Tree.tokens]
    simp only [readBody_ok_iff condition, readBody_ok_iff body, List.forall_mem_cons,
      List.forall_mem_append, converts_mark, true_and, List.not_mem_nil, false_imp_iff,
      implies_true, and_true]
    grind
  | definition opener name body closer =>
    rw [Tree.node, define_ok_iff, Tree.statement, Tree.tokens]
    simp only [readBody_ok_iff body, List.forall_mem_cons, converts_name, List.forall_mem_append,
      converts_mark, true_and, List.not_mem_nil, false_imp_iff, implies_true, and_true]
    grind
  | function opener body closer =>
    rw [Tree.node, define_ok_iff, Tree.statement, Tree.tokens]
    simp only [readBody_ok_iff body, List.forall_mem_cons, List.forall_mem_append,
      converts_mark, true_and, List.not_mem_nil, false_imp_iff, implies_true, and_true]
    grind
termination_by structural tree

/-- The branches after the first one are read exactly if their tokens convert. -/
theorem tail_ok_iff (tail : Tail) {arms : List Branch} {otherwise : Option Program} :
    reading.branches tail.branches = .ok arms ∧ reading.otherwise tail.last = .ok otherwise ↔
      arms = tail.arms reading.isCommand ∧ otherwise = tail.otherwiseBody reading.isCommand ∧
        ∀ token ∈ tail.tokens, Converts token := by
  cases tail with
  | elif opener condition mark body tail =>
    rw [Tail.branches, Tail.last, Tail.arms, Tail.otherwiseBody, Tail.tokens]
    simp only [List.forall_mem_cons, List.forall_mem_append, converts_mark, true_and]
    exact arms_ok_iff (readBody_ok_iff condition _) (readBody_ok_iff body _) (tail_ok_iff tail)
  | otherwise opener body closer =>
    rw [Tail.branches, Tail.last, Tail.arms, Tail.otherwiseBody, Tail.tokens, Reading.branches,
      otherwise_some_ok_iff]
    simp only [readBody_ok_iff body, List.forall_mem_cons, List.forall_mem_append,
      converts_mark, true_and, List.not_mem_nil, false_imp_iff, implies_true, and_true,
      Except.ok.injEq, eq_comm (b := arms)]
    grind
  | close closer =>
    rw [Tail.branches, Tail.last, Tail.arms, Tail.otherwiseBody, Tail.tokens, Reading.branches,
      Reading.otherwise, List.forall_mem_singleton, Except.ok.injEq, Except.ok.injEq]
    simp only [converts_mark, and_true, eq_comm]
termination_by structural tail

/-- A row of trees is read exactly if its tokens convert, and as what it stands for. -/
theorem readBody_ok_iff (row : List Tree) (part : Text) {program : Program} :
    readBody reading part (treesNodes row) = .ok program ↔
      program = treesProgram reading.isCommand row ∧ ∀ token ∈ treesTokens row, Converts token := by
  cases row with
  | nil =>
    have hnil : readBody reading part [] = .ok [] := rfl
    simp [treesNodes, treesProgram, treesTokens, hnil, eq_comm]
  | cons tree row =>
    rw [treesNodes, readBody_cons_ok_iff, treesProgram, treesTokens]
    simp only [readNode_ok_iff tree, readBody_ok_iff row, List.forall_mem_append]
    grind
termination_by structural row

end

end

/-! ## Reading source texts -/

/-- What a source text is read as: its scan goes through, its tokens derive a row of trees and
convert, and the program is what the trees stand for. -/
theorem parse_ok_iff {isCommand : Text → Bool} {source : Text} {file : Option Text}
    {program : Program} :
    Program.parse isCommand source file = .ok program ↔
      (Token.scan source).stuck = none ∧
        ∃ row, treesTokens row = (Token.scan source).tokens ∧
          (∀ token ∈ (Token.scan source).tokens, Converts token) ∧
          program = treesProgram isCommand row := by
  have hbody : ∀ nodes, (Reading.mk isCommand file).nodes nodes >>=
      (Reading.mk isCommand file).leaves topPart = readBody ⟨isCommand, file⟩ topPart nodes :=
    fun nodes => rfl
  rw [Program.parse, bind_eq_ok]
  simp only [blocks_ok_iff, hbody]
  constructor
  · rintro ⟨nodes, ⟨hstuck, row, htokens, rfl⟩, h⟩
    obtain ⟨rfl, hconverts⟩ := (readBody_ok_iff row topPart).1 h
    rw [htokens] at hconverts
    exact ⟨hstuck, row, htokens, hconverts, rfl⟩
  · rintro ⟨hstuck, row, htokens, hconverts, rfl⟩
    rw [← htokens] at hconverts
    exact ⟨treesNodes row, ⟨hstuck, row, htokens, rfl⟩,
      (readBody_ok_iff row topPart).2 ⟨rfl, hconverts⟩⟩

/-- The parser accepts its grammar and builds the right program. Of a source text that splits into
lexemes, it reads a program exactly if the tokens derive a row of trees and all convert; the
derivation is unique; and the program is what the trees stand for. -/
theorem parse_accepts_grammar {source : Text} {lexemes : List Lexeme}
    (h : Token.Splits Token.start source.toList lexemes) (isCommand : Text → Bool)
    (file : Option Text) :
    let tokens := lexemes.filter (·.kind.isToken)
    ((∃ program, Program.parse isCommand source file = .ok program) ↔
      (∃ row, treesTokens row = tokens) ∧ ∀ token ∈ tokens, Converts token) ∧
    (∀ row row', treesTokens row = tokens → treesTokens row' = tokens → row = row') ∧
    ∀ program row, Program.parse isCommand source file = .ok program → treesTokens row = tokens →
      program = treesProgram isCommand row := by
  intro tokens
  have hscan : Token.scan source = ⟨lexemes, none⟩ := Token.scanFrom_eq_iff.2 h
  have htokens : (Token.scan source).tokens = tokens := by
    rw [hscan]
    rfl
  have hstuck : (Token.scan source).stuck = none := by
    rw [hscan]
  have hunique : ∀ row row', treesTokens row = tokens → treesTokens row' = tokens → row = row' := by
    intro row row' hrow hrow'
    exact treesTokens_injective (hrow.trans hrow'.symm)
  simp only [parse_ok_iff, htokens, hstuck, true_and]
  refine ⟨⟨?_, ?_⟩, hunique, ?_⟩
  · rintro ⟨program, row, hrow, hconverts, -⟩
    exact ⟨⟨row, hrow⟩, hconverts⟩
  · rintro ⟨⟨row, hrow⟩, hconverts⟩
    exact ⟨_, row, hrow, hconverts, rfl⟩
  · rintro program row ⟨row', hrow', -, rfl⟩ hrow
    rw [hunique row row' hrow hrow']

/-- A conditional with empty bodies, as derived from its tokens. -/
def sparseConditional : Tree :=
  let mark (k : Keyword) (text : Text) (column : Int) : Mark k :=
    ⟨⟨.keyword k, text.toList, ⟨1, column⟩⟩, rfl⟩
  let word (text : Text) (column : Int) : Tree := .atom ⟨⟨.word, text.toList, ⟨1, column⟩⟩, rfl⟩
  .conditional (mark .ifWord "if" 1) [word "x" 4] (mark .thenWord "then" 6) []
    (.elif (mark .elifWord "elif" 11) [word "y" 16] (mark .thenWord "then" 18)
      [.atom ⟨⟨.integer, [.char '1'], ⟨1, 23⟩⟩, rfl⟩]
      (.otherwise (mark .elseWord "else" 25) [] (mark .endWord "end" 30)))

end

section

attribute [local instance] Platform.basic

/-- Empty bodies and the branch without a condition keep their places among the branches. -/
theorem parse_accepts_sparse_conditional :
    Program.parse (fun _ => false) "if x then elif y then 1 else end" none = .ok
      [.conditional
        [.mk [.load "x" ⟨1, 4⟩] [], .mk [.load "y" ⟨1, 16⟩] [.literal (.int 1) ⟨1, 23⟩]]
        (some [])] := by
  have hstuck : (Token.scan "if x then elif y then 1 else end").stuck = none := by cbv
  have htokens : treesTokens [sparseConditional] =
      (Token.scan "if x then elif y then 1 else end").tokens := by cbv
  have hsplits : Token.Splits Token.start ("if x then elif y then 1 else end" : Text).toList
      (Token.scan "if x then elif y then 1 else end").lexemes := by
    apply Token.scanFrom_eq_iff.1
    rw [← hstuck]
    rfl
  have hconverts : ∀ token ∈ treesTokens [sparseConditional], Converts token := by
    have hstring : ∀ token ∈ treesTokens [sparseConditional], token.kind ≠ .string := by decide
    have hinteger : ∀ token ∈ treesTokens [sparseConditional],
        token.kind = .integer → token.text = [.char '1'] := by decide
    intro token htoken
    refine ⟨fun hkind => absurd hkind (hstring token htoken), fun hkind => ⟨1, ?_⟩⟩
    rw [hinteger token htoken hkind]
    cbv
  rw [htokens] at hconverts
  obtain ⟨hiff, -, hprogram⟩ := parse_accepts_grammar hsplits (fun _ => false) none
  obtain ⟨program, hparse⟩ := hiff.2 ⟨⟨_, htokens⟩, hconverts⟩
  rw [hparse, hprogram program _ hparse htokens]
  cbv

end

end StackShell.Syntax
