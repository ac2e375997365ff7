import StackShell.Host.Basic
import StackShell.Proofs.Documents.Values
import StackShell.Proofs.Snapshot

/-!
# The text of a session is lossless

A session whose values scripts can make is written as a text, and a session that is loaded from the
text has the same stack and the same variables in the same order (`load_dump`). Its integers have to
be short enough to be written, and its lines may be indented with blanks only.

Between the session and its text stands a document. What is to be shown is that the documents of
values, statements and whole states are faithful; then they are read back from their texts, and the
state from the document.
-/

namespace StackShell

open Decimal

/-! ## Short integers -/

/-- Whether an integer has at most as many digits as can be written. -/
def Short (n : Int) : Prop :=
  n.natAbs < digitBound

theorem le_pow10 {k : Nat} (hk : k ≠ 0) : 10 ≤ pow10 k :=
  Nat.le_self_pow hk 10

/-- A number below ten is short. -/
theorem short_small {n : Int} (h : n.natAbs < 10) : Short n :=
  Nat.lt_of_lt_of_le h (le_pow10 (by decide))

/-- Whether line and column are short. -/
def Location.Short (l : Location) : Prop :=
  StackShell.Short l.line ∧ StackShell.Short l.column

mutual

/-- Whether all integers in a value are short, those of places included. -/
def Value.Short : Value → Prop
  | .number (.int n) => StackShell.Short n
  | .function body => Program.Short body
  | _ => True
termination_by structural x => x

/-- Whether all integers in a statement are short. -/
def Statement.Short : Statement → Prop
  | .literal v l => Value.Short v ∧ l.Short
  | .load _ l | .store _ l | .invoke _ l | .call _ l => l.Short
  | .conditional branches otherwise => Branch.AllShort branches ∧ Program.OptionShort otherwise
  | .whileLoop condition body => Program.Short condition ∧ Program.Short body
  | .define _ body => Program.Short body
  | .stray => True
termination_by structural x => x

/-- Whether all integers in a program are short. -/
def Program.Short : List Statement → Prop
  | [] => True
  | s :: rest => Statement.Short s ∧ Program.Short rest
termination_by structural x => x

/-- Whether all integers in a program that may be missing are short. -/
def Program.OptionShort : Option (List Statement) → Prop
  | none => True
  | some body => Program.Short body
termination_by structural x => x

/-- Whether all integers in a branch are short. -/
def Branch.Short : Branch → Prop
  | .mk condition body => Program.Short condition ∧ Program.Short body
termination_by structural x => x

/-- Whether all integers in the branches are short. -/
def Branch.AllShort : List Branch → Prop
  | [] => True
  | b :: rest => Branch.Short b ∧ Branch.AllShort rest
termination_by structural x => x

end

/-- Whether all integers on the stack and in the variables are short. -/
structure State.Short (s : State) : Prop where
  stack : ∀ v ∈ s.stack, v.Short
  bindings : ∀ name v, (name, v) ∈ s.bindings.entries → v.Short

namespace Snapshot

open Document

/-! ## Documents of values and statements -/

theorem faithful_place {l : Location} (h : l.Short) : (place l).Faithful :=
  ⟨(faithful_int _).2 h.1, (faithful_int _).2 h.2, trivial⟩

theorem faithful_tagged_one {tag key : Text} {d : Document}
    (hnames : (["type", key] : List Text).Nodup)
    (hd : d.Faithful) : (tagged tag [.mk key d]).Faithful :=
  ⟨hnames, trivial, hd, trivial⟩

theorem faithful_tagged_two {tag key key' : Text} {d d' : Document}
    (hnames : (["type", key, key'] : List Text).Nodup) (hd : d.Faithful) (hd' : d'.Faithful) :
    (tagged tag [.mk key d, .mk key' d']).Faithful :=
  ⟨hnames, trivial, hd, hd', trivial⟩

theorem faithful_optionalName (name : Option Text) : (optionalName name).Faithful := by
  cases name <;> exact trivial

mutual

/-- The document of a value with short integers is faithful. -/
theorem faithful_encodeValue {d : Document} (v : Value) (h : v.Short)
    (hencode : encodeValue v = .ok d) : d.Faithful := by
  cases v with
  | number n =>
    cases n with
    | int n =>
      cases hencode
      exact faithful_tagged_one (by decide) ((faithful_int n).2 h)
    | float x =>
      cases hencode
      exact faithful_tagged_one (by decide) trivial
  | boolean b =>
    cases hencode
    exact faithful_tagged_one (by decide) trivial
  | string text =>
    cases hencode
    exact faithful_tagged_one (by decide) trivial
  | function body =>
    obtain ⟨ds, hbody, hd⟩ := bind_eq_ok.1 hencode
    cases hd
    exact faithful_tagged_one (by decide) (faithful_encodeProgram body h hbody)
  | tuple items => cases hencode
  | absent => cases hencode
  | stack items => cases hencode
  | device d => cases hencode
termination_by structural v

/-- The document of a statement with short integers is faithful. -/
theorem faithful_encodeStatement {d : Document} (s : Statement) (h : s.Short)
    (hencode : encodeStatement s = .ok d) : d.Faithful := by
  cases s with
  | literal v l =>
    obtain ⟨dv, hvalue, hd⟩ := bind_eq_ok.1 hencode
    cases hd
    exact faithful_tagged_two (by decide) (faithful_encodeValue v h.1 hvalue) (faithful_place h.2)
  | load name l =>
    cases hencode
    exact faithful_tagged_two (by decide) trivial (faithful_place h)
  | store name l =>
    cases hencode
    exact faithful_tagged_two (by decide) trivial (faithful_place h)
  | invoke name l =>
    cases hencode
    exact faithful_tagged_two (by decide) trivial (faithful_place h)
  | call name l =>
    cases hencode
    exact faithful_tagged_two (by decide) (faithful_optionalName name) (faithful_place h)
  | conditional branches otherwise =>
    obtain ⟨bs, hbranches, hencode⟩ := bind_eq_ok.1 hencode
    obtain ⟨o, hotherwise, hd⟩ := bind_eq_ok.1 hencode
    cases hd
    exact faithful_tagged_two (by decide) (faithful_encodeBranches branches h.1 hbranches)
      (faithful_encodeOtherwise otherwise h.2 hotherwise)
  | whileLoop condition body =>
    obtain ⟨cs, hcondition, hencode⟩ := bind_eq_ok.1 hencode
    obtain ⟨bs, hbody, hd⟩ := bind_eq_ok.1 hencode
    cases hd
    exact faithful_tagged_two (by decide) (faithful_encodeProgram condition h.1 hcondition)
      (faithful_encodeProgram body h.2 hbody)
  | define name body =>
    obtain ⟨bs, hbody, hd⟩ := bind_eq_ok.1 hencode
    cases hd
    exact faithful_tagged_two (by decide) (faithful_optionalName name)
      (faithful_encodeProgram body h hbody)
  | stray => cases hencode
termination_by structural s

/-- The documents of statements with short integers are faithful. -/
theorem faithful_encodeProgram {ds : List Document} (program : List Statement)
    (h : Program.Short program) (hencode : encodeProgram program = .ok ds) : AllFaithful ds := by
  cases program with
  | nil =>
    cases hencode
    trivial
  | cons s rest =>
    obtain ⟨d, hd, hencode⟩ := bind_eq_ok.1 hencode
    obtain ⟨ds, hds, hall⟩ := bind_eq_ok.1 hencode
    cases hall
    exact ⟨faithful_encodeStatement s h.1 hd, faithful_encodeProgram rest h.2 hds⟩
termination_by structural program

/-- The document of a last branch with short integers is faithful. -/
theorem faithful_encodeOtherwise {d : Document} (otherwise : Option (List Statement))
    (h : Program.OptionShort otherwise) (hencode : encodeOtherwise otherwise = .ok d) :
    d.Faithful := by
  cases otherwise with
  | none =>
    cases hencode
    trivial
  | some body =>
    obtain ⟨ds, hbody, hd⟩ := bind_eq_ok.1 hencode
    cases hd
    exact faithful_encodeProgram body h hbody
termination_by structural otherwise

/-- The document of a branch with short integers is faithful. -/
theorem faithful_encodeBranch {d : Document} (b : Branch) (h : b.Short)
    (hencode : encodeBranch b = .ok d) : d.Faithful := by
  cases b with
  | mk condition body =>
    obtain ⟨cs, hcondition, hencode⟩ := bind_eq_ok.1 hencode
    obtain ⟨bs, hbody, hd⟩ := bind_eq_ok.1 hencode
    cases hd
    have hnames : (["condition", "body"] : List Text).Nodup := by decide
    exact ⟨hnames, faithful_encodeProgram condition h.1 hcondition,
      faithful_encodeProgram body h.2 hbody, trivial⟩
termination_by structural b

/-- The documents of branches with short integers are faithful. -/
theorem faithful_encodeBranches {ds : List Document} (branches : List Branch)
    (h : Branch.AllShort branches) (hencode : encodeBranches branches = .ok ds) :
    AllFaithful ds := by
  cases branches with
  | nil =>
    cases hencode
    trivial
  | cons b rest =>
    obtain ⟨d, hd, hencode⟩ := bind_eq_ok.1 hencode
    obtain ⟨ds, hds, hall⟩ := bind_eq_ok.1 hencode
    cases hall
    exact ⟨faithful_encodeBranch b h.1 hd, faithful_encodeBranches rest h.2 hds⟩
termination_by structural branches

end

/-! ## Documents of states -/

theorem allFaithful_mapM {values : List Value} {ds : List Document}
    (h : ∀ v ∈ values, v.Short) (hencode : values.mapM encodeValue = .ok ds) : AllFaithful ds := by
  induction values generalizing ds with
  | nil =>
    cases hencode
    trivial
  | cons v values ih =>
    rw [List.mapM_cons] at hencode
    obtain ⟨d, hd, hencode⟩ := bind_eq_ok.1 hencode
    obtain ⟨ds, hds, hall⟩ := bind_eq_ok.1 hencode
    cases hall
    exact ⟨faithful_encodeValue v (h v List.mem_cons_self) hd,
      ih (fun w hw => h w (List.mem_cons_of_mem v hw)) hds⟩

/-- Variables become fields of the same names, in order, with faithful documents. -/
theorem faithful_encodeVariables {entries : List (Text × Value)} {fields : List Field}
    (h : ∀ name v, (name, v) ∈ entries → v.Short)
    (hencode : encodeVariables entries = .ok fields) :
    fields.map Field.name = entries.map (·.1) ∧ FieldsFaithful fields := by
  induction entries generalizing fields with
  | nil =>
    cases hencode
    exact ⟨rfl, trivial⟩
  | cons e entries ih =>
    obtain ⟨name, v⟩ := e
    rw [encodeVariables] at hencode
    obtain ⟨d, hd, hencode⟩ := bind_eq_ok.1 hencode
    obtain ⟨rest, hrest, hall⟩ := bind_eq_ok.1 hencode
    cases hall
    obtain ⟨hnames, hfaithful⟩ :=
      ih (fun name v hmem => h name v (List.mem_cons_of_mem _ hmem)) hrest
    refine ⟨?_, faithful_encodeValue v (h name v List.mem_cons_self) hd, hfaithful⟩
    rw [List.map_cons, List.map_cons, hnames]
    rfl

/-- The document of a state with short integers is faithful. -/
theorem faithful_encode {s : State} {d : Document} (hdistinct : s.bindings.keys.Nodup)
    (h : s.Short) (hencode : encode s = .ok d) : d.Faithful := by
  rw [encode] at hencode
  obtain ⟨fields, hfields, hencode⟩ := bind_eq_ok.1 hencode
  obtain ⟨values, hvalues, hd⟩ := bind_eq_ok.1 hencode
  cases hd
  obtain ⟨hnames, hfaithful⟩ := faithful_encodeVariables h.bindings hfields
  have hstack : ∀ v ∈ s.values, v.Short := fun v hv => h.stack v (List.mem_reverse.1 hv)
  have hfields : (["version", "variables", "stack"] : List Text).Nodup := by decide
  refine ⟨hfields, ?_, ⟨?_, hfaithful⟩, allFaithful_mapM hstack hvalues, trivial⟩
  · exact (faithful_int version).2 (short_small (by decide))
  · rw [hnames]
    exact hdistinct

end Snapshot

/-! ## Sessions -/

theorem Session.dump_eq {s : Session} {d : Document} {style : Document.Style} {text : Text}
    (hencode : Snapshot.encode s.state = .ok d) (hwrite : d.write style = .ok text) :
    s.dump style = .ok text := by
  rw [dump, hencode]
  show (d.write style).mapError Failure.fault = _
  rw [hwrite]
  rfl

/-- The text of a session is lossless: it can be written, and what is loaded from it has the same
stack and the same variables in the same order. -/
theorem load_dump {h : Host} {v : Vocabulary} (hvocabulary : h.vocabulary = .ok v) {s : Session}
    (hplain : s.state.Plain) (hshort : s.state.Short) {style : Document.Style}
    (hstyle : style.Blank) (device : Device) :
    ∃ text loaded, s.dump style = .ok text ∧ h.load text device = .ok loaded ∧
      loaded.state.stack = s.state.stack ∧ loaded.state.bindings = s.state.bindings := by
  obtain ⟨d, hencode, hrestore⟩ := Snapshot.restore_encode hplain device
  have hfaithful := Snapshot.faithful_encode hplain.distinct hshort hencode
  obtain ⟨text, hwrite, hread⟩ := Document.read_write hstyle hfaithful
  refine ⟨text, .on v h.limit { State.initial device with
    stack := s.state.stack, bindings := s.state.bindings }, Session.dump_eq hencode hwrite, ?_,
    rfl, rfl⟩
  rw [Host.load, hread]
  show h.restore d device = _
  rw [Host.restore, hvocabulary, hrestore]
  rfl

/-- A state with values and names that are hard to write: quotes, backslashes, controls, an
infinity, a negative zero, no number, and a function inside a function. -/
def unusual : State :=
  { State.initial .discard with
    stack := [.number (.float (-Decimal.infinity)), .number (.float Decimal.notANumber),
      .function [.define none [.literal (.int (-7)) ⟨2, 3⟩, .invoke "+" ⟨2, 6⟩], .call none ⟨3, 1⟩]]
    bindings := ⟨[("a\"\\", .string "\x01\n\u00e9"), ("", .number (.float (-0.0)))]⟩ }

theorem unusual_plain : unusual.Plain where
  stack := by simp [unusual, Value.AllPlain, Value.Plain, Program.Plain, Statement.Plain, Value.int]
  bindings := by
    intro name v hmem
    simp only [unusual, List.mem_cons, List.not_mem_nil, or_false, Prod.mk.injEq] at hmem
    obtain ⟨-, rfl⟩ | ⟨-, rfl⟩ := hmem <;> trivial
  distinct := by decide

theorem unusual_short : unusual.Short where
  stack := by
    simp [unusual, Value.Short, Program.Short, Statement.Short, Value.int, Location.Short,
      short_small]
  bindings := by
    intro name v hmem
    simp only [unusual, List.mem_cons, List.not_mem_nil, or_false, Prod.mk.injEq] at hmem
    obtain ⟨-, rfl⟩ | ⟨-, rfl⟩ := hmem <;> trivial

theorem load_dump_unusual :
    (Host.new none []).vocabulary = .ok .builtins ∧ unusual.Plain ∧ unusual.Short ∧
      (Document.Style.block "\t ").Blank ∧
      ∃ text loaded, (Session.on .builtins none unusual).dump (.block "\t ") = .ok text ∧
        (Host.new none []).load text .buffer = .ok loaded ∧
        loaded.state.stack = unusual.stack ∧ loaded.state.bindings = unusual.bindings := by
  have hvocabulary : (Host.new none []).vocabulary = .ok .builtins := rfl
  have hblank : (Document.Style.block "\t ").Blank := by
    intro c hc
    obtain rfl | rfl : c = '\t' ∨ c = ' ' := by simpa using hc
    · rfl
    · rfl
  exact ⟨hvocabulary, unusual_plain, unusual_short, hblank,
    load_dump hvocabulary (s := .on .builtins none unusual) unusual_plain unusual_short hblank
      .buffer⟩

/-- The document of a fresh state. -/
def freshDocument : Document :=
  .object [.mk "version" (.int 1), .mk "variables" (.object []), .mk "stack" (.list [])]

/-- Its text, with a letter as indent. -/
def letteredText : Text :=
  "\x7b\nx\"version\": 1,\nx\"variables\": \x7b\x7d,\nx\"stack\": []\n\x7d"

theorem write_freshDocument : freshDocument.write (.block "x") = .ok letteredText := by
  have hone : integerText? 1 = some ("1" : Text) := by
    have hshort : Int.natAbs 1 < digitBound := short_small (by decide)
    rw [integerText?, if_pos hshort]
    rfl
  have hversion : Document.fieldTextAt (.block "x") 1 (.mk "version" (.int 1)) =
      .ok "\"version\": 1" := by
    rw [Document.fieldTextAt, Document.textAt_int hone]
    rfl
  show (Document.fieldTextsAt (.block "x") 1 [.mk "version" (.int 1),
    .mk "variables" (.object []), .mk "stack" (.list [])] >>= _) = _
  rw [Document.fieldTextsAt, hversion]
  rfl

/-- An indent that is no blank is not read back, not even for a fresh session. -/
theorem load_dump_lettered_indent :
    (State.initial .discard).Plain ∧ (State.initial .discard).Short ∧
      (Session.on .builtins none (State.initial .discard)).dump (.block "x") = .ok letteredText ∧
      (Host.new none []).load letteredText .discard =
        .error (.of (.codec (.notDocument ("Expecting property name enclosed in double quotes: " ++
          "line 2 column 1 (char 2)")))) := by
  refine ⟨⟨?_, ?_, List.nodup_nil⟩, ⟨?_, ?_⟩, Session.dump_eq rfl write_freshDocument, by rfl⟩
  · intro v hv
    cases hv
  · intro name v hv
    cases hv
  · intro v hv
    cases hv
  · intro name v hv
    cases hv

end StackShell
