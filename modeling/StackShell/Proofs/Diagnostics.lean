import StackShell.Host.Terminal
import StackShell.Proofs.Sessions
import StackShell.Proofs.Syntax.Cuts

/-!
# Diagnostics that fit on one line

The wording of a failure quotes parts of the script: a token, a character, a name. None of these
goes over the end of a line, so that what is said about a text that cannot be read, or about a
program that was read and goes wrong, is a single line (`Syntax.Refuses.reportable`,
`Session.Mishap.reportable`). The failures that are not said at all but escape to the caller are
limits of the host's numbers and of its patience.
-/

namespace StackShell

/-- Whether a text has no line end in it. -/
def OneLine (text : Text) : Prop :=
  CodePoint.char '\n' ∉ text.toList

/-! ## Wording -/

namespace OneLine

@[simp] theorem digits (n : Nat) : '\n' ∉ Nat.toDigits 10 n := by
  intro hmem
  exact absurd (Nat.isDigit_of_mem_toDigits (by decide) (by decide) hmem) (by decide)

@[simp] theorem nat (n : Nat) : '\n' ∉ n.repr.toList := by
  simp [Nat.repr]

@[simp] theorem hexDigits (n : Nat) : '\n' ∉ Nat.toDigits 16 n := by
  have hdigit : ∀ d < 16, '\n' ≠ Nat.digitChar d := by decide
  induction n using Nat.strongRecOn with
  | _ n ih =>
  rw [Nat.toDigits_eq_if (by decide)]
  split
  · next hlt => simp [hdigit n hlt]
  · next hge =>
    have hinit := ih (n / 16) (by omega)
    have hlast := hdigit (n % 16) (Nat.mod_lt n (by decide))
    simp [hinit, hlast]

@[simp] theorem int (n : Int) : '\n' ∉ n.repr.toList := by
  cases n <;> simp [Int.repr]

@[simp] theorem location (place : Location) : CodePoint.char '\n' ∉ place.text.toList := by
  simp [Location.text]

end OneLine

theorem Text.Unencodable.oneLine (u : Text.Unencodable) : OneLine u.message := by
  unfold OneLine Text.Unencodable.message
  split <;> simp [Text.hex]

theorem Escape.Problem.oneLine (problem : Escape.Problem) : OneLine problem.message := by
  unfold OneLine Escape.Problem.message Escape.Reason.message
  cases problem with
  | unencodable surrogates => exact surrogates.oneLine
  | nullCharacter => simp
  | undecodable first stop reason => rcases reason with ⟨_ | _ | _⟩ | _ | _ | _ <;> simp

/-- A refusal is worded on one line if what it quotes is on one. -/
theorem ParseError.oneLine {error : ParseError}
    (hcharacter : ∀ c, error.problem = .character c → c ≠ .char '\n')
    (htoken : ∀ text, error.problem = .token text → OneLine text) : OneLine error.message := by
  obtain ⟨problem, place, source⟩ := error
  unfold OneLine ParseError.message
  cases problem with
  | character c =>
    have hquoted : CodePoint.char '\n' ≠ c := (hcharacter c rfl).symm
    simp [hquoted]
  | token text =>
    have hquoted : CodePoint.char '\n' ∉ text.toList := htoken text rfl
    simp [hquoted]
  | endOfInput => simp
  | literal text problem =>
    have hquoted : CodePoint.char '\n' ∉ problem.message.toList := problem.oneLine
    simp [hquoted]

theorem Underflow.oneLine {missing : Underflow}
    (h : ∀ command needed available, missing = .arguments command needed available →
      OneLine command) : OneLine missing.message := by
  unfold OneLine Underflow.message
  cases missing with
  | arguments command needed available =>
    have hquoted : CodePoint.char '\n' ∉ command.toList := h command needed available rfl
    simp [hquoted]
  | _ => simp

theorem Stop.oneLine (reason : Stop) : OneLine reason.message := by
  unfold OneLine Stop.message
  cases reason <;> simp

theorem Value.oneLine_typeName (v : Value) : OneLine v.typeName := by
  unfold OneLine Value.typeName
  cases v with
  | device d => cases d <;> decide
  | _ => simp

theorem Shape.oneLine_describe {shape : Shape} (h : shape.isOperand) : OneLine shape.describe := by
  unfold Shape.isOperand at h
  unfold OneLine
  split at h
  case h_9 => cases h
  all_goals decide

/-- What is said about a name is said on one line if the name is. -/
theorem Cause.oneLine_of_name {cause : Cause} {name : Text} (h : cause.name? = some name)
    (hname : OneLine name) : OneLine cause.message := by
  have hquoted : CodePoint.char '\n' ∉ name.toList := hname
  unfold OneLine Cause.message
  cases cause with
  | unknownCommand => cases h; simp [hquoted]
  | undefinedVariable => cases h; simp [hquoted]
  | _ => cases h

theorem Cause.oneLine_mismatch {expected : Text} (hexpected : OneLine expected) (v : Value) :
    OneLine (Cause.mismatch expected v.typeName).message := by
  have hleft : CodePoint.char '\n' ∉ expected.toList := hexpected
  have hright : CodePoint.char '\n' ∉ v.typeName.toList := v.oneLine_typeName
  unfold OneLine Cause.message
  simp [hleft, hright]

/-! ## Names -/

/-- Whether the name in a statement, if there is one, is on one line. -/
def Statement.NamedOnOneLine : Statement → Prop
  | .load name _ | .store name _ | .invoke name _ | .call (some name) _ => OneLine name
  | _ => True

open Syntax in
/-- The names in a program that was read are on one line each. -/
theorem Program.parse_namedOnOneLine [Platform] {isCommand : Text → Bool} {source : Text}
    {file : Option Text} {program : Program} (h : parse isCommand source file = .ok program) :
    Program.PlainWith Statement.NamedOnOneLine program := by
  refine parse_plainWith h fun token htoken _ => ?_
  have hline := Token.lineFeed_not_mem_token htoken
  have hname : OneLine (nameOf token) := by
    unfold OneLine nameOf
    rw [Text.toList_ofList]
    exact fun hmem => hline (List.mem_of_mem_drop hmem)
  have hword : OneLine (Text.ofList token.text) := by
    unfold OneLine
    rwa [Text.toList_ofList]
  unfold statementOf
  cases token.kind with
  | integer | real | string | atSign => trivial
  | store | namedCall => exact hname
  | word | blank | comment =>
    dsimp only
    split <;> exact hword
  | keyword k =>
    cases k with
    | trueWord | falseWord | callWord => trivial
    | _ =>
      dsimp only
      split <;> exact hword

/-! ## Failures -/

/-- Whether a fault is a limit: of the text of integers, of the range of doubles, or of patience. -/
def Fault.IsLimit : Fault → Prop
  | .textTooLong none | .literalTooLong .. | .integerTooLarge | .quotientTooLarge | .unfinished =>
    True
  | _ => False

/-- Whether a failure is worded on one line, or is one of the limits, which escape. -/
def Failure.Reportable : Failure → Prop
  | .script cause _ => OneLine cause.message
  | .fault problem => problem.IsLimit

theorem Failure.Located.reportable {raw failure : Failure} (h : raw.Located failure)
    (hraw : raw.Reportable) : failure.Reportable := by
  rcases h.eq with rfl | ⟨cause, place, place', rfl, rfl⟩
  · exact hraw
  · exact hraw

/-- A text is refused on one line, unless a limit is met. -/
theorem Syntax.Refuses.reportable [Platform] {source : Text} {file : Option Text}
    {failure : Failure} (h : Refuses source file failure) : failure.Reportable := by
  cases h with
  | @token token hmem =>
    refine ParseError.oneLine nofun fun text htext => ?_
    cases htext
    unfold OneLine
    rw [Text.toList_ofList]
    exact Token.lineFeed_not_mem_token hmem
  | character hstuck =>
    refine ParseError.oneLine (fun c hc => ?_) nofun
    cases hc
    exact Token.ne_lineFeed_of_stuck hstuck
  | endOfInput place => exact ParseError.oneLine nofun nofun
  | string hmem hkind hproblem => exact ParseError.oneLine nofun nofun
  | tooLong part hmem hkind hdigits => trivial
  | @malformed token hmem hkind hmalformed =>
    -- a row of digits, with a sign or not, is always read
    unfold Decimal.readInteger Decimal.ofDigits at hmalformed
    split at hmalformed <;> split at hmalformed <;> cases hmalformed

theorem Builtin.Fails.reportable {device : Device} (hdevice : device ≠ .console)
    {failure : Failure} (h : Fails device failure) : failure.Reportable := by
  cases h with
  | divisionByZero =>
    unfold Failure.of Failure.Reportable OneLine Cause.message Undefined.message
    simp
  | @noFloor _ text hmem =>
    have hquoted : CodePoint.char '\n' ∉ text.toList := by
      simp only [List.mem_cons, List.not_mem_nil, or_false] at hmem
      obtain rfl | rfl | rfl := hmem <;> decide
    unfold Failure.of Failure.Reportable OneLine Cause.message Undefined.message
    simp [hquoted]
  | outOfRange problem => cases problem <;> trivial
  | textTooLong => trivial
  | unencodable => exact absurd rfl hdevice

theorem Vocabulary.oneLine_of_mem_builtins {name : Text} {entry : Entry}
    (h : (name, entry) ∈ builtins.entries.entries) : OneLine name := by
  obtain ⟨r, -, -, hr, -⟩ := mem_builtins h
  have hnames : ∀ name ∈ Builtin.routines.map (·.1), CodePoint.char '\n' ∉ name.toList := by decide
  exact hnames name (List.mem_map_of_mem hr)

/-- What goes wrong on a session with the built-in commands whose output is kept is said on one
line, unless a limit is met. -/
theorem Session.Mishap.reportable {s : Session} (hvocabulary : s.vocabulary = .builtins)
    (hdevice : s.state.device ≠ .console)
    (hcheckpoint : ∀ statement state failure state',
      s.checkpoint statement state = .failed failure state' → failure.Reportable)
    {raw : Failure} (h : s.Mishap Builtin.Fails Statement.NamedOnOneLine raw)
    (hdepth : raw ≠ .fault .depth) : raw.Reportable := by
  cases h with
  | stopped reason => exact reason.oneLine
  | checkpoint hfailed => exact hcheckpoint _ _ _ _ hfailed
  | undefinedLoad hname => exact Cause.oneLine_of_name rfl hname
  | undefinedCall hname => exact Cause.oneLine_of_name rfl hname
  | unknown hname _ => exact Cause.oneLine_of_name rfl hname
  | @underflow missing hmem =>
    refine Underflow.oneLine fun command needed available heq => ?_
    subst heq
    simp at hmem
  | @mismatch expected v hmem =>
    refine Cause.oneLine_mismatch ?_ v
    simp only [List.mem_cons, List.not_mem_nil, or_false] at hmem
    obtain rfl | rfl := hmem <;> unfold OneLine <;> decide
  | @few name entry needed available hmem =>
    rw [hvocabulary] at hmem
    refine Underflow.oneLine fun command needed' available' heq => ?_
    cases heq
    exact Vocabulary.oneLine_of_mem_builtins hmem
  | operand v hshape => exact Cause.oneLine_mismatch (Shape.oneLine_describe hshape) v
  | routine hfails => exact hfails.reportable hdevice
  | tooDeep => exact absurd rfl hdepth

end StackShell
