import StackShell.Command.TextExtension
import StackShell.Host.Basic
import StackShell.Proofs.Encodings
import StackShell.Proofs.Plain.Printing
import StackShell.Proofs.Plain.Routines

/-!
# The commands at hand behave

Every built-in routine and every routine of the text extension behaves: out of plain values it makes
plain ones, and it fails only in the few ways that are listed here (`Builtin.Fails`,
`TextExtension.Fails`).
-/

namespace StackShell

/-! ## Failures -/

/-- How built-in routines fail on a device that are given what they ask for. -/
inductive Builtin.Fails : Device → Failure → Prop where
  | divisionByZero {device : Device} : Fails device (.of (.arithmetic .divisionByZero))
  /-- A double that has no floor is an infinity or not a number. -/
  | noFloor {device : Device} {text : Text} : text ∈ [("inf" : Text), "-inf", "nan"] →
      Fails device (.of (.arithmetic (.noFloor text)))
  /-- An integer, or a quotient of integers, is beyond the doubles. -/
  | outOfRange {device : Device} (problem : NumberProblem) : Fails device (.fault problem.fault)
  /-- An integer has too many digits to be written. -/
  | textTooLong {device : Device} : Fails device (.fault (.textTooLong none))
  /-- The console takes no surrogates. -/
  | unencodable (surrogates : Text.Unencodable) : Fails .console (.fault (.unencodable surrogates))

/-- How routines fail on a device, those of the text extension included, that are given what they
ask for. -/
inductive TextExtension.Fails : Device → Failure → Prop where
  | builtin {device : Device} {failure : Failure} :
      Builtin.Fails device failure → Fails device failure
  | negativeRepeat {device : Device} (count : Text) :
      Fails device (.of (.arithmetic (.negativeRepeat count)))
  | longRepeat {device : Device} : Fails device (.of (.arithmetic .longRepeat))
  | countTooLarge {device : Device} : Fails device (.fault .countTooLarge)

variable {good : Statement → Prop} {device : Device} {fails : Device → Failure → Prop}

/-! ## Replies -/

/-- Whether a reply gives a plain value, whatever good words are, or a failure of those expected. -/
def Reply.Behaves (expected : Failure → Prop) (reply : Reply) : Prop :=
  match reply.result with
  | .ok v => ∀ good, v.PlainWith good
  | .error failure => expected failure

namespace Reply

variable {expected : Failure → Prop}

theorem value_behaves {v : Value} (hv : ∀ good, v.PlainWith good) :
    (Reply.value v).Behaves expected :=
  hv

theorem fail_behaves {failure : Failure} (h : expected failure) :
    (Reply.fail failure).Behaves expected :=
  h

end Reply

namespace Routine

/-- A routine with one result behaves if all its replies do. -/
theorem behaves_of_single {r : Routine} {out shape : Shape} (hout : r.result = some out)
    (hyield : Signature.yieldOf out = .ok (.items [shape]))
    (hoperands : ∀ shape ∈ r.shapes, shape.isOperand)
    (h : ∀ good device args, List.Forall₂ (Shape.Fits good device) r.shapes args →
      (r.body args).Behaves (fails device)) :
    r.Behaves fails := by
  refine ⟨hoperands, fun good device args hargs => ?_⟩
  have hreply := h good device args hargs
  unfold Reply.Behaves at hreply
  cases hresult : (r.body args).result with
  | error failure =>
    rw [hresult] at hreply
    exact hreply
  | ok v =>
    rw [hresult] at hreply
    intro out' yield hout' hyield'
    rw [hout] at hout'
    cases hout'
    rw [hyield] at hyield'
    cases hyield'
    exact hreply good

/-- A routine without a result behaves if it fails as expected. -/
theorem behaves_of_nothing {r : Routine} (hout : r.result = some .nothing)
    (hoperands : ∀ shape ∈ r.shapes, shape.isOperand)
    (h : ∀ good device args, List.Forall₂ (Shape.Fits good device) r.shapes args →
      ∀ failure, (r.body args).result = .error failure → fails device failure) :
    r.Behaves fails := by
  refine ⟨hoperands, fun good device args hargs => ?_⟩
  cases hresult : (r.body args).result with
  | error failure => exact h good device args hargs failure hresult
  | ok v =>
    intro out' yield hout' hyield
    rw [hout] at hout'
    cases hout'
    cases hyield
    trivial

/-- A routine behaves that always gives several plain results, as a tuple. -/
theorem behaves_of_several {r : Routine} {n : Nat}
    (hout : r.result = some (Builtin.several (n + 2)))
    (hoperands : ∀ shape ∈ r.shapes, shape.isOperand)
    (h : ∀ good device args, List.Forall₂ (Shape.Fits good device) r.shapes args →
      ∃ items, (r.body args).result = .ok (.tuple items) ∧ Value.AllPlainWith good items) :
    r.Behaves fails := by
  refine ⟨hoperands, fun good device args hargs => ?_⟩
  obtain ⟨items, hresult, hitems⟩ := h good device args hargs
  rw [hresult]
  intro out' yield hout' hyield
  rw [hout] at hout'
  cases hout'
  obtain ⟨row, hrow, hyield⟩ := bind_eq_ok.1 hyield
  cases hyield
  -- a row of at least two results is taken apart, so that the tuple itself need not be plain
  have hlength := length_of_mapM_ok hrow
  match row, hlength with
  | _ :: _ :: _, _ => exact ⟨items, rfl, hitems⟩

end Routine

/-! ## Arguments -/

namespace Shape.Fits

variable {v : Value}

theorem number (h : Shape.Fits good device Builtin.numeric v) : ∃ n, v = .number n := by
  obtain ⟨-, test, htest, haccepts⟩ := h
  cases htest
  cases v with
  | number n => exact ⟨n, rfl⟩
  | _ => cases haccepts

theorem integer (h : Shape.Fits good device .integer v) : ∃ n, v = .number (.int n) := by
  obtain ⟨-, test, htest, haccepts⟩ := h
  cases htest
  rcases v with (n | x) | _ | _ | _ | _ | _ | _ | _
  case number.int => exact ⟨n, rfl⟩
  all_goals cases haccepts

theorem boolean (h : Shape.Fits good device .boolean v) : ∃ b, v = .boolean b := by
  obtain ⟨-, test, htest, haccepts⟩ := h
  cases htest
  cases v with
  | boolean b => exact ⟨b, rfl⟩
  | _ => cases haccepts

theorem string (h : Shape.Fits good device .string v) : ∃ text, v = .string text := by
  obtain ⟨-, test, htest, haccepts⟩ := h
  cases htest
  cases v with
  | string text => exact ⟨text, rfl⟩
  | _ => cases haccepts

theorem output (h : Shape.Fits good device .output v) : v = .device device :=
  h

theorem plain (h : Shape.Fits good device .anything v) : v.PlainWith good :=
  h.1

end Shape.Fits

namespace Builtin

theorem isOperand_one {shape : Shape} (h : shape.isOperand) :
    ∀ shape' ∈ (one shape).filterMap (·.shape), shape'.isOperand := by
  simp [one, parameter, h]

theorem isOperand_two {shape : Shape} (h : shape.isOperand) :
    ∀ shape' ∈ (two shape).filterMap (·.shape), shape'.isOperand := by
  simp [two, parameter, h]

/-! ## Families of routines -/

theorem result_behaves (r : Except NumberProblem Number) : (result r).Behaves (Fails device) := by
  cases r with
  | error problem => exact Reply.fail_behaves (.outOfRange problem)
  | ok n => exact Reply.value_behaves fun _ => trivial

theorem numbers_behaves {out shape : Shape}
    (hyield : Signature.yieldOf out = .ok (.items [shape])) {f : Number → Number → Reply}
    {hout : out ≠ .stack} (hf : ∀ device b a, (f b a).Behaves (fails device)) :
    (numbers out f hout).Behaves fails := by
  refine Routine.behaves_of_single rfl hyield (isOperand_two rfl) fun good device args hargs => ?_
  match args, hargs with
  | [_, _], .cons hb (.cons ha .nil) =>
    obtain ⟨b, rfl⟩ := hb.number
    obtain ⟨a, rfl⟩ := ha.number
    exact hf device b a

theorem number_behaves {out shape : Shape}
    (hyield : Signature.yieldOf out = .ok (.items [shape])) {f : Number → Reply}
    {hout : out ≠ .stack} (hf : ∀ device x, (f x).Behaves (fails device)) :
    (number out f hout).Behaves fails := by
  refine Routine.behaves_of_single rfl hyield (isOperand_one rfl) fun good device args hargs => ?_
  match args, hargs with
  | [_], .cons hx .nil =>
    obtain ⟨x, rfl⟩ := hx.number
    exact hf device x

theorem comparison_behaves (f : Number → Number → Bool) : (comparison f).Behaves fails :=
  numbers_behaves rfl fun _ _ _ => Reply.value_behaves fun _ => trivial

theorem division_behaves (f : Number → Number → Except NumberProblem Number) :
    (division f).Behaves Fails := by
  refine numbers_behaves rfl fun device b a => ?_
  split
  · exact Reply.fail_behaves .divisionByZero
  · exact result_behaves _

theorem logic_behaves (f : Bool → Bool → Bool) : (logic f).Behaves fails := by
  refine Routine.behaves_of_single rfl rfl (isOperand_two rfl) fun good device args hargs => ?_
  match args, hargs with
  | [_, _], .cons hb (.cons ha .nil) =>
    obtain ⟨b, rfl⟩ := hb.boolean
    obtain ⟨a, rfl⟩ := ha.boolean
    exact Reply.value_behaves fun _ => trivial

theorem any_behaves {out shape : Shape} (hyield : Signature.yieldOf out = .ok (.items [shape]))
    {f : Value → Reply} {hout : out ≠ .stack}
    (hf : ∀ device (x : Value), x.Plain → (f x).Behaves (fails device)) :
    (any out f hout).Behaves fails := by
  refine Routine.behaves_of_single rfl hyield (isOperand_one rfl) fun good device args hargs => ?_
  match args, hargs with
  | [x], .cons hx .nil => exact hf device x hx.plain.plain

theorem question_behaves (f : Value → Bool) : (question f).Behaves fails :=
  any_behaves rfl fun _ _ _ => Reply.value_behaves fun _ => trivial

theorem anyTwo_behaves {out shape : Shape} (hyield : Signature.yieldOf out = .ok (.items [shape]))
    {f : Value → Value → Reply} {hout : out ≠ .stack}
    (hf : ∀ device b a, (f b a).Behaves (fails device)) :
    (anyTwo out f hout).Behaves fails := by
  refine Routine.behaves_of_single rfl hyield (isOperand_two rfl) fun good device args hargs => ?_
  match args, hargs with
  | [b, a], .cons _ (.cons _ .nil) => exact hf device b a

/-- A routine that shuffles one value behaves if it gives nothing else. -/
theorem any_several_behaves {n : Nat} (f : Value → List Value) (hf : ∀ x, ∀ v ∈ f x, v = x) :
    (any (several (n + 2)) fun x => .value (.tuple (f x))).Behaves fails := by
  refine Routine.behaves_of_several rfl (isOperand_one rfl) fun good device args hargs => ?_
  match args, hargs with
  | [x], .cons hx .nil =>
    refine ⟨f x, rfl, fun w hw => ?_⟩
    rw [hf x w hw]
    exact hx.plain

/-- A routine that shuffles two values behaves if it gives nothing else. -/
theorem anyTwo_several_behaves {n : Nat} (f : Value → Value → List Value)
    (hf : ∀ b a, ∀ v ∈ f b a, v = b ∨ v = a) :
    (anyTwo (several (n + 2)) fun b a => .value (.tuple (f b a))).Behaves fails := by
  refine Routine.behaves_of_several rfl (isOperand_two rfl) fun good device args hargs => ?_
  match args, hargs with
  | [b, a], .cons hb (.cons ha .nil) =>
    refine ⟨f b a, rfl, fun w hw => ?_⟩
    rcases hf b a w hw with rfl | rfl
    · exact hb.plain
    · exact ha.plain

theorem any_nothing_behaves :
    (any .nothing fun _ => .value .absent).Behaves fails := by
  refine Routine.behaves_of_nothing rfl (isOperand_one rfl)
    fun good device args hargs failure h => ?_
  match args, hargs with
  | [x], _ => cases h

theorem textOf_eq_error {v : Value} (hv : v.Plain) {failure : Failure}
    (h : textOf v = .error failure) : Fails device failure := by
  unfold textOf at h
  cases hprinted : v.printed with
  | ok text =>
    rw [hprinted] at h
    cases h
  | error fault =>
    rw [hprinted] at h
    cases h
    rw [Value.printed_eq_error hv hprinted]
    exact .textTooLong

/-- A text is put out unless it has a surrogate and goes to the console. -/
theorem print_eq_error {text : Text} {failure : Failure}
    (h : (device.print text).result = .error failure) : Fails device failure := by
  unfold Device.print at h
  split at h
  · split at h
    · cases h
    · next fault hwritten =>
      cases h
      obtain ⟨surrogates, rfl⟩ := Text.written_eq_error hwritten
      exact .unencodable surrogates
  · cases h

theorem printing_behaves (ending : Text) : (printing ending).Behaves Fails := by
  refine Routine.behaves_of_nothing rfl (by simp [Routine.shapes, printing, output, parameter,
    Shape.isOperand]) fun good device args hargs failure h => ?_
  match args, hargs with
  | [_, x], .cons hio (.cons hx .nil) =>
    obtain rfl := hio.output
    cases htext : textOf x with
    | ok text =>
      simp only [printing, htext] at h
      exact print_eq_error h
    | error problem =>
      simp only [printing, htext] at h
      cases h
      exact textOf_eq_error hx.plain.plain htext

/-! ## Single routines -/

/-- A double without a floor is written as what it is. -/
theorem realText_of_floor?_eq_none {x : Number} {y : Float} (hy : x.toFloat = .ok y)
    (hfloor : x.floor? = none) : Decimal.realText y ∈ [("inf" : Text), "-inf", "nan"] := by
  cases x with
  | int n => cases hfloor
  | float x =>
    cases hy
    simp only [Number.floor?, Number.exact] at hfloor
    unfold Decimal.realText
    cases hx : Decimal.Binary.ofFloat y with
    | finite negative m e =>
      rw [hx] at hfloor
      cases hfloor
    | infinite negative => cases negative <;> simp
    | nan => simp

theorem floorOf_behaves (x : Number) : (floorOf x).Behaves (Fails device) := by
  unfold floorOf
  split
  · next problem _ => exact Reply.fail_behaves (.outOfRange problem)
  · next y hy =>
    split
    · exact Reply.value_behaves fun _ => trivial
    · next hfloor => exact Reply.fail_behaves (.noFloor (realText_of_floor?_eq_none hy hfloor))

theorem concat_behaves : concat.Behaves fails := by
  refine Routine.behaves_of_single rfl rfl (isOperand_two rfl) fun good device args hargs => ?_
  match args, hargs with
  | [_, _], .cons hb (.cons ha .nil) =>
    obtain ⟨b, rfl⟩ := hb.string
    obtain ⟨a, rfl⟩ := ha.string
    exact Reply.value_behaves fun _ => trivial

theorem length_behaves : length.Behaves fails := by
  refine Routine.behaves_of_single rfl rfl (isOperand_one rfl) fun good device args hargs => ?_
  match args, hargs with
  | [_], .cons hx .nil =>
    obtain ⟨x, rfl⟩ := hx.string
    exact Reply.value_behaves fun _ => trivial

theorem depth_behaves : depth.Behaves fails := by
  refine Routine.behaves_of_single rfl rfl (by simp [Routine.shapes, depth, parameter,
    Shape.isOperand]) fun good device args hargs => ?_
  match args, hargs with
  | [_], .cons ⟨items, hitems, _⟩ .nil =>
    rw [hitems]
    exact Reply.value_behaves fun _ => trivial

theorem clearStack_behaves : clearStack.Behaves fails := by
  refine ⟨by simp [Routine.shapes, clearStack, parameter, Shape.isOperand], ?_⟩
  intro good device args _ out yield hout hyield
  cases hout
  cases hyield
  exact ⟨[], rfl, .nil⟩

theorem clear_behaves : clear.Behaves fails := by
  refine Routine.behaves_of_nothing rfl (by simp [Routine.shapes, clear, output, parameter,
    Shape.isOperand]) fun good device args _ failure h => ?_
  cases h

theorem rotate_behaves : rotate.Behaves fails := by
  refine Routine.behaves_of_several rfl (by simp [Routine.shapes, rotate, parameter,
    Shape.isOperand]) fun good device args hargs => ?_
  match args, hargs with
  | [c, b, a], .cons hc (.cons hb (.cons ha .nil)) =>
    exact ⟨[b, a, c], rfl, .cons hb.plain (.cons ha.plain (.cons hc.plain .nil))⟩

theorem negation_behaves :
    Routine.Behaves fails
      { name := "", parameters := one .boolean, result := some .boolean,
        body := fun | [.boolean x] => .value (.boolean (!x)) | _ => .misfit } := by
  refine Routine.behaves_of_single rfl rfl (isOperand_one rfl) fun good device args hargs => ?_
  match args, hargs with
  | [_], .cons hx .nil =>
    obtain ⟨x, rfl⟩ := hx.boolean
    exact Reply.value_behaves fun _ => trivial

/-- A text that is made of a plain value is a string, if it can be written. -/
theorem ofExcept_string_behaves {α : Type} {x : Except Failure α} {f : α → Text}
    {expected : Failure → Prop} (h : ∀ failure, x = .error failure → expected failure) :
    (Reply.ofExcept (x.map fun a => .string (f a))).Behaves expected := by
  cases x with
  | error failure => exact h failure rfl
  | ok a => exact fun _ => trivial

/-- All built-in routines behave. -/
theorem routines_behave : ∀ e ∈ routines, e.2.Behaves Fails := by
  simp only [routines, List.forall_mem_cons]
  refine ⟨number_behaves rfl fun _ _ => Reply.value_behaves fun _ => trivial,
    numbers_behaves rfl fun _ _ _ => result_behaves _, logic_behaves _, question_behaves _,
    clear_behaves, clearStack_behaves, concat_behaves, depth_behaves, division_behaves _,
    any_nothing_behaves, any_several_behaves (fun x => [x, x]) (by simp),
    anyTwo_behaves rfl fun _ _ _ => Reply.value_behaves fun _ => trivial,
    number_behaves rfl fun _ => floorOf_behaves, question_behaves _, comparison_behaves _,
    comparison_behaves _, division_behaves _, comparison_behaves _, length_behaves,
    comparison_behaves _,
    numbers_behaves rfl fun _ _ _ => Reply.value_behaves fun _ => trivial,
    numbers_behaves rfl fun _ _ _ => Reply.value_behaves fun _ => trivial,
    numbers_behaves rfl fun _ _ _ => result_behaves _,
    anyTwo_behaves rfl fun _ _ _ => Reply.value_behaves fun _ => trivial,
    number_behaves rfl fun _ _ => Reply.value_behaves fun _ => trivial, negation_behaves,
    question_behaves _, logic_behaves _,
    anyTwo_several_behaves (fun b a => [b, a, b]) (by simp), printing_behaves _,
    division_behaves _, rotate_behaves,
    any_behaves rfl fun _ x hx => ofExcept_string_behaves fun _ => textOf_eq_error hx,
    question_behaves _, numbers_behaves rfl fun _ _ _ => result_behaves _,
    anyTwo_several_behaves (fun b a => [a, b]) (by simp [or_comm]),
    any_behaves rfl fun _ _ _ => Reply.value_behaves fun _ => trivial, printing_behaves _, ?_⟩
  intro e he
  cases he

end Builtin

namespace TextExtension

theorem mapping_behaves (name : Text) (f : Text → Text) :
    (mapping name f).Behaves fails := by
  refine Routine.behaves_of_single rfl rfl (Builtin.isOperand_one rfl)
    fun good device args hargs => ?_
  match args, hargs with
  | [_], .cons hx .nil =>
    obtain ⟨x, rfl⟩ := hx.string
    exact Reply.value_behaves fun _ => trivial

theorem contains_behaves : contains.Behaves fails := by
  refine Routine.behaves_of_single rfl rfl (Builtin.isOperand_two rfl)
    fun good device args hargs => ?_
  match args, hargs with
  | [_, _], .cons hb (.cons ha .nil) =>
    obtain ⟨b, rfl⟩ := hb.string
    obtain ⟨a, rfl⟩ := ha.string
    exact Reply.value_behaves fun _ => trivial

theorem replace_behaves : replace.Behaves fails := by
  refine Routine.behaves_of_single rfl rfl (by simp [Routine.shapes, replace, Builtin.parameter,
    Shape.isOperand]) fun good device args hargs => ?_
  match args, hargs with
  | [_, _, _], .cons hc (.cons hb (.cons ha .nil)) =>
    obtain ⟨c, rfl⟩ := hc.string
    obtain ⟨b, rfl⟩ := hb.string
    obtain ⟨a, rfl⟩ := ha.string
    exact Reply.value_behaves fun _ => trivial

/-- A repetition gives a string, or fails because of the count or of the length. -/
theorem repeated_behaves (text : Text) (count : Int) :
    (Reply.ofExcept (repeated text count)).Behaves (Fails device) := by
  unfold repeated
  split
  · split
    · exact Fails.negativeRepeat _
    · exact Fails.builtin .textTooLong
  · split
    · exact Fails.longRepeat
    · split
      · exact Fails.countTooLarge
      · split <;> exact fun _ => trivial

theorem repetition_behaves : repetition.Behaves Fails := by
  refine Routine.behaves_of_single rfl rfl (by simp [Routine.shapes, repetition,
    Builtin.parameter, Shape.isOperand]) fun good device args hargs => ?_
  match args, hargs with
  | [_, _], .cons hb (.cons ha .nil) =>
    obtain ⟨b, rfl⟩ := hb.string
    obtain ⟨a, rfl⟩ := ha.integer
    exact repeated_behaves b a

/-- A template can be filled unless it asks for a value that cannot be written. -/
theorem fillTemplate_eq_error {value : Except Failure (List CodePoint)} {template : List CodePoint}
    {failure : Failure} (h : Text.fillTemplate value template = .error failure) :
    value = .error failure := by
  induction template using Text.fillTemplate.induct with
  | case1 rest ih =>
    rw [Text.fillTemplate] at h
    rcases bind_eq_error.1 h with h | ⟨v, -, h⟩
    · exact h
    · rcases bind_eq_error.1 h with h | ⟨tail, -, h⟩
      · exact ih h
      · cases h
  | case2 rest ih =>
    rw [Text.fillTemplate] at h
    rcases bind_eq_error.1 h with h | ⟨tail, -, h⟩
    · exact ih h
    · cases h
  | case3 c rest hvalue hpercent ih =>
    rw [Text.fillTemplate] at h
    · rcases bind_eq_error.1 h with h | ⟨tail, -, h⟩
      · exact ih h
      · cases h
    · exact hvalue
    · exact hpercent
  | case4 => cases h

theorem format_behaves : format.Behaves Fails := by
  refine Routine.behaves_of_single rfl rfl (by simp [Routine.shapes, format, Builtin.parameter,
    Shape.isOperand]) fun good device args hargs => ?_
  match args, hargs with
  | [b, _], .cons hb (.cons ha .nil) =>
    obtain ⟨a, rfl⟩ := ha.string
    refine Builtin.ofExcept_string_behaves fun failure hfilled => ?_
    have htext := fillTemplate_eq_error hfilled
    cases hb' : Builtin.textOf b with
    | ok text =>
      rw [hb'] at htext
      cases htext
    | error problem =>
      rw [hb'] at htext
      cases htext
      exact .builtin (Builtin.textOf_eq_error hb.plain.plain hb')

/-- All routines of the text extension behave. -/
theorem routines_behave {rs : List Routine} (h : extension = .operators rs) :
    ∀ r ∈ rs, r.Behaves Fails := by
  cases h
  simp only [List.forall_mem_cons]
  refine ⟨mapping_behaves _ _, mapping_behaves _ _, mapping_behaves _ _, contains_behaves,
    replace_behaves, repetition_behaves, format_behaves, ?_⟩
  intro r hr
  cases hr

end TextExtension

end StackShell
