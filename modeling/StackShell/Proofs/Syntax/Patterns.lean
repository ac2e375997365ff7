import Mathlib
import StackShell.Program.Token

/-!
# Patterns of lexemes

What each kind of lexeme looks like, said by patterns over characters, and apart from the functions
that measure lexemes. A pattern that matches at the start of a text leaves some rest of it; it may
match there in several ways, and the longest match counts.

The main facts are that each measuring function finds the longest match of its pattern, and that it
fails exactly if the pattern does not match at all (`Measures`).
-/

namespace StackShell.Token

/-- A pattern over characters. -/
inductive Pattern where
  | one (isMember : CodePoint → Bool)
  | seq (first second : Pattern)
  | either (first second : Pattern)
  | perhaps (p : Pattern)
  | many (p : Pattern)

namespace Pattern

/-- A pattern matches at the start of a text and leaves the rest. -/
inductive Leaves : Pattern → List CodePoint → List CodePoint → Prop where
  | one {isMember c rest} (h : isMember c = true) : Leaves (.one isMember) (c :: rest) rest
  | seq {p q text middle rest} (hp : Leaves p text middle) (hq : Leaves q middle rest) :
    Leaves (.seq p q) text rest
  | left {p q text rest} (h : Leaves p text rest) : Leaves (.either p q) text rest
  | right {p q text rest} (h : Leaves q text rest) : Leaves (.either p q) text rest
  | skip {p text} : Leaves (.perhaps p) text text
  | take {p text rest} (h : Leaves p text rest) : Leaves (.perhaps p) text rest
  | stop {p text} : Leaves (.many p) text text
  | more {p text middle rest} (h : Leaves p text middle) (hrest : Leaves (.many p) middle rest) :
    Leaves (.many p) text rest

/-- Exactly the given character. -/
def char (c : CodePoint) : Pattern :=
  .one (· == c)

/-- One or more members of a class. -/
def some1 (isMember : CodePoint → Bool) : Pattern :=
  .seq (.one isMember) (.many (.one isMember))

end Pattern

open Pattern

/-- An integer: a minus or not, and digits. -/
def integerPattern : Pattern :=
  .seq (.perhaps (.char '-')) (.some1 Text.isDigit)

/-- An exponent: a letter, a sign or not, and digits. -/
def exponentPattern : Pattern :=
  .seq (.one fun c => c == 'e' || c == 'E')
    (.seq (.perhaps (.one fun c => c == '+' || c == '-')) (.some1 Text.isDigit))

/-- A real: an integer, a point, digits, and an exponent or not. -/
def realPattern : Pattern :=
  .seq integerPattern
    (.seq (.char '.') (.seq (.some1 Text.isDigit) (.perhaps exponentPattern)))

/-- One character of a string, or a backslash and the character it takes along. -/
def stringUnit : Pattern :=
  .either (.one fun c => !(c == '"' || c == '\\' || c == '\r' || c == '\n'))
    (.seq (.char '\\') (.one (· != '\n')))

/-- A string: quotes around units on one line. -/
def stringPattern : Pattern :=
  .seq (.char '"') (.seq (.many stringUnit) (.char '"'))

/-- A mark and a name. -/
def markedPattern (mark : CodePoint) : Pattern :=
  .seq (.char mark) (.seq (.one isNameStart) (.many (.one isNameChar)))

/-- The start of a number, which no word has. -/
def numberStart : Pattern :=
  .seq (.perhaps (.char '-')) (.one Text.isDigit)

/-- A comment: a number sign and the rest of the line. -/
def commentPattern : Pattern :=
  .seq (.char '#') (.many (.one fun c => !(c == '\r' || c == '\n')))

/-! ## Single matches -/

namespace Pattern

variable {p q : Pattern} {isMember : CodePoint → Bool} {c : CodePoint} {text rest : List CodePoint}

@[simp]
theorem leaves_one : Leaves (.one isMember) text rest ↔
    ∃ c, text = c :: rest ∧ isMember c = true := by
  constructor
  · intro h
    cases h with
    | one h => exact ⟨_, rfl, h⟩
  · rintro ⟨c, rfl, h⟩
    exact .one h

@[simp]
theorem leaves_char : Leaves (.char c) text rest ↔ text = c :: rest := by
  constructor
  · intro h
    obtain ⟨d, rfl, hd⟩ := leaves_one.1 h
    rw [eq_of_beq hd]
  · rintro rfl
    exact .one (beq_self_eq_true c)

@[simp]
theorem leaves_seq : Leaves (.seq p q) text rest ↔
    ∃ middle, Leaves p text middle ∧ Leaves q middle rest := by
  constructor
  · intro h
    cases h with
    | seq hp hq => exact ⟨_, hp, hq⟩
  · rintro ⟨middle, hp, hq⟩
    exact .seq hp hq

@[simp]
theorem leaves_either : Leaves (.either p q) text rest ↔
    Leaves p text rest ∨ Leaves q text rest := by
  constructor
  · intro h
    cases h with
    | left h => exact .inl h
    | right h => exact .inr h
  · rintro (h | h)
    · exact .left h
    · exact .right h

@[simp]
theorem leaves_perhaps : Leaves (.perhaps p) text rest ↔ text = rest ∨ Leaves p text rest := by
  constructor
  · intro h
    cases h with
    | skip => exact .inl rfl
    | take h => exact .inr h
  · rintro (rfl | h)
    · exact .skip
    · exact .take h

/-- A repeated class takes a run of its members. -/
@[simp]
theorem leaves_many_one : Leaves (.many (.one isMember)) text rest ↔
    ∃ run, text = run ++ rest ∧ ∀ c ∈ run, isMember c = true := by
  constructor
  · intro h
    generalize hp : Pattern.many (.one isMember) = p at h
    induction h with
    | one | seq | left | right | skip | take => cases hp
    | stop => exact ⟨[], rfl, by simp⟩
    | more hfirst _ _ ih =>
      cases hp
      obtain ⟨c, rfl, hc⟩ := leaves_one.1 hfirst
      obtain ⟨run, rfl, hrun⟩ := ih rfl
      refine ⟨c :: run, rfl, ?_⟩
      intro d hd
      obtain rfl | hd := List.mem_cons.1 hd
      · exact hc
      · exact hrun d hd
  · rintro ⟨run, rfl, hrun⟩
    induction run with
    | nil => exact .stop
    | cons c run ih =>
      exact .more (.one (hrun c List.mem_cons_self))
        (ih fun d hd => hrun d (List.mem_cons_of_mem c hd))

@[simp]
theorem leaves_some1 : Leaves (.some1 isMember) text rest ↔
    ∃ run, text = run ++ rest ∧ run ≠ [] ∧ ∀ c ∈ run, isMember c = true := by
  rw [some1, leaves_seq]
  constructor
  · rintro ⟨middle, hone, hmany⟩
    obtain ⟨c, rfl, hc⟩ := leaves_one.1 hone
    obtain ⟨run, rfl, hrun⟩ := leaves_many_one.1 hmany
    refine ⟨c :: run, rfl, List.cons_ne_nil c run, ?_⟩
    intro d hd
    obtain rfl | hd := List.mem_cons.1 hd
    · exact hc
    · exact hrun d hd
  · rintro ⟨run, rfl, hne, hrun⟩
    obtain ⟨c, run, rfl⟩ := List.exists_cons_of_ne_nil hne
    exact ⟨run ++ rest, .one (hrun c List.mem_cons_self),
      leaves_many_one.2 ⟨run, rfl, fun d hd => hrun d (List.mem_cons_of_mem c hd)⟩⟩

end Pattern

/-! ## Measuring -/

/-- A measuring function finds the longest match of a pattern, and fails if there is none. -/
structure Measures (p : Pattern) (size? : List CodePoint → Option Nat) : Prop where
  found : ∀ {text n}, size? text = some n → n ≤ text.length ∧ p.Leaves text (text.drop n)
  longest : ∀ {text rest}, p.Leaves text rest →
    ∃ n, size? text = some n ∧ text.length ≤ n + rest.length

/-- A run of members is no longer than all members at the start. -/
theorem length_le_runLength {isMember : CodePoint → Bool} {run rest : List CodePoint}
    (h : ∀ c ∈ run, isMember c = true) : run.length ≤ runLength isMember (run ++ rest) := by
  rw [runLength, List.takeWhile_append_of_pos h, List.length_append]
  omega

/-- A run of members that is followed by something else is all members at the start. -/
theorem runLength_eq {isMember : CodePoint → Bool} {run rest : List CodePoint}
    (h : ∀ c ∈ run, isMember c = true) (hrest : ∀ c ∈ rest.head?, isMember c = false) :
    runLength isMember (run ++ rest) = run.length := by
  rw [runLength, List.takeWhile_append_of_pos h]
  cases rest with
  | nil => simp
  | cons c rest => rw [List.takeWhile_cons_of_neg (by simp [hrest c rfl]), List.append_nil]

/-- The members at the start of a text, and what is left. -/
theorem exists_run (isMember : CodePoint → Bool) (text : List CodePoint) :
    ∃ run rest, text = run ++ rest ∧ runLength isMember text = run.length ∧
      (∀ c ∈ run, isMember c = true) ∧ ∀ c ∈ rest.head?, isMember c = false := by
  refine ⟨text.takeWhile isMember, text.dropWhile isMember,
    List.takeWhile_append_dropWhile.symm, rfl, ?_, ?_⟩
  · intro c hc
    exact List.all_eq_true.1 List.all_takeWhile c hc
  · intro c hc
    have h := List.head?_dropWhile_not isMember text
    rw [hc] at h
    simpa using h

theorem measures_run (isMember : CodePoint → Bool) :
    Measures (.many (.one isMember)) fun text => some (runLength isMember text) := by
  constructor
  · intro text n hn
    cases hn
    obtain ⟨run, rest, htext, hlength, hrun, -⟩ := exists_run isMember text
    rw [hlength, htext, List.drop_left]
    exact ⟨by simp, leaves_many_one.2 ⟨run, rfl, hrun⟩⟩
  · intro text rest h
    obtain ⟨run, rfl, hrun⟩ := leaves_many_one.1 h
    have hle : run.length ≤ runLength isMember (run ++ rest) := length_le_runLength hrun
    refine ⟨_, rfl, ?_⟩
    rw [List.length_append]
    omega

/-- A first character, and then what another function measures. -/
theorem Measures.cons {p : Pattern} {size? : List CodePoint → Option Nat} (h : Measures p size?)
    (isMember : CodePoint → Bool) :
    Measures (.seq (.one isMember) p) fun
      | c :: rest => if isMember c then (size? rest).map (· + 1) else none
      | [] => none := by
  constructor
  · intro text n hn
    cases text with
    | nil => cases hn
    | cons c rest =>
      dsimp only at hn
      split at hn
      · next hc =>
        obtain ⟨k, hk, rfl⟩ := Option.map_eq_some_iff.1 hn
        obtain ⟨hle, hleaves⟩ := h.found hk
        refine ⟨?_, .seq (.one hc) hleaves⟩
        rw [List.length_cons]
        omega
      · cases hn
  · intro text rest hleaves
    obtain ⟨middle, hone, hp⟩ := leaves_seq.1 hleaves
    obtain ⟨c, rfl, hc⟩ := leaves_one.1 hone
    obtain ⟨n, hn, hlength⟩ := h.longest hp
    refine ⟨n + 1, ?_, ?_⟩
    · dsimp only
      rw [if_pos hc, hn]
      rfl
    · rw [List.length_cons]
      omega

/-- Two functions that agree measure the same pattern. -/
theorem Measures.congr {p : Pattern} {size? size?' : List CodePoint → Option Nat}
    (h : Measures p size?) (heq : ∀ text, size?' text = size? text) : Measures p size?' := by
  have : size?' = size? := funext heq
  rw [this]
  exact h

theorem measures_marked (mark : CodePoint) :
    Measures (markedPattern mark) (markedLength? mark) := by
  refine Measures.congr (((measures_run isNameChar).cons isNameStart).cons (· == mark)) ?_
  intro text
  match text with
  | [] => rfl
  | [c] =>
    show none = if (c == mark) = true then _ else none
    split <;> rfl
  | c :: d :: rest =>
    unfold markedLength?
    by_cases hc : (c == mark) = true
    · by_cases hd : isNameStart d = true
      · simp [hc, hd]
        omega
      · simp [hd]
    · simp [hc]

theorem measures_comment : Measures commentPattern fun
    | .char '#' :: rest => some (1 + runLength (fun c => !(c == '\r' || c == '\n')) rest)
    | _ => none := by
  refine Measures.congr ((measures_run fun c => !(c == '\r' || c == '\n')).cons (· == '#')) ?_
  intro text
  split
  · simp
    omega
  · next h =>
    cases text with
    | nil => rfl
    | cons c rest =>
      have hc : (c == '#') = false := by
        rw [beq_eq_false_iff_ne]
        rintro rfl
        exact h rest rfl
      simp [hc]

/-! ## Numbers -/

/-- A second pattern that matches only behind the longest match of the first one. -/
structure Committed (p : Pattern) (size? : List CodePoint → Option Nat) (q : Pattern) : Prop where
  only : ∀ {text n middle rest}, size? text = some n → p.Leaves text middle →
    q.Leaves middle rest → middle = text.drop n

theorem Measures.seq {p q : Pattern} {size? size?' : List CodePoint → Option Nat}
    (hp : Measures p size?) (hq : Measures q size?') (h : Committed p size? q) :
    Measures (.seq p q) fun text =>
      (size? text).bind fun n => (size?' (text.drop n)).map fun m => n + m := by
  constructor
  · intro text k hk
    obtain ⟨n, hn, hk⟩ := Option.bind_eq_some_iff.1 hk
    obtain ⟨m, hm, rfl⟩ := Option.map_eq_some_iff.1 hk
    obtain ⟨hle, hleaves⟩ := hp.found hn
    obtain ⟨hle', hleaves'⟩ := hq.found hm
    rw [List.length_drop] at hle'
    rw [List.drop_drop] at hleaves'
    exact ⟨by omega, .seq hleaves hleaves'⟩
  · intro text rest hleaves
    obtain ⟨middle, hp', hq'⟩ := leaves_seq.1 hleaves
    obtain ⟨n, hn, -⟩ := hp.longest hp'
    obtain rfl := h.only hn hp' hq'
    obtain ⟨m, hm, hlength⟩ := hq.longest hq'
    obtain ⟨hle, -⟩ := hp.found hn
    refine ⟨n + m, ?_, ?_⟩
    · rw [hn, Option.bind_some, hm]
      rfl
    · rw [List.length_drop] at hlength
      omega

theorem Measures.seq_perhaps {p q : Pattern} {size? size?' : List CodePoint → Option Nat}
    (hp : Measures p size?) (hq : Measures q size?') (h : Committed p size? q) :
    Measures (.seq p (.perhaps q)) fun text =>
      (size? text).map fun n => n + (size?' (text.drop n)).getD 0 := by
  constructor
  · intro text k hk
    obtain ⟨n, hn, rfl⟩ := Option.map_eq_some_iff.1 hk
    obtain ⟨hle, hleaves⟩ := hp.found hn
    cases hm : size?' (text.drop n) with
    | none =>
      refine ⟨by simpa using hle, .seq hleaves ?_⟩
      exact .skip
    | some m =>
      obtain ⟨hle', hleaves'⟩ := hq.found hm
      rw [List.length_drop] at hle'
      rw [List.drop_drop] at hleaves'
      exact ⟨by simp only [Option.getD_some]; omega, .seq hleaves (.take hleaves')⟩
  · intro text rest hleaves
    obtain ⟨middle, hp', hq'⟩ := leaves_seq.1 hleaves
    obtain ⟨n, hn, hlength⟩ := hp.longest hp'
    refine ⟨n + (size?' (text.drop n)).getD 0, ?_, ?_⟩
    · rw [hn]
      rfl
    · obtain rfl | hq' := leaves_perhaps.1 hq'
      · omega
      · -- what comes next matches only behind the longest match
        obtain rfl := h.only hn hp' hq'
        obtain ⟨m, hm, hlength'⟩ := hq.longest hq'
        obtain ⟨hle, -⟩ := hp.found hn
        rw [hm, Option.getD_some]
        rw [List.length_drop] at hlength'
        omega

/-- A sign or not before a pattern that has no sign at its start. -/
theorem Measures.sign {p : Pattern} {size? : List CodePoint → Option Nat} (h : Measures p size?)
    {P : CodePoint → Bool}
    (hsign : ∀ {c rest rest'}, P c = true → ¬p.Leaves (c :: rest) rest') :
    Measures (.seq (.perhaps (.one P)) p) fun
      | c :: rest => if P c then (size? rest).map (· + 1) else size? (c :: rest)
      | [] => size? [] := by
  constructor
  · intro text n hn
    cases text with
    | nil =>
      obtain ⟨hle, hleaves⟩ := h.found hn
      exact ⟨hle, .seq .skip hleaves⟩
    | cons c rest =>
      dsimp only at hn
      split at hn
      · next hc =>
        obtain ⟨k, hk, rfl⟩ := Option.map_eq_some_iff.1 hn
        obtain ⟨hle, hleaves⟩ := h.found hk
        refine ⟨?_, .seq (.take (.one hc)) hleaves⟩
        rw [List.length_cons]
        omega
      · obtain ⟨hle, hleaves⟩ := h.found hn
        exact ⟨hle, .seq .skip hleaves⟩
  · intro text rest hleaves
    obtain ⟨middle, hperhaps, hp⟩ := leaves_seq.1 hleaves
    obtain rfl | hone := leaves_perhaps.1 hperhaps
    · -- without a sign: the pattern does not start with one, so none is at the start
      obtain ⟨n, hn, hlength⟩ := h.longest hp
      refine ⟨n, ?_, hlength⟩
      cases text with
      | nil => exact hn
      | cons c tail =>
        have hc : ¬P c = true := fun hc => hsign hc hp
        dsimp only
        rw [if_neg hc]
        exact hn
    · obtain ⟨c, rfl, hc⟩ := leaves_one.1 hone
      obtain ⟨n, hn, hlength⟩ := h.longest hp
      refine ⟨n + 1, ?_, ?_⟩
      · dsimp only
        rw [if_pos hc, hn]
        rfl
      · rw [List.length_cons]
        omega

theorem Committed.sign {p q : Pattern} {size? : List CodePoint → Option Nat} {P : CodePoint → Bool}
    (h : Committed p size? q) (hsign : ∀ {c rest rest'}, P c = true → ¬p.Leaves (c :: rest) rest') :
    Committed (.seq (.perhaps (.one P)) p) (fun
      | c :: rest => if P c then (size? rest).map (· + 1) else size? (c :: rest)
      | [] => size? []) q := by
  refine ⟨fun {text n middle rest} hn hleaves hq => ?_⟩
  obtain ⟨start, hperhaps, hp⟩ := leaves_seq.1 hleaves
  obtain rfl | hone := leaves_perhaps.1 hperhaps
  · cases text with
    | nil => exact h.only hn hp hq
    | cons c tail =>
      have hc : ¬P c = true := fun hc => hsign hc hp
      dsimp only at hn
      rw [if_neg hc] at hn
      exact h.only hn hp hq
  · obtain ⟨c, rfl, hc⟩ := leaves_one.1 hone
    dsimp only at hn
    rw [if_pos hc] at hn
    obtain ⟨k, hk, rfl⟩ := Option.map_eq_some_iff.1 hn
    exact (h.only hk hp hq).trans rfl

/-- The length of a run that must not be empty. -/
def someLength? (isMember : CodePoint → Bool) (text : List CodePoint) : Option Nat :=
  if runLength isMember text == 0 then none else some (runLength isMember text)

theorem measures_some1 (isMember : CodePoint → Bool) :
    Measures (.some1 isMember) (someLength? isMember) := by
  constructor
  · intro text n hn
    unfold someLength? at hn
    split at hn
    · cases hn
    · next hne =>
      cases hn
      obtain ⟨run, rest, htext, hlength, hrun, -⟩ := exists_run isMember text
      rw [hlength] at hne ⊢
      rw [htext, List.drop_left]
      refine ⟨by simp, leaves_some1.2 ⟨run, rfl, ?_, hrun⟩⟩
      rintro rfl
      exact hne rfl
  · intro text rest h
    obtain ⟨run, rfl, hne, hrun⟩ := leaves_some1.1 h
    have hle : run.length ≤ runLength isMember (run ++ rest) := length_le_runLength hrun
    have hpos : 0 < run.length := List.length_pos_iff.2 hne
    refine ⟨runLength isMember (run ++ rest), ?_, ?_⟩
    · rw [someLength?, if_neg]
      rw [beq_iff_eq]
      omega
    · rw [List.length_append]
      omega

/-- Behind a run that is not all of the members comes a member. -/
theorem committed_some1 {isMember : CodePoint → Bool} {q : Pattern}
    (hq : ∀ {c rest rest'}, isMember c = true → ¬q.Leaves (c :: rest) rest') :
    Committed (.some1 isMember) (someLength? isMember) q := by
  refine ⟨fun {text n middle rest} hn hleaves hleaves' => ?_⟩
  obtain ⟨run, rfl, -, hrun⟩ := leaves_some1.1 hleaves
  have hmiddle : ∀ c ∈ middle.head?, isMember c = false := by
    intro c hc
    obtain ⟨tail, rfl⟩ := List.head?_eq_some_iff.1 hc
    cases h : isMember c with
    | false => rfl
    | true => exact absurd hleaves' (hq h)
  unfold someLength? at hn
  split at hn
  · cases hn
  · cases hn
    rw [runLength_eq hrun hmiddle, List.drop_left]

theorem minus_not_digit : Text.isDigit '-' = false := by
  decide

/-- No row of members starts with another character. -/
theorem not_leaves_some1 {isMember : CodePoint → Bool} {c : CodePoint} (hc : isMember c = false)
    {rest rest' : List CodePoint} : ¬Leaves (.some1 isMember) (c :: rest) rest' := by
  intro h
  obtain ⟨run, htext, hne, hrun⟩ := leaves_some1.1 h
  obtain ⟨d, run, rfl⟩ := List.exists_cons_of_ne_nil hne
  have hd := hrun d List.mem_cons_self
  rw [← (List.cons.inj htext).1, hc] at hd
  cases hd

/-- An integer is measured as its digits are, one more with a minus. -/
theorem integerLength?_eq (text : List CodePoint) :
    integerLength? text = match text with
      | c :: rest =>
        if c == '-' then (someLength? Text.isDigit rest).map (· + 1)
        else someLength? Text.isDigit (c :: rest)
      | [] => someLength? Text.isDigit [] := by
  cases text with
  | nil => rfl
  | cons c rest =>
    by_cases hc : c = '-'
    · subst hc
      show (if runLength Text.isDigit rest == 0 then none
        else some (1 + runLength Text.isDigit rest)) = (someLength? Text.isDigit rest).map (· + 1)
      unfold someLength?
      split
      · rfl
      · rw [Option.map_some, Nat.add_comm]
    · have hminus : Text.minusLength (c :: rest) = 0 := by
        unfold Text.minusLength
        split
        · next h => exact absurd (List.cons.inj h).1 hc
        · rfl
      have hbeq : (c == '-') = false := beq_eq_false_iff_ne.2 hc
      dsimp only
      rw [hbeq, if_neg (by decide), integerLength?, hminus, List.drop_zero, Nat.zero_add]
      rfl

theorem measures_integer : Measures integerPattern integerLength? := by
  refine Measures.congr ((measures_some1 Text.isDigit).sign (P := (· == '-')) ?_)
    integerLength?_eq
  intro c rest rest' hc
  rw [eq_of_beq hc]
  exact not_leaves_some1 minus_not_digit

theorem committed_integer {q : Pattern}
    (hq : ∀ {c rest rest'}, Text.isDigit c = true → ¬q.Leaves (c :: rest) rest') :
    Committed integerPattern integerLength? q := by
  have h := (committed_some1 hq).sign (P := (· == '-')) fun {c rest rest'} hc => by
    rw [eq_of_beq hc]
    exact not_leaves_some1 minus_not_digit
  refine ⟨fun {text n middle rest} hn => ?_⟩
  rw [integerLength?_eq] at hn
  exact h.only hn

/-- The length of an exponent that has to be there. -/
def exponentLength? (text : List CodePoint) : Option Nat :=
  if exponentLength text == 0 then none else some (exponentLength text)

/-- The digits of an exponent, behind a letter and perhaps a sign, make it or leave it out. -/
theorem exponentLength?_of_digits {text digits : List CodePoint} {before : Nat}
    (h : exponentLength text = if runLength Text.isDigit digits == 0 then 0
      else before + 1 + runLength Text.isDigit digits) :
    exponentLength? text = (someLength? Text.isDigit digits).map (· + (before + 1)) := by
  unfold exponentLength? someLength?
  by_cases hnone : (runLength Text.isDigit digits == 0) = true
  · rw [if_pos hnone] at h
    rw [h, if_pos hnone]
    rfl
  · rw [if_neg hnone] at h
    have hpos : ¬(exponentLength text == 0) = true := by
      rw [beq_iff_eq]
      omega
    rw [if_neg hpos, if_neg hnone, h, Option.map_some, Nat.add_comm]

theorem exponentLength?_eq (text : List CodePoint) :
    exponentLength? text = match text with
      | c :: rest =>
        if c == 'e' || c == 'E' then
          (match rest with
            | d :: digits =>
              if d == '+' || d == '-' then (someLength? Text.isDigit digits).map (· + 1)
              else someLength? Text.isDigit (d :: digits)
            | [] => someLength? Text.isDigit []).map (· + 1)
        else none
      | [] => none := by
  cases text with
  | nil => rfl
  | cons c rest =>
    by_cases hc : (c == 'e' || c == 'E') = true
    · dsimp only
      rw [if_pos hc]
      cases rest with
      | nil => simp [exponentLength?, exponentLength, hc, runLength, someLength?]
      | cons d digits =>
        dsimp only
        by_cases hd : d = '+' ∨ d = '-'
        · have h : exponentLength (c :: d :: digits) =
              if runLength Text.isDigit digits == 0 then 0
              else 1 + 1 + runLength Text.isDigit digits := by
            obtain rfl | rfl := hd <;> simp [exponentLength, hc]
          rw [exponentLength?_of_digits h, if_pos (by simpa using hd), Option.map_map]
          rfl
        · have hplus : d ≠ '+' := fun h => hd (.inl h)
          have hminus : d ≠ '-' := fun h => hd (.inr h)
          have h : exponentLength (c :: d :: digits) =
              if runLength Text.isDigit (d :: digits) == 0 then 0
              else 0 + 1 + runLength Text.isDigit (d :: digits) := by
            unfold exponentLength
            dsimp only
            rw [if_pos hc]
            split
            · next h => exact absurd (List.cons.inj h).1 hplus
            · next h => exact absurd (List.cons.inj h).1 hminus
            · simp
          rw [exponentLength?_of_digits h, if_neg (by simpa using hd)]
    · simp [exponentLength?, exponentLength, hc]

theorem measures_exponent : Measures exponentPattern exponentLength? := by
  refine Measures.congr (((measures_some1 Text.isDigit).sign
    (P := fun c => c == '+' || c == '-') ?_).cons fun c => c == 'e' || c == 'E')
    exponentLength?_eq
  intro c rest rest' hc
  obtain rfl | rfl : c = '+' ∨ c = '-' := by simpa using hc
  · exact not_leaves_some1 (by decide)
  · exact not_leaves_some1 (by decide)

theorem getD_exponentLength? (text : List CodePoint) :
    (exponentLength? text).getD 0 = exponentLength text := by
  unfold exponentLength?
  split
  · next h => exact (eq_of_beq h).symm
  · rfl

/-- No digit is the first character of an exponent. -/
theorem not_leaves_exponent {c : CodePoint} {rest rest' : List CodePoint}
    (hc : Text.isDigit c = true) :
    ¬exponentPattern.Leaves (c :: rest) rest' := by
  intro h
  obtain ⟨middle, hone, -⟩ := leaves_seq.1 h
  obtain ⟨d, htext, hd⟩ := leaves_one.1 hone
  rw [← (List.cons.inj htext).1] at hd
  obtain rfl | rfl : c = 'e' ∨ c = 'E' := by simpa using hd
  · exact absurd hc (by decide)
  · exact absurd hc (by decide)

/-- No digit is a point. -/
theorem not_leaves_point {p : Pattern} {c : CodePoint} {rest rest' : List CodePoint}
    (hc : Text.isDigit c = true) : ¬(Pattern.seq (.char '.') p).Leaves (c :: rest) rest' := by
  intro h
  obtain ⟨middle, hpoint, -⟩ := leaves_seq.1 h
  rw [(List.cons.inj (leaves_char.1 hpoint)).1] at hc
  exact absurd hc (by decide)

theorem measures_real : Measures realPattern realLength? := by
  -- a fraction and then an exponent, which cannot start among the digits of the fraction
  have hfraction := (measures_some1 Text.isDigit).seq_perhaps measures_exponent
    (committed_some1 not_leaves_exponent)
  refine Measures.congr (measures_integer.seq (hfraction.cons (· == '.'))
    (committed_integer not_leaves_point)) ?_
  intro text
  unfold realLength?
  cases hwhole : integerLength? text with
  | none => rfl
  | some whole =>
    simp only [bind, Option.bind]
    split
    · next rest h =>
      rw [h]
      dsimp only
      rw [if_pos (beq_self_eq_true (CodePoint.char '.')), someLength?]
      split
      · rfl
      · rw [Option.map_some, Option.map_some, Option.map_some, getD_exponentLength?]
        congr 1
        omega
    · next h =>
      cases hrest : text.drop whole with
      | nil => rfl
      | cons c rest =>
        have hc : ¬(c == '.') = true := by
          rw [beq_iff_eq]
          rintro rfl
          exact h rest hrest
        dsimp only
        rw [if_neg hc, Option.map_none]

/-! ## Strings -/

theorem leaves_stringUnit {text rest : List CodePoint} :
    stringUnit.Leaves text rest ↔
      (∃ c, text = .char '\\' :: c :: rest ∧ c ≠ '\n') ∨
      ∃ c, text = c :: rest ∧ c ≠ '"' ∧ c ≠ '\\' ∧ c ≠ '\r' ∧ c ≠ '\n' := by
  rw [stringUnit, leaves_either, leaves_one, leaves_seq]
  constructor
  · rintro (⟨c, rfl, hc⟩ | ⟨middle, hslash, hone⟩)
    · refine .inr ⟨c, rfl, ?_⟩
      simpa [and_assoc] using hc
    · obtain ⟨c, rfl, hc⟩ := leaves_one.1 hone
      exact .inl ⟨c, leaves_char.1 hslash, by simpa using hc⟩
  · rintro (⟨c, rfl, hc⟩ | ⟨c, rfl, hc⟩)
    · exact .inr ⟨c :: rest, leaves_char.2 rfl, .one (by simpa using hc)⟩
    · exact .inl ⟨c, rfl, by simpa [and_assoc] using hc⟩

/-- The remainder of a string goes up to the first quote that no backslash takes along. -/
theorem leaves_close {text rest : List CodePoint} :
    Leaves (.seq (.many stringUnit) (.char '"')) text rest ↔
      text = .char '"' :: rest ∨
      (∃ c middle, text = .char '\\' :: c :: middle ∧ c ≠ '\n' ∧
        Leaves (.seq (.many stringUnit) (.char '"')) middle rest) ∨
      ∃ c middle, text = c :: middle ∧ (c ≠ '"' ∧ c ≠ '\\' ∧ c ≠ '\r' ∧ c ≠ '\n') ∧
        Leaves (.seq (.many stringUnit) (.char '"')) middle rest := by
  constructor
  · intro h
    obtain ⟨middle, hmany, hquote⟩ := leaves_seq.1 h
    cases hmany with
    | stop => exact .inl (leaves_char.1 hquote)
    | more hunit hmore =>
      right
      obtain ⟨c, rfl, hc⟩ | ⟨c, rfl, hc⟩ := leaves_stringUnit.1 hunit
      · exact .inl ⟨c, _, rfl, hc, .seq hmore hquote⟩
      · exact .inr ⟨c, _, rfl, hc, .seq hmore hquote⟩
  · have hmore : ∀ {middle}, stringUnit.Leaves text middle →
        Leaves (.seq (.many stringUnit) (.char '"')) middle rest →
          Leaves (.seq (.many stringUnit) (.char '"')) text rest := by
      intro middle hunit hclose
      obtain ⟨quoted, hmany, hquote⟩ := leaves_seq.1 hclose
      exact .seq (.more hunit hmany) hquote
    rintro (rfl | ⟨c, middle, rfl, hc, hclose⟩ | ⟨c, middle, rfl, hc, hclose⟩)
    · exact .seq .stop (leaves_char.2 rfl)
    · exact hmore (leaves_stringUnit.2 (.inl ⟨c, rfl, hc⟩)) hclose
    · exact hmore (leaves_stringUnit.2 (.inr ⟨c, rfl, hc⟩)) hclose

theorem closeLength?_escape {c : CodePoint} (hc : c ≠ '\n') (rest : List CodePoint) :
    closeLength? (.char '\\' :: c :: rest) = (closeLength? rest).map (· + 2) := by
  rw [closeLength?, if_neg (by simpa using hc)]

theorem closeLength?_plain {c : CodePoint}
    (hc : c ≠ '"' ∧ c ≠ '\\' ∧ c ≠ '\r' ∧ c ≠ '\n') (rest : List CodePoint) :
    closeLength? (c :: rest) = (closeLength? rest).map (· + 1) := by
  obtain ⟨hquote, hslash, hend⟩ := hc
  rw [closeLength?.eq_4]
  · rw [if_neg (by simp [hslash, hend])]
  · exact hquote
  · intro d tail h
    exact absurd h hslash

theorem measures_close : Measures (.seq (.many stringUnit) (.char '"')) closeLength? := by
  constructor
  · intro text n hn
    fun_induction closeLength? text generalizing n with
    | case1 => cases hn
    | case2 rest =>
      cases hn
      exact ⟨by simp, leaves_close.2 (.inl rfl)⟩
    | case3 => cases hn
    | case4 c rest hc ih =>
      obtain ⟨k, hk, rfl⟩ := Option.map_eq_some_iff.1 hn
      obtain ⟨hle, hleaves⟩ := ih hk
      refine ⟨by simp only [List.length_cons]; omega, ?_⟩
      exact leaves_close.2 (.inr (.inl ⟨c, rest, rfl, by simpa using hc, hleaves⟩))
    | case5 => cases hn
    | case6 c rest hquote hslash hc ih =>
      obtain ⟨k, hk, rfl⟩ := Option.map_eq_some_iff.1 hn
      obtain ⟨hle, hleaves⟩ := ih hk
      refine ⟨by simp only [List.length_cons]; omega, ?_⟩
      have hplain : c ≠ '"' ∧ c ≠ '\\' ∧ c ≠ '\r' ∧ c ≠ '\n' :=
        ⟨hquote, by simpa [and_assoc] using hc⟩
      exact leaves_close.2 (.inr (.inr ⟨c, rest, rfl, hplain, hleaves⟩))
  · intro text rest h
    -- a backslash takes a character along, so the induction is on the length of the text
    induction hlength : text.length using Nat.strongRecOn generalizing text with
    | ind length ih =>
      subst hlength
      rcases leaves_close.1 h with rfl | ⟨c, middle, rfl, hc, hclose⟩ | ⟨c, middle, rfl, hc, hclose⟩
      · exact ⟨1, rfl, by simp [Nat.add_comm]⟩
      · obtain ⟨n, hn, hle⟩ := ih _ (by simp only [List.length_cons]; omega) hclose rfl
        refine ⟨n + 2, by rw [closeLength?_escape hc, hn]; rfl, ?_⟩
        simp only [List.length_cons]
        omega
      · obtain ⟨n, hn, hle⟩ := ih _ (by simp only [List.length_cons]; omega) hclose rfl
        refine ⟨n + 1, by rw [closeLength?_plain hc, hn]; rfl, ?_⟩
        simp only [List.length_cons]
        omega

theorem measures_string : Measures stringPattern stringLength? := by
  refine Measures.congr (measures_close.cons (· == '"')) ?_
  intro text
  unfold stringLength?
  split
  · rfl
  · next h =>
    cases text with
    | nil => rfl
    | cons c rest =>
      have hc : ¬(c == '"') = true := by
        rw [beq_iff_eq]
        rintro rfl
        exact h rest rfl
      dsimp only
      rw [if_neg hc]

end StackShell.Token
