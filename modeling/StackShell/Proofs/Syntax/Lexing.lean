import StackShell.Proofs.Syntax.Patterns

/-!
# Splitting a text into lexemes

The scanner against its rules: at each place the terminals are tried by priority, the longest match
of the first one that matches is the lexeme, and a word that is a keyword as a whole is that
keyword.

The main facts are that the scanner finds the one lexeme that these rules choose
(`lexeme?_eq_some_iff`), and that a scan goes through exactly if the text splits into lexemes by the
rules all the way (`scanFrom_eq_iff`).
-/

namespace StackShell.Token

open Pattern

/-- The terminals. A keyword is a word that is one as a whole. -/
inductive Terminal where
  | real
  | string
  | integer
  | store
  | namedCall
  | atSign
  | word
  | blank
  | comment
deriving DecidableEq

namespace Terminal

/-- What a terminal looks like. -/
def pattern : Terminal → Pattern
  | .real => realPattern
  | .string => stringPattern
  | .integer => integerPattern
  | .store => markedPattern '='
  | .namedCall => markedPattern '@'
  | .atSign => .char '@'
  | .word => .some1 isWordChar
  | .blank => .some1 isSeparator
  | .comment => commentPattern

/-- Which terminals are tried before which others. -/
def priority : Terminal → Nat
  | .real => 4
  | .string | .integer | .store | .namedCall => 3
  | .atSign | .word | .blank | .comment => 0

/-- A terminal matches where its pattern does; a word only where no number starts. -/
def Matches (t : Terminal) (text rest : List CodePoint) : Prop :=
  t.pattern.Leaves text rest ∧ (t = .word → ∀ rest', ¬numberStart.Leaves text rest')

/-- The kind of lexeme that a match is. -/
def kind : Terminal → List CodePoint → LexemeKind
  | .real, _ => .real
  | .string, _ => .string
  | .integer, _ => .integer
  | .store, _ => .store
  | .namedCall, _ => .namedCall
  | .atSign, _ => .atSign
  | .word, chars =>
    match Keyword.ofWord? (Text.ofList chars) with
    | some k => .keyword k
    | none => .word
  | .blank, _ => .blank
  | .comment, _ => .comment

end Terminal

/-- A terminal is chosen at the start of a text: none of higher priority matches there, and what it
leaves is left by its longest match. -/
structure Chosen (text : List CodePoint) (t : Terminal) (rest : List CodePoint) : Prop where
  fits : t.Matches text rest
  longest : ∀ {rest'}, t.Matches text rest' → rest.length ≤ rest'.length
  first : ∀ {t' : Terminal} {rest'}, t'.Matches text rest' → t'.priority ≤ t.priority

/-- A text splits into lexemes, the first of which stands at a place. -/
inductive Splits : Location → List CodePoint → List Lexeme → Prop where
  | done {place} : Splits place [] []
  | next {place text rest chars lexemes} {t : Terminal} (htext : text = chars ++ rest)
      (hchosen : Chosen text t rest) (hrest : Splits (placeAfter place chars) rest lexemes) :
    Splits place text (⟨t.kind chars, chars, place⟩ :: lexemes)

/-! ## Measuring terminals -/

/-- The characters of a match are one before any other rest. -/
theorem Pattern.Leaves.exists_chars {p : Pattern} {text rest : List CodePoint}
    (h : p.Leaves text rest) :
    ∃ chars, text = chars ++ rest ∧ ∀ other, p.Leaves (chars ++ other) other := by
  induction h with
  | @one _ c _ hc => exact ⟨[c], rfl, fun _ => .one hc⟩
  | seq _ _ ihp ihq =>
    obtain ⟨first, rfl, hfirst⟩ := ihp
    obtain ⟨second, rfl, hsecond⟩ := ihq
    refine ⟨first ++ second, (List.append_assoc ..).symm, fun other => ?_⟩
    rw [List.append_assoc]
    exact .seq (hfirst _) (hsecond other)
  | left _ ih =>
    obtain ⟨chars, rfl, h⟩ := ih
    exact ⟨chars, rfl, fun other => .left (h other)⟩
  | right _ ih =>
    obtain ⟨chars, rfl, h⟩ := ih
    exact ⟨chars, rfl, fun other => .right (h other)⟩
  | skip => exact ⟨[], rfl, fun _ => .skip⟩
  | take _ ih =>
    obtain ⟨chars, rfl, h⟩ := ih
    exact ⟨chars, rfl, fun other => .take (h other)⟩
  | stop => exact ⟨[], rfl, fun _ => .stop⟩
  | more _ _ ih ihrest =>
    obtain ⟨first, rfl, hfirst⟩ := ih
    obtain ⟨second, rfl, hsecond⟩ := ihrest
    refine ⟨first ++ second, (List.append_assoc ..).symm, fun other => ?_⟩
    rw [List.append_assoc]
    exact .more (hfirst _) (hsecond other)

/-- Whether every match of a pattern takes at least one character. -/
def Pattern.consumes : Pattern → Bool
  | .one _ => true
  | .seq p q => p.consumes || q.consumes
  | .either p q => p.consumes && q.consumes
  | .perhaps _ | .many _ => false

theorem Pattern.Leaves.length_le {p : Pattern} {text rest : List CodePoint}
    (h : p.Leaves text rest) :
    rest.length ≤ text.length := by
  obtain ⟨chars, rfl, -⟩ := h.exists_chars
  rw [List.length_append]
  omega

theorem Pattern.Leaves.length_lt {p : Pattern} {text rest : List CodePoint} (h : p.Leaves text rest)
    (hp : p.consumes = true) : rest.length < text.length := by
  induction h with
  | one => exact Nat.lt_succ_self _
  | seq hfirst hsecond ihp ihq =>
    have hle := hfirst.length_le
    have hle' := hsecond.length_le
    obtain hp | hp := Bool.or_eq_true_iff.1 hp
    · have hlt := ihp hp
      omega
    · have hlt := ihq hp
      omega
  | left _ ih => exact ih (Bool.and_eq_true_iff.1 hp).1
  | right _ ih => exact ih (Bool.and_eq_true_iff.1 hp).2
  | skip | take | stop | more => cases hp

/-- A number starts exactly where an integer matches. -/
theorem exists_leaves_numberStart {text : List CodePoint} :
    (∃ rest, numberStart.Leaves text rest) ↔ (integerLength? text).isSome = true := by
  constructor
  · rintro ⟨rest, h⟩
    obtain ⟨middle, hsign, hone⟩ := leaves_seq.1 h
    obtain ⟨n, hn, -⟩ := measures_integer.longest (.seq hsign (.seq hone .stop))
    rw [hn]
    rfl
  · intro h
    obtain ⟨n, hn⟩ := Option.isSome_iff_exists.1 h
    obtain ⟨-, hleaves⟩ := measures_integer.found hn
    obtain ⟨middle, hsign, hdigits⟩ := leaves_seq.1 hleaves
    obtain ⟨rest, hone, -⟩ := leaves_seq.1 hdigits
    exact ⟨rest, .seq hsign hone⟩

namespace Terminal

/-- The length of the longest word, which no number starts. -/
def wordLength? (text : List CodePoint) : Option Nat :=
  if (integerLength? text).isSome then none else someLength? isWordChar text

/-- The length of the longest match of a terminal. -/
def length? (text : List CodePoint) : Terminal → Option Nat
  | .real => realLength? text
  | .string => stringLength? text
  | .integer => integerLength? text
  | .store => markedLength? '=' text
  | .namedCall => markedLength? '@' text
  | .atSign => if text.head? = some (.char '@') then some 1 else none
  | .word => wordLength? text
  | .blank => someLength? isSeparator text
  | .comment =>
    match text with
    | .char '#' :: rest => some (1 + runLength (fun c => !(c == '\r' || c == '\n')) rest)
    | _ => none

theorem measures_atSign : Measures (.char '@') fun text =>
    if text.head? = some (.char '@') then some 1 else none := by
  constructor
  · intro text n hn
    split at hn
    · next h =>
      cases hn
      obtain ⟨rest, rfl⟩ := List.head?_eq_some_iff.1 h
      exact ⟨by simp, leaves_char.2 rfl⟩
    · cases hn
  · intro text rest h
    obtain rfl := leaves_char.1 h
    exact ⟨1, rfl, by simp [Nat.add_comm]⟩

/-- Every terminal but the word is measured by its own pattern. -/
theorem measures_length? {t : Terminal} (h : t ≠ .word) : Measures t.pattern (t.length? ·) := by
  cases t with
  | real => exact measures_real
  | string => exact measures_string
  | integer => exact measures_integer
  | store => exact measures_marked '='
  | namedCall => exact measures_marked '@'
  | atSign => exact measures_atSign
  | word => exact absurd rfl h
  | blank => exact measures_some1 isSeparator
  | comment => exact measures_comment

/-- The length that is found is that of a match. -/
theorem matches_of_length? {t : Terminal} {text : List CodePoint} {n : Nat}
    (h : t.length? text = some n) :
    n ≤ text.length ∧ t.Matches text (text.drop n) := by
  by_cases hword : t = .word
  · subst hword
    replace h : wordLength? text = some n := h
    unfold wordLength? at h
    split at h
    · cases h
    · next hnumber =>
      obtain ⟨hle, hleaves⟩ := (measures_some1 isWordChar).found h
      refine ⟨hle, hleaves, ?_⟩
      intro _ rest hstart
      exact hnumber (exists_leaves_numberStart.1 ⟨rest, hstart⟩)
  · obtain ⟨hle, hleaves⟩ := (measures_length? hword).found h
    exact ⟨hle, hleaves, fun h => absurd h hword⟩

/-- No match is longer than the length that is found. -/
theorem Matches.exists_length? {t : Terminal} {text rest : List CodePoint}
    (h : t.Matches text rest) :
    ∃ n, t.length? text = some n ∧ text.length ≤ n + rest.length := by
  obtain ⟨hleaves, hnumber⟩ := h
  by_cases hword : t = .word
  · subst hword
    obtain ⟨n, hn, hlength⟩ := (measures_some1 isWordChar).longest hleaves
    have hnone : ¬(integerLength? text).isSome = true := by
      intro hsome
      obtain ⟨rest', hstart⟩ := exists_leaves_numberStart.2 hsome
      exact hnumber rfl rest' hstart
    refine ⟨n, ?_, hlength⟩
    show wordLength? text = some n
    rw [wordLength?, if_neg hnone, hn]
  · exact (measures_length? hword).longest hleaves

/-- The terminals in an order in which none is tried before one of higher priority. -/
def all : List Terminal :=
  [.real, .string, .integer, .store, .namedCall, .atSign, .comment, .blank, .word]

theorem mem_all (t : Terminal) : t ∈ all := by
  cases t <;> decide

theorem pairwise_all : all.Pairwise fun t t' => t'.priority ≤ t.priority := by
  decide

/-! ## Choosing -/

/-- The characters that a terminal may start with. -/
def startsWith (c : CodePoint) : Terminal → Bool
  | .real | .integer => c == '-' || Text.isDigit c
  | .string => c == '"'
  | .store => c == '='
  | .namedCall | .atSign => c == '@'
  | .word => isWordChar c
  | .blank => isSeparator c
  | .comment => c == '#'

end Terminal

theorem starts_integer {q : Pattern} {text rest : List CodePoint}
    (h : Leaves (.seq integerPattern q) text rest) :
    ∃ c tail, text = c :: tail ∧ (c == '-' || Text.isDigit c) = true := by
  obtain ⟨middle, hinteger, -⟩ := leaves_seq.1 h
  obtain ⟨start, hsign, hdigits⟩ := leaves_seq.1 hinteger
  obtain rfl | hminus := leaves_perhaps.1 hsign
  · obtain ⟨tail, hone, -⟩ := leaves_seq.1 hdigits
    obtain ⟨c, rfl, hc⟩ := leaves_one.1 hone
    exact ⟨c, tail, rfl, by simp [hc]⟩
  · exact ⟨'-', start, leaves_char.1 hminus, by decide⟩

namespace Terminal

/-- A match is not empty, and its first character is one that the terminal may start with. -/
theorem Matches.exists_cons {t : Terminal} {text rest : List CodePoint} (h : t.Matches text rest) :
    ∃ c tail, text = c :: tail ∧ t.startsWith c = true := by
  obtain ⟨h, -⟩ := h
  have hone : ∀ {isMember q}, Leaves (.seq (.one isMember) q) text rest →
      ∃ c tail, text = c :: tail ∧ isMember c = true := by
    intro isMember q h
    obtain ⟨tail, hone, -⟩ := leaves_seq.1 h
    obtain ⟨c, rfl, hc⟩ := leaves_one.1 hone
    exact ⟨c, tail, rfl, hc⟩
  cases t with
  | real => exact starts_integer h
  | integer => exact starts_integer (.seq h (.skip (p := .char '-')))
  | atSign => exact ⟨'@', rest, leaves_char.1 h, rfl⟩
  | string | store | namedCall | word | blank | comment => exact hone h

/-- No blank that may stand between tokens is part of a word. -/
theorem not_isWordChar_of_isSeparator {c : CodePoint} (h : isSeparator c = true) :
    isWordChar c = false := by
  simp only [isSeparator, Bool.or_eq_true, beq_iff_eq] at h
  obtain (((rfl | rfl) | rfl) | rfl) | rfl := h <;> decide +kernel

/-- Terminals of one priority start with different characters. -/
theorem eq_of_startsWith {t t' : Terminal} {c : CodePoint} (hc : t.startsWith c = true)
    (hc' : t'.startsWith c = true) (hpriority : t.priority = t'.priority) : t = t' := by
  have hblank : isSeparator c = true → ¬isWordChar c = true := by
    intro hseparator
    rw [not_isWordChar_of_isSeparator hseparator]
    decide
  -- Only integers, words and blanks start with more than one character.
  cases t <;> cases t' <;> first
    | rfl
    | exact absurd hpriority (by decide)
    | obtain rfl := eq_of_beq hc
      exact absurd hc' (by decide +kernel)
    | obtain rfl := eq_of_beq hc'
      exact absurd hc (by decide +kernel)
    | exact absurd hc (hblank hc')
    | exact absurd hc' (hblank hc)

/-- Terminals of one priority never match at the same place. -/
theorem Matches.unique {t t' : Terminal} {text rest rest' : List CodePoint}
    (h : t.Matches text rest)
    (h' : t'.Matches text rest') (hpriority : t.priority = t'.priority) : t = t' := by
  obtain ⟨c, tail, rfl, hc⟩ := h.exists_cons
  obtain ⟨d, tail', htext, hc'⟩ := h'.exists_cons
  obtain ⟨rfl, -⟩ := List.cons.inj htext
  exact eq_of_startsWith hc hc' hpriority

/-- Only a word is of different kinds. -/
theorem eq_of_kind {t t' : Terminal} (ht : t ≠ .word) {chars chars' : List CodePoint}
    (h : t'.kind chars' = t.kind chars) : t' = t := by
  cases t' with
  | word =>
    rw [Terminal.kind.eq_7] at h
    split at h <;> cases t <;> first
      | exact absurd rfl ht
      | cases h
  | real | string | integer | store | namedCall | atSign | blank | comment =>
    cases t <;> first
      | exact absurd rfl ht
      | rfl
      | cases h

/-- The first terminal that matches, with its length. -/
def first? (text : List CodePoint) : Option (Terminal × Nat) :=
  all.findSome? fun t => (t.length? text).map fun n => (t, n)

/-- The first terminal that matches is chosen. -/
theorem chosen_of_first? {text : List CodePoint} {t : Terminal} {n : Nat}
    (h : first? text = some (t, n)) : n ≤ text.length ∧ Chosen text t (text.drop n) := by
  obtain ⟨before, t₀, after, hall, hlength, hbefore⟩ := List.findSome?_eq_some_iff.1 h
  obtain ⟨m, hm, heq⟩ := Option.map_eq_some_iff.1 hlength
  cases heq
  obtain ⟨hle, hmatches⟩ := matches_of_length? hm
  refine ⟨hle, hmatches, ?_, ?_⟩
  · intro rest' h'
    obtain ⟨k, hk, hlength⟩ := h'.exists_length?
    rw [hm] at hk
    cases hk
    rw [List.length_drop]
    omega
  · intro t' rest' h'
    obtain ⟨k, hk, -⟩ := h'.exists_length?
    have hmem := mem_all t'
    have hpairwise := pairwise_all
    rw [hall] at hmem hpairwise
    obtain hmem | hmem := List.mem_append.1 hmem
    · have hnone := hbefore t' hmem
      rw [hk] at hnone
      cases hnone
    · obtain rfl | hmem := List.mem_cons.1 hmem
      · exact Nat.le_refl _
      · exact List.rel_of_pairwise_cons (List.pairwise_append.1 hpairwise).2.1 hmem

/-- A terminal that matches does not miss the first one. -/
theorem Matches.exists_first? {t : Terminal} {text rest : List CodePoint}
    (h : t.Matches text rest) :
    ∃ t' n, first? text = some (t', n) := by
  obtain ⟨n, hn, -⟩ := h.exists_length?
  have hsome : (first? text).isSome = true := by
    rw [first?, List.findSome?_isSome_iff]
    exact ⟨t, mem_all t, by rw [hn]; rfl⟩
  obtain ⟨⟨t', m⟩, hm⟩ := Option.isSome_iff_exists.1 hsome
  exact ⟨t', m, hm⟩

end Terminal

/-- At most one terminal is chosen, and one way to match it. -/
theorem Chosen.unique {text rest rest' : List CodePoint} {t t' : Terminal} (h : Chosen text t rest)
    (h' : Chosen text t' rest') : t = t' ∧ rest = rest' := by
  have hle := h.first h'.fits
  have hge := h'.first h.fits
  obtain rfl := h.fits.unique h'.fits (Nat.le_antisymm hge hle)
  refine ⟨rfl, ?_⟩
  have hlength : rest.length = rest'.length :=
    Nat.le_antisymm (h.longest h'.fits) (h'.longest h.fits)
  obtain ⟨chars, htext, -⟩ := h.fits.1.exists_chars
  obtain ⟨chars', htext', -⟩ := h'.fits.1.exists_chars
  rw [htext] at htext'
  exact (List.append_inj' htext' hlength).2

/-- The first terminal that matches is the one that the rules choose. -/
theorem Terminal.first?_eq_some_iff {text : List CodePoint} {t : Terminal} {n : Nat} :
    first? text = some (t, n) ↔ n ≤ text.length ∧ Chosen text t (text.drop n) := by
  refine ⟨chosen_of_first?, ?_⟩
  rintro ⟨hle, hchosen⟩
  obtain ⟨t', m, hm⟩ := hchosen.fits.exists_first?
  obtain ⟨hle', hchosen'⟩ := chosen_of_first? hm
  obtain ⟨rfl, hdrop⟩ := hchosen.unique hchosen'
  have hlength := congrArg List.length hdrop
  rw [List.length_drop, List.length_drop] at hlength
  have hn : n = m := by omega
  rw [hm, hn]

theorem someLength?_cons (isMember : CodePoint → Bool) (c : CodePoint) (rest : List CodePoint) :
    someLength? isMember (c :: rest) =
      if isMember c then some (1 + runLength isMember rest) else none := by
  unfold someLength? runLength
  by_cases hc : isMember c = true
  · rw [List.takeWhile_cons_of_pos hc, List.length_cons, if_pos hc, if_neg (by simp), Nat.add_comm]
  · rw [List.takeWhile_cons_of_neg hc, if_neg hc]
    rfl

/-- The scanner tries the terminals in the order of their row. -/
theorem lexeme?_eq (text : List CodePoint) :
    lexeme? text = (Terminal.first? text).map fun (t, n) => (t.kind (text.take n), n) := by
  simp only [Terminal.first?, Terminal.all, List.findSome?_cons, List.findSome?_nil,
    Terminal.length?]
  unfold lexeme?
  cases realLength? text with
  | some n => rfl
  | none =>
  cases stringLength? text with
  | some n => rfl
  | none =>
  cases hinteger : integerLength? text with
  | some n => rfl
  | none =>
  cases markedLength? '=' text with
  | some n => rfl
  | none =>
  cases markedLength? '@' text with
  | some n => rfl
  | none =>
  cases text with
  | nil => rfl
  | cons c rest =>
  -- what is left starts with a sign of its own, or it is a separator or a word
  by_cases hat : c = '@'
  · subst hat
    rfl
  by_cases hsharp : c = '#'
  · subst hsharp
    rfl
  have hword : Terminal.wordLength? (c :: rest) = someLength? isWordChar (c :: rest) := by
    rw [Terminal.wordLength?, hinteger]
    rfl
  have hhead : ¬(c :: rest).head? = some (.char '@') := fun h => hat (Option.some.inj h)
  rw [hword, someLength?_cons, someLength?_cons, if_neg hhead]
  simp only [Option.map_none]
  by_cases hseparator : isSeparator c = true
  · simp [hseparator, hsharp, Terminal.kind]
  · by_cases hmember : isWordChar c = true
    · cases hk : Keyword.ofWord?
        (Text.ofList ((c :: rest).take (1 + runLength isWordChar rest))) with
      | some k => simp [hseparator, hmember, hsharp, hk, Terminal.kind]
      | none => simp [hseparator, hmember, hsharp, hk, Terminal.kind]
    · simp [hseparator, hmember, hsharp]

/-- The scanner finds the lexeme that the rules choose. -/
theorem lexeme?_eq_some_iff {text : List CodePoint} {kind : LexemeKind} {n : Nat} :
    lexeme? text = some (kind, n) ↔
      n ≤ text.length ∧ ∃ t : Terminal,
        Chosen text t (text.drop n) ∧ kind = t.kind (text.take n) := by
  rw [lexeme?_eq, Option.map_eq_some_iff]
  constructor
  · rintro ⟨⟨t, m⟩, hfirst, heq⟩
    cases heq
    obtain ⟨hle, hchosen⟩ := Terminal.first?_eq_some_iff.1 hfirst
    exact ⟨hle, t, hchosen, rfl⟩
  · rintro ⟨hle, t, hchosen, rfl⟩
    exact ⟨(t, n), Terminal.first?_eq_some_iff.2 ⟨hle, hchosen⟩, rfl⟩

theorem Chosen.lexeme? {chars rest : List CodePoint} {t : Terminal}
    (h : Chosen (chars ++ rest) t rest) :
    lexeme? (chars ++ rest) = some (t.kind chars, chars.length) := by
  refine lexeme?_eq_some_iff.2 ⟨?_, t, ?_, ?_⟩
  · rw [List.length_append]
    omega
  · rw [List.drop_left]
    exact h
  · rw [List.take_left]

/-! ## Splitting -/

/-- No lexeme is empty. -/
theorem pos_of_lexeme? {text : List CodePoint} {kind : LexemeKind} {n : Nat}
    (h : lexeme? text = some (kind, n)) : 0 < n := by
  obtain ⟨hle, t, hchosen, -⟩ := lexeme?_eq_some_iff.1 h
  have hconsumes : t.pattern.consumes = true := by cases t <;> rfl
  have hlt := hchosen.fits.1.length_lt hconsumes
  rw [List.length_drop] at hlt
  omega

/-- A scan takes the first lexeme and goes on behind it. -/
theorem scanFrom_of_lexeme? {text : List CodePoint} {kind : LexemeKind} {n : Nat} (place : Location)
    (h : lexeme? text = some (kind, n)) :
    scanFrom place text =
      let tail := scanFrom (placeAfter place (text.take n)) (text.drop n)
      ⟨⟨kind, text.take n, place⟩ :: tail.lexemes, tail.stuck⟩ := by
  have hpos := pos_of_lexeme? h
  obtain ⟨n, rfl⟩ := Nat.exists_eq_add_of_le' hpos
  cases text with
  | nil => cases h
  | cons c rest =>
    rw [scanFrom, h]
    rfl

theorem scanFrom_of_lexeme?_none {c : CodePoint} {rest : List CodePoint} (place : Location)
    (h : lexeme? (c :: rest) = none) : scanFrom place (c :: rest) = ⟨[], some (c, place)⟩ := by
  rw [scanFrom, h]

/-- Every lexeme of a scan, whether it goes through or not, was chosen by the rules. -/
theorem chosen_of_mem_scanFrom {place : Location} {text : List CodePoint} {lexeme : Lexeme}
    (h : lexeme ∈ (scanFrom place text).lexemes) :
    ∃ (t : Terminal) (rest : List CodePoint),
      Chosen (lexeme.text ++ rest) t rest ∧ lexeme.kind = t.kind lexeme.text := by
  fun_induction scanFrom place text with
  | case1 => cases h
  | case2 => cases h
  | case3 place c rest kind size hlexeme chars tail =>
    rename_i ih
    obtain ⟨n, rfl⟩ := Nat.exists_eq_add_of_le' (pos_of_lexeme? hlexeme)
    obtain ⟨-, t, hchosen, rfl⟩ := lexeme?_eq_some_iff.1 hlexeme
    rcases List.mem_cons.1 h with rfl | h
    · refine ⟨t, (c :: rest).drop (n + 1), ?_, rfl⟩
      have htext : chars ++ (c :: rest).drop (n + 1) = c :: rest :=
        List.take_append_drop (n + 1) (c :: rest)
      rw [htext]
      exact hchosen
    · exact ih h

/-- The character at which a scan is stuck starts no lexeme. -/
theorem lexeme?_of_stuck {place place' : Location} {text : List CodePoint} {c : CodePoint}
    (h : (scanFrom place text).stuck = some (c, place')) :
    ∃ rest, lexeme? (c :: rest) = none := by
  fun_induction scanFrom place text with
  | case1 => cases h
  | case2 place d rest hlexeme =>
    cases h
    exact ⟨rest, hlexeme⟩
  | case3 => rename_i ih; exact ih h

/-- A scan goes through exactly if the text splits by the rules, and gives what it splits into. -/
theorem scanFrom_eq_iff {place : Location} {text : List CodePoint} {lexemes : List Lexeme} :
    scanFrom place text = ⟨lexemes, none⟩ ↔ Splits place text lexemes := by
  constructor
  · intro h
    fun_induction scanFrom place text generalizing lexemes with
    | case1 =>
      cases h
      exact .done
    | case2 => cases h
    | case3 place c rest kind size hlexeme chars tail =>
      rename_i ih
      obtain ⟨n, rfl⟩ := Nat.exists_eq_add_of_le' (pos_of_lexeme? hlexeme)
      obtain ⟨hle, t, hchosen, rfl⟩ := lexeme?_eq_some_iff.1 hlexeme
      injection h with hlexemes hstuck
      rw [← hlexemes]
      refine .next (List.take_append_drop (n + 1) (c :: rest)).symm hchosen (ih ?_)
      exact congrArg (Scan.mk tail.lexemes) hstuck
  · intro h
    induction h with
    | done => rw [scanFrom]
    | @next place text rest chars lexemes t htext hchosen hrest ih =>
      subst htext
      rw [scanFrom_of_lexeme? place hchosen.lexeme?, List.take_left, List.drop_left, ih]

end StackShell.Token
