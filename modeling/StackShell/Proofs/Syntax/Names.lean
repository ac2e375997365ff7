import StackShell.Proofs.Printing.RoundTrip

/-!
# Names of functions

A definition takes any word as the name of its function. Behind a mark, only an ASCII name is taken:
a letter or an underscore, and then letters, digits and a few signs. Any other word leaves the mark
to itself, or to a word that starts with it: `==` is a word of its own, and no store into `=`.

So a function can be called and stored under its name exactly if that is an ASCII name
(`names_behind_marks`).
-/

namespace StackShell

namespace Token

open Pattern

/-! ## Words and marked names -/

/-- Whether a text is a name that can stand behind a mark. -/
def IsMarkable (text : List CodePoint) : Prop :=
  ∃ c rest, text = c :: rest ∧ isNameStart c = true ∧ ∀ d ∈ rest, isNameChar d = true

/-- Whether a text is a plain word from its first character to its last. -/
structure IsWord (text : List CodePoint) : Prop where
  nonempty : text ≠ []
  chars : ∀ c ∈ text, isWordChar c = true
  /-- No number starts it. -/
  number : ∀ d rest, text = d :: rest ∨ text = .char '-' :: d :: rest → Text.isDigit d = false
  /-- No store starts it. -/
  store : ∀ c rest, text = .char '=' :: c :: rest → isNameStart c = false
  keyword : Keyword.ofWord? (Text.ofList text) = none

theorem leaves_numberStart {text rest : List CodePoint} :
    numberStart.Leaves text rest ↔
      ∃ d, (text = d :: rest ∨ text = .char '-' :: d :: rest) ∧ Text.isDigit d = true := by
  rw [numberStart, leaves_seq]
  constructor
  · rintro ⟨middle, hsign, hdigit⟩
    obtain ⟨d, rfl, hd⟩ := leaves_one.1 hdigit
    rcases leaves_perhaps.1 hsign with rfl | hminus
    · exact ⟨d, .inl rfl, hd⟩
    · exact ⟨d, .inr (leaves_char.1 hminus), hd⟩
  · rintro ⟨d, rfl | rfl, hd⟩
    · exact ⟨d :: rest, .skip, .one hd⟩
    · exact ⟨d :: rest, .take (leaves_char.2 rfl), .one hd⟩

theorem leaves_marked {mark : CodePoint} {text rest : List CodePoint} :
    (markedPattern mark).Leaves text rest ↔
      ∃ name, text = mark :: (name ++ rest) ∧ IsMarkable name := by
  rw [markedPattern, leaves_seq]
  constructor
  · rintro ⟨middle, hmark, hname⟩
    obtain rfl := leaves_char.1 hmark
    obtain ⟨tail, hstart, hmany⟩ := leaves_seq.1 hname
    obtain ⟨c, rfl, hc⟩ := leaves_one.1 hstart
    obtain ⟨run, rfl, hrun⟩ := leaves_many_one.1 hmany
    exact ⟨c :: run, rfl, c, run, rfl, hc, hrun⟩
  · rintro ⟨name, rfl, c, run, rfl, hc, hrun⟩
    exact ⟨_, leaves_char.2 rfl, .seq (.one hc) (leaves_many_one.2 ⟨run, rfl, hrun⟩)⟩

/-- A text that is chosen as a word up to its end, and is no keyword, is one. -/
theorem Chosen.isWord {text : List CodePoint} (h : Chosen text .word [])
    (hkind : LexemeKind.word = Terminal.kind .word text) : IsWord text := by
  obtain ⟨hleaves, hnumber⟩ := h.fits
  obtain ⟨run, htext, hne, hrun⟩ := leaves_some1.1 hleaves
  rw [List.append_nil] at htext
  subst htext
  refine ⟨hne, hrun, fun d rest htext => ?_, fun c rest htext => ?_, ?_⟩
  · rw [← Bool.not_eq_true]
    intro hd
    exact hnumber rfl rest (leaves_numberStart.2 ⟨d, htext, hd⟩)
  · -- a store would be preferred
    rw [← Bool.not_eq_true]
    intro hc
    have hstore : Terminal.store.Matches text rest :=
      ⟨leaves_marked.2 ⟨[c], htext, c, [], rfl, hc, by simp⟩, by simp⟩
    exact absurd (h.first hstore) (by decide)
  · cases hkeyword : Keyword.ofWord? (Text.ofList text) with
    | none => rfl
    | some k =>
      rw [Terminal.kind, hkeyword] at hkind
      cases hkind

namespace IsWord

variable {text : List CodePoint}

theorem no_number (h : IsWord text) (rest : List CodePoint) : ¬numberStart.Leaves text rest := by
  intro hstart
  obtain ⟨d, htext, hd⟩ := leaves_numberStart.1 hstart
  rw [h.number d rest htext] at hd
  cases hd

/-- Of the terminals that are preferred to a word, none matches at its start: numbers and stores are
excluded, and the others start with another character. -/
theorem priority_le (h : IsWord text) {t : Terminal} {rest : List CodePoint}
    (hmatches : t.Matches text rest) : t.priority ≤ Terminal.word.priority := by
  obtain ⟨c, tail, htext, hc⟩ := hmatches.exists_cons
  have hmember : isWordChar c = true := h.chars c (htext ▸ List.mem_cons_self)
  cases t with
  | real =>
    obtain ⟨middle, hinteger, -⟩ := leaves_seq.1 hmatches.1
    obtain ⟨start, hsign, hdigits⟩ := leaves_seq.1 hinteger
    obtain ⟨after, hdigit, -⟩ := leaves_seq.1 hdigits
    exact absurd (.seq hsign hdigit) (h.no_number after)
  | integer =>
    obtain ⟨start, hsign, hdigits⟩ := leaves_seq.1 hmatches.1
    obtain ⟨after, hdigit, -⟩ := leaves_seq.1 hdigits
    exact absurd (.seq hsign hdigit) (h.no_number after)
  | store =>
    obtain ⟨name, hname, d, run, rfl, hd, -⟩ := leaves_marked.1 hmatches.1
    rw [h.store d (run ++ rest) hname] at hd
    cases hd
  | string | namedCall =>
    obtain rfl := eq_of_beq hc
    exact absurd hmember (by decide +kernel)
  | atSign | word | blank | comment => exact Nat.le_refl _

theorem chosen (h : IsWord text) : Chosen text .word [] := by
  refine ⟨⟨?_, fun _ => h.no_number⟩, fun _ => Nat.zero_le _, h.priority_le⟩
  exact leaves_some1.2 ⟨text, (List.append_nil text).symm, h.nonempty, h.chars⟩

end IsWord

/-- A word is scanned as one exactly if it is one from end to end. -/
theorem lexeme?_eq_word_iff {text : List CodePoint} :
    lexeme? text = some (.word, text.length) ↔ IsWord text := by
  rw [lexeme?_eq_some_iff, List.drop_length, List.take_length]
  constructor
  · rintro ⟨-, t, hchosen, hkind⟩
    have ht : t = .word := by
      cases t <;> first
        | rfl
        | cases hkind
    subst ht
    exact hchosen.isWord hkind
  · intro h
    refine ⟨Nat.le_refl _, .word, h.chosen, ?_⟩
    rw [Terminal.kind, h.keyword]

/-- A mark and the name behind it are scanned as one token. -/
theorem lexeme?_marked {mark : CodePoint} {t : Terminal} (ht : t = .store ∧ mark = '=' ∨
    t = .namedCall ∧ mark = '@') {name : List CodePoint} (h : IsMarkable name) :
    lexeme? (mark :: name) = some (t.kind [], (mark :: name).length) := by
  have hleaves : (markedPattern mark).Leaves (mark :: name) [] :=
    leaves_marked.2 ⟨name, by rw [List.append_nil], h⟩
  refine lexeme?_eq_some_iff.2 ⟨Nat.le_refl _, t, ?_, ?_⟩
  · rw [List.drop_length]
    have hfirst : ∀ {t' : Terminal} {rest}, t'.Matches (mark :: name) rest → t'.priority ≤ 3 := by
      intro t' rest hmatches
      obtain ⟨c, tail, htext, hc⟩ := hmatches.exists_cons
      obtain ⟨rfl, -⟩ := List.cons.inj htext
      -- only a real would be preferred, and none starts with a mark
      cases t' with
      | real => rcases ht with ⟨-, rfl⟩ | ⟨-, rfl⟩ <;> exact absurd hc (by decide +kernel)
      | _ => decide
    rcases ht with ⟨rfl, rfl⟩ | ⟨rfl, rfl⟩ <;>
      exact ⟨⟨hleaves, fun h => by cases h⟩, fun _ => Nat.zero_le _, hfirst⟩
  · rcases ht with ⟨rfl, rfl⟩ | ⟨rfl, rfl⟩ <;> rfl

end Token

namespace Syntax

open Token Program

variable {isCommand : Text → Bool} {source : Text} {file : Option Text}

/-! ## Texts of one token -/

/-- A text that is one token is read as the statement of that token. -/
theorem parse_of_lexeme? [Platform] {kind : LexemeKind}
    (h : lexeme? source.toList = some (kind, source.toList.length)) (hatom : isAtom kind = true)
    (hstring : kind ≠ .string) (hinteger : kind ≠ .integer) :
    Program.parse isCommand source file =
      .ok [statementOf isCommand ⟨kind, source.toList, start⟩] := by
  have htoken : kind.isToken = true := by
    cases kind <;> first
      | rfl
      | cases hatom
  have hscan : scan source = ⟨[⟨kind, source.toList, start⟩], none⟩ := by
    rw [scan, scanFrom_of_lexeme? start h, List.take_length, List.drop_length]
    dsimp only
    rw [scanFrom]
  have htokens : (scan source).tokens = [⟨kind, source.toList, start⟩] := by
    rw [hscan, Scan.tokens, List.filter_cons_of_pos (by exact htoken), List.filter_nil]
  refine parse_ok_iff.2 ⟨?_, [.atom ⟨⟨kind, source.toList, start⟩, hatom⟩], ?_, ?_, rfl⟩
  · rw [hscan]
  · rw [htokens]
    rfl
  · rw [htokens]
    exact List.forall_mem_singleton.2 (converts_of_ne hstring hinteger)

/-- A text that is read as one statement with a place has one token, the statement of which it
is. -/
theorem exists_token_of_parse [Platform] {s : Statement}
    (h : Program.parse isCommand source file = .ok [s]) (hplace : s.place?.isSome = true) :
    ∃ token ∈ (scan source).tokens, s = statementOf isCommand token := by
  obtain ⟨-, row, htokens, -, hprogram⟩ := parse_ok_iff.1 h
  cases row with
  | nil => cases hprogram
  | cons tree row =>
    obtain rfl : s = tree.statement isCommand := (List.cons.inj hprogram).1
    cases tree with
    | atom token =>
      refine ⟨token.1, ?_, rfl⟩
      rw [← htokens]
      exact List.mem_cons_self
    | conditional | loop | definition | function => cases hplace

/-- The name in a token with a mark is one that can stand behind a mark. -/
theorem isMarkable_nameOf {token : Lexeme} (h : token ∈ (scan source).tokens)
    (hkind : token.kind = .store ∨ token.kind = .namedCall) : IsMarkable (nameOf token).toList := by
  obtain ⟨t, rest, hchosen, hterminal⟩ := chosen_of_mem_scanFrom (List.mem_of_mem_filter h)
  obtain ⟨mark, hpattern⟩ : ∃ mark, t.pattern = markedPattern mark := by
    rcases hkind with hkind | hkind
    · have hstore : t.kind token.text = Terminal.store.kind [] := hterminal ▸ hkind
      obtain rfl := Terminal.eq_of_kind (by decide) hstore
      exact ⟨'=', rfl⟩
    · have hcall : t.kind token.text = Terminal.namedCall.kind [] := hterminal ▸ hkind
      obtain rfl := Terminal.eq_of_kind (by decide) hcall
      exact ⟨'@', rfl⟩
  have hleaves := hchosen.fits.1.alone
  rw [hpattern] at hleaves
  obtain ⟨name, htext, hname⟩ := leaves_marked.1 hleaves
  rw [nameOf, Text.toList_ofList, htext, List.append_nil]
  exact hname

/-! ## Definitions -/

/-- The words of a definition without a body are its tokens. -/
theorem cuts_definition {name : List CodePoint} (h : IsWord name) :
    Cuts (("def" : Text).toList ++ .char ' ' :: (name ++ .char ' ' :: ("end" : Text).toList))
      [(.keyword .defWord, ("def" : Text).toList), (.word, name),
        (.keyword .endWord, ("end" : Text).toList)] := by
  have hdef : lexeme? ("def" : Text).toList =
      some (.keyword .defWord, ("def" : Text).toList.length) := by
    decide +kernel
  have hend : lexeme? ("end" : Text).toList =
      some (.keyword .endWord, ("end" : Text).toList.length) := by
    decide +kernel
  have hname := lexeme?_eq_word_iff.2 h
  refine (cuts_word (lexeme?_continued hdef (by decide) rfl (by simp)) rfl).2 ⟨_, rfl, ?_⟩
  refine (cuts_word (lexeme?_continued hname (by decide) rfl (by simp)) rfl).2 ⟨_, rfl, ?_⟩
  exact (cuts_of_token hend rfl).2 ⟨[], rfl, .done⟩

/-- What can be defined is what is a word. -/
theorem parse_definition_iff [Platform] {name : Text} :
    Program.parse isCommand ("def " ++ name ++ " end") file = .ok [.define (some name) []] ↔
      IsWord name.toList := by
  constructor
  · intro h
    obtain ⟨-, row, htokens, -, hprogram⟩ := parse_ok_iff.1 h
    cases row with
    | nil => cases hprogram
    | cons tree row =>
      have hstatement : .define (some name) [] = tree.statement isCommand :=
        (List.cons.inj hprogram).1
      cases tree with
      | definition opener token body closer =>
        have hmem : token.1 ∈ (scan ("def " ++ name ++ " end")).tokens := by
          rw [← htokens]
          exact List.mem_cons_of_mem _ List.mem_cons_self
        obtain ⟨t, rest, hchosen, hkind⟩ :=
          chosen_of_mem_scanFrom (List.mem_of_mem_filter hmem)
        have hlexeme := hchosen.alone
        rw [← hkind, token.2] at hlexeme
        injection hstatement with hname
        rw [Option.some.inj hname, Text.toList_ofList]
        exact lexeme?_eq_word_iff.1 hlexeme
      | atom token =>
        -- the statement of a token has a place
        have hplace := congrArg Statement.place? hstatement
        rw [Tree.statement, place?_statementOf] at hplace
        cases hplace
      | conditional | loop | function => cases hstatement
  · intro h
    have htext : ("def " ++ name ++ " end").toList =
        ("def" : Text).toList ++ .char ' ' ::
          (name.toList ++ .char ' ' :: ("end" : Text).toList) := by
      simp
    have hcuts := cuts_definition h
    rw [← htext] at hcuts
    obtain ⟨hstuck, hbare⟩ := cuts_scan.1 hcuts
    obtain ⟨opener, others, htokens, hopener, hothers⟩ := List.map_eq_cons_iff.1 hbare
    obtain ⟨token, others, rfl, htoken, hothers⟩ := List.map_eq_cons_iff.1 hothers
    obtain ⟨closer, others, rfl, hcloser, hothers⟩ := List.map_eq_cons_iff.1 hothers
    obtain rfl := List.map_eq_nil_iff.1 hothers
    let row : List Tree :=
      [.definition ⟨opener, congrArg Prod.fst hopener⟩ ⟨token, congrArg Prod.fst htoken⟩ []
        ⟨closer, congrArg Prod.fst hcloser⟩]
    refine parse_ok_iff.2 ⟨hstuck, row, htokens.symm, ?_, ?_⟩
    · rw [htokens]
      simp only [List.forall_mem_cons, List.not_mem_nil, false_implies, implies_true, and_true]
      exact ⟨converts_mark ⟨opener, congrArg Prod.fst hopener⟩,
        converts_name ⟨token, congrArg Prod.fst htoken⟩,
        converts_mark ⟨closer, congrArg Prod.fst hcloser⟩⟩
    · show [Statement.define (some name) []] = [.define (some (Text.ofList token.text)) []]
      rw [show token.text = name.toList from congrArg Prod.snd htoken, Text.ofList_toList]

/-! ## Marks before names -/

/-- The name that a statement has behind a mark. -/
def markedName? : Statement → Option Text
  | .store name _ => some name
  | .call name _ => name
  | _ => none

theorem nameOf_of_statementOf [Platform] {token : Lexeme} {name : Text}
    (h : markedName? (statementOf isCommand token) = some name) :
    (token.kind = .store ∨ token.kind = .namedCall) ∧ nameOf token = name := by
  unfold statementOf at h
  cases hkind : token.kind with
  | store =>
    rw [hkind] at h
    exact ⟨.inl rfl, Option.some.inj h⟩
  | namedCall =>
    rw [hkind] at h
    exact ⟨.inr rfl, Option.some.inj h⟩
  | keyword k =>
    rw [hkind] at h
    cases k <;> first
      | cases h
      | dsimp only at h
        split at h <;> cases h
  | word | blank | comment =>
    rw [hkind] at h
    dsimp only at h
    split at h <;> cases h
  | integer | real | string | atSign =>
    rw [hkind] at h
    cases h

/-- Whatever the text, what it stores or calls by a single mark has an ASCII name. -/
theorem isMarkable_of_parse [Platform] {s : Statement} {name : Text}
    (h : Program.parse isCommand source file = .ok [s]) (hname : markedName? s = some name) :
    IsMarkable name.toList := by
  have hplace : s.place?.isSome = true := by
    cases s <;> first
      | rfl
      | cases hname
  obtain ⟨token, hmem, rfl⟩ := exists_token_of_parse h hplace
  obtain ⟨hkind, rfl⟩ := nameOf_of_statementOf hname
  exact isMarkable_nameOf hmem hkind

/-- A text that is a mark and an ASCII name is read as a store or a call by that name. -/
theorem parse_marked [Platform] {name : Text} (h : IsMarkable name.toList) :
    Program.parse isCommand ("@" ++ name) file = .ok [.call (some name) start] ∧
      Program.parse isCommand ("=" ++ name) file = .ok [.store name start] := by
  have hcall : ("@" ++ name).toList = .char '@' :: name.toList := by simp
  have hstore : ("=" ++ name).toList = .char '=' :: name.toList := by simp
  have hname : Text.ofList name.toList = name := Text.ofList_toList name
  constructor
  · have hlexeme := lexeme?_marked (t := .namedCall) (.inr ⟨rfl, rfl⟩) h
    rw [← hcall] at hlexeme
    rw [parse_of_lexeme? hlexeme rfl (by decide) (by decide), hcall]
    exact congrArg (fun name => Except.ok [Statement.call (some name) start]) hname
  · have hlexeme := lexeme?_marked (t := .store) (.inl ⟨rfl, rfl⟩) h
    rw [← hstore] at hlexeme
    rw [parse_of_lexeme? hlexeme rfl (by decide) (by decide), hstore]
    exact congrArg (fun name => Except.ok [Statement.store name start]) hname

/-- A function can be defined under any word. It can be called by name, and a value can be stored
under it, exactly if it is an ASCII name: only then the mark and the name are read as the single
statement that calls, or stores, by that name. -/
theorem names_behind_marks [Platform] (isCommand : Text → Bool) (file : Option Text) (name : Text) :
    (Program.parse isCommand ("def " ++ name ++ " end") file = .ok [.define (some name) []] ↔
      IsWord name.toList) ∧
    ((∃ place, Program.parse isCommand ("@" ++ name) file = .ok [.call (some name) place]) ↔
      IsMarkable name.toList) ∧
    ((∃ place, Program.parse isCommand ("=" ++ name) file = .ok [.store name place]) ↔
      IsMarkable name.toList) := by
  refine ⟨parse_definition_iff, ⟨?_, fun h => ⟨start, (parse_marked h).1⟩⟩,
    ⟨?_, fun h => ⟨start, (parse_marked h).2⟩⟩⟩
  · rintro ⟨place, h⟩
    exact isMarkable_of_parse h rfl
  · rintro ⟨place, h⟩
    exact isMarkable_of_parse h rfl

section

attribute [local instance] Platform.basic

/-- A function can be defined under the sign of equality, but a mark before the sign is no store or
call by that name: with the mark of stores it is the word of another operator. -/
theorem not_every_name_behind_marks :
    ¬∀ name : Text,
      Program.parse (fun _ => false) ("def " ++ name ++ " end") none =
        .ok [.define (some name) []] →
      (∃ place, Program.parse (fun _ => false) ("@" ++ name) none =
        .ok [.call (some name) place]) ∧
      ∃ place, Program.parse (fun _ => false) ("=" ++ name) none = .ok [.store name place] := by
  intro h
  have hdefinition : Program.parse (fun _ => false) ("def " ++ "=" ++ " end") none =
      .ok [.define (some "=") []] := by cbv
  have hword : Program.parse (fun _ => false) ("=" ++ "=") none = .ok [.load "==" ⟨1, 1⟩] := by cbv
  obtain ⟨-, place, hstore⟩ := h "=" hdefinition
  rw [hword] at hstore
  cases hstore

end

end Syntax

end StackShell
