import StackShell.Command.OperatorName
import StackShell.Text.Search

/-!
# Names of operators and of commands

The name of a command is read off the name of its function in one pass, which does what three
replacements do, one after the other (`unmark_eq_replaceAll`). The name of a function is found
again from that of its command (`IsOperator.exists_toCommand`). The other way it need not be: a
dash in front of `b` or `q` is written like a mark, and an underscore like a dash. A command's name
without any of these comes back, and no other (`name_read_back`).
-/

namespace StackShell

/-! ## Replacements -/

namespace Text

/-- A character in place of which others are put. -/
theorem replaceAll_single (old : CodePoint) (new text : List CodePoint) :
    replaceAll [old] new text = text.flatMap fun c => if c == old then new else [c] := by
  show replaceRow old [] new text = _
  induction text with
  | nil => rw [replaceRow, List.flatMap_nil]
  | cons c text ih =>
    rw [replaceRow, List.flatMap_cons, List.length_nil, List.drop_zero, ih]
    by_cases hc : c = old
    · rw [if_pos (by simp [hc]), if_pos (by simp [hc])]
    · rw [if_neg (by simp [Ne.symm hc]), if_neg (by simp [hc]), List.singleton_append]

variable {first second : CodePoint} (new : List CodePoint)

theorem replaceAll_nil : replaceAll [first, second] new [] = [] := by
  show replaceRow first [second] new [] = []
  rw [replaceRow]

/-- A pair of characters is replaced. -/
theorem replaceAll_pair (rest : List CodePoint) :
    replaceAll [first, second] new (first :: second :: rest) =
      new ++ replaceAll [first, second] new rest := by
  show replaceRow first [second] new (first :: second :: rest) = _
  rw [replaceRow, if_pos (by simp)]
  rfl

/-- A character that does not begin the pair stays. -/
theorem replaceAll_cons {c : CodePoint} {rest : List CodePoint}
    (h : ¬(c = first ∧ rest.head? = some second)) :
    replaceAll [first, second] new (c :: rest) = c :: replaceAll [first, second] new rest := by
  show replaceRow first [second] new (c :: rest) = _
  have hbegins : ¬(first :: [second]).isPrefixOf (c :: rest) = true := by
    intro hbegins
    rw [List.isPrefixOf_iff_prefix, List.cons_prefix_cons] at hbegins
    obtain ⟨rfl, more, rfl⟩ := hbegins
    exact h ⟨rfl, rfl⟩
  rw [replaceRow, if_neg hbegins]
  rfl

/-- What stands first after pairs were replaced stood there before, or was put there. -/
theorem head?_replaceAll_pair {new : List CodePoint} (hnew : new ≠ []) {d : CodePoint}
    (text : List CodePoint) (h : (replaceAll [first, second] new text).head? = some d) :
    text.head? = some d ∨ new.head? = some d := by
  cases text with
  | nil =>
    rw [replaceAll_nil] at h
    cases h
  | cons c rest =>
    by_cases hpair : c = first ∧ rest.head? = some second
    · obtain ⟨rfl, hsecond⟩ := hpair
      obtain ⟨rest, rfl⟩ := List.head?_eq_some_iff.1 hsecond
      obtain ⟨n, new, rfl⟩ := List.exists_cons_of_ne_nil hnew
      rw [replaceAll_pair, List.cons_append] at h
      exact .inr h
    · rw [replaceAll_cons new hpair] at h
      exact .inl h

end Text

namespace OperatorName

open Text (replaceAll)

/-! ## The marks, one after the other -/

/-- The marks of a command's name are replaced one after the other. -/
theorem toList_ofCommand (name : Text) :
    (ofCommand name).toList =
      opening ++ replaceAll [.char '?'] [.char '_', .char 'q']
        (replaceAll [.char '!'] [.char '_', .char 'b']
          (replaceAll [.char '-'] [.char '_'] name.toList)) := by
  rw [ofCommand, Text.toList_ofList, Text.replaceAll_single, Text.replaceAll_single,
    Text.replaceAll_single, List.flatMap_assoc, List.flatMap_assoc]
  congr 2
  funext c
  unfold mark
  split
  · rfl
  · rfl
  · rfl
  · next hdash hbang hquestion =>
    rw [if_neg (by simpa using hdash), List.flatMap_singleton, if_neg (by simpa using hbang),
      List.flatMap_singleton, if_neg (by simpa using hquestion)]

/-! ## Putting marks back -/

theorem unmark_cons {c : CodePoint} (h : c ≠ '_') (rest : List CodePoint) :
    unmark (c :: rest) = c :: unmark rest := by
  rw [unmark]
  · rw [if_neg (by simpa using h)]
  · rintro _ rfl
    exact absurd rfl h
  · rintro _ rfl
    exact absurd rfl h

/-- An underscore that begins no mark. -/
theorem unmark_underscore {rest : List CodePoint} (hb : rest.head? ≠ some (.char 'b'))
    (hq : rest.head? ≠ some (.char 'q')) :
    unmark (.char '_' :: rest) = .char '-' :: unmark rest := by
  rw [unmark]
  · rfl
  · rintro rest - rfl
    exact hb rfl
  · rintro rest - rfl
    exact hq rfl

/-- A name is read in three cases for an underscore and one for every other character. -/
theorem unmark_induction {motive : List CodePoint → Prop} (nil : motive [])
    (bang : ∀ rest, motive rest → motive (.char '_' :: .char 'b' :: rest))
    (question : ∀ rest, motive rest → motive (.char '_' :: .char 'q' :: rest))
    (dash : ∀ rest, rest.head? ≠ some (.char 'b') → rest.head? ≠ some (.char 'q') → motive rest →
      motive (.char '_' :: rest))
    (plain : ∀ (c : CodePoint) rest, c ≠ '_' → motive rest → motive (c :: rest))
    (row : List CodePoint) :
    motive row := by
  induction row using unmark.induct with
  | case1 rest ih => exact bang rest ih
  | case2 rest ih => exact question rest ih
  | case3 c rest hb hq ih =>
    by_cases hc : c = '_'
    · subst hc
      refine dash rest ?_ ?_ ih
      · intro hhead
        obtain ⟨rest, rfl⟩ := List.head?_eq_some_iff.1 hhead
        exact hb rest rfl rfl
      · intro hhead
        obtain ⟨rest, rfl⟩ := List.head?_eq_some_iff.1 hhead
        exact hq rest rfl rfl
    · exact plain c rest hc ih
  | case4 => exact nil

/-- The one pass does what three replacements do. -/
theorem unmark_eq_replaceAll (row : List CodePoint) :
    unmark row =
      replaceAll [.char '_'] [.char '-'] (replaceAll [.char '_', .char 'q'] [.char '?']
        (replaceAll [.char '_', .char 'b'] [.char '!'] row)) := by
  rw [Text.replaceAll_single]
  induction row using unmark_induction with
  | nil =>
    rw [Text.replaceAll_nil, Text.replaceAll_nil]
    rfl
  | bang rest ih =>
    rw [Text.replaceAll_pair, List.singleton_append, Text.replaceAll_cons _ (by simp),
      List.flatMap_cons, ← ih]
    rfl
  | question rest ih =>
    have hletter : replaceAll [.char '_', .char 'b'] [.char '!'] (.char 'q' :: rest) =
        .char 'q' :: replaceAll [.char '_', .char 'b'] [.char '!'] rest :=
          Text.replaceAll_cons _ (by simp)
    rw [Text.replaceAll_cons _ (by simp), hletter, Text.replaceAll_pair, List.singleton_append,
      List.flatMap_cons, ← ih]
    rfl
  | dash rest hb hq ih =>
    -- the first pass puts no `q` behind the underscore
    have hq' : (replaceAll [.char '_', .char 'b'] [.char '!'] rest).head? ≠ some (.char 'q') := by
      intro hhead
      rcases Text.head?_replaceAll_pair (by simp) rest hhead with hold | hnew
      · exact hq hold
      · exact absurd hnew (by decide)
    rw [unmark_underscore hb hq, Text.replaceAll_cons _ (by simp [hb]),
      Text.replaceAll_cons _ (by simp [hq']), List.flatMap_cons, ← ih]
    rfl
  | plain c rest hc ih =>
    rw [unmark_cons hc, Text.replaceAll_cons _ (by simp [hc]),
      Text.replaceAll_cons _ (by simp [hc]), List.flatMap_cons, if_neg (by simpa using hc), ← ih]
    rfl

/-- No underscore is left. -/
theorem not_mem_unmark (row : List CodePoint) : .char '_' ∉ unmark row := by
  induction row using unmark_induction with
  | nil => exact List.not_mem_nil
  | bang rest ih => exact List.not_mem_cons_of_ne_of_not_mem (by decide) ih
  | question rest ih => exact List.not_mem_cons_of_ne_of_not_mem (by decide) ih
  | dash rest hb hq ih =>
    rw [unmark_underscore hb hq]
    exact List.not_mem_cons_of_ne_of_not_mem (by decide) ih
  | plain c rest hc ih =>
    rw [unmark_cons hc]
    exact List.not_mem_cons_of_ne_of_not_mem (Ne.symm hc) ih

/-! ## From the name of a function and back -/

/-- Whether a character cannot stand in the name of a function. -/
def isMark (c : CodePoint) : Bool :=
  c == '-' || c == '!' || c == '?'

theorem mark_of_not_isMark {c : CodePoint} (h : isMark c = false) : mark c = [c] := by
  unfold mark
  split
  · cases h
  · cases h
  · cases h
  · rfl

/-- The name of a function that stands for a command. -/
structure IsOperator (function : Text) : Prop where
  opens : opening <+: function.toList
  plain : ∀ c ∈ function.toList, isMark c = false

instance (function : Text) : Decidable (IsOperator function) :=
  decidable_of_iff
    ((opening.isPrefixOf function.toList && function.toList.all fun c => !isMark c) = true) <| by
    rw [Bool.and_eq_true, List.isPrefixOf_iff_prefix, List.all_eq_true]
    simp only [Bool.not_eq_true']
    exact ⟨fun h => ⟨h.1, h.2⟩, fun h => ⟨h.opens, h.plain⟩⟩

/-- Marks that were put back are written as what they were read off. -/
theorem flatMap_mark_unmark {row : List CodePoint} (h : ∀ c ∈ row, isMark c = false) :
    (unmark row).flatMap mark = row := by
  induction row using unmark_induction with
  | nil => rfl
  | bang rest ih =>
    have hrest := ih fun c hc => h c (List.mem_cons_of_mem _ (List.mem_cons_of_mem _ hc))
    exact congrArg (.char '_' :: .char 'b' :: ·) hrest
  | question rest ih =>
    have hrest := ih fun c hc => h c (List.mem_cons_of_mem _ (List.mem_cons_of_mem _ hc))
    exact congrArg (.char '_' :: .char 'q' :: ·) hrest
  | dash rest hb hq ih =>
    rw [unmark_underscore hb hq]
    exact congrArg (.char '_' :: ·) (ih fun c hc => h c (List.mem_cons_of_mem _ hc))
  | plain c rest hc ih =>
    obtain ⟨hmark, hrest⟩ := List.forall_mem_cons.1 h
    rw [unmark_cons hc, List.flatMap_cons, mark_of_not_isMark hmark, ih hrest]
    rfl

theorem toCommand_of_toList {function : Text} {row : List CodePoint}
    (h : function.toList = opening ++ row) :
    toCommand function = .ok (Text.ofList (unmark row)) := by
  unfold toCommand
  rw [h]
  rfl

/-- The name of a function is found again from that of its command. -/
theorem IsOperator.exists_toCommand {function : Text} (h : IsOperator function) :
    ∃ name, toCommand function = .ok name ∧ ofCommand name = function := by
  obtain ⟨row, hrow⟩ := h.opens
  refine ⟨Text.ofList (unmark row), toCommand_of_toList hrow.symm, ?_⟩
  have hplain : ∀ c ∈ row, isMark c = false := fun c hc =>
    h.plain c (hrow ▸ List.mem_append_right opening hc)
  rw [ofCommand, Text.toList_ofList, flatMap_mark_unmark hplain, hrow, Text.ofList_toList]

/-- Functions with one command have one name. -/
theorem IsOperator.eq_of_toCommand_eq {f g : Text} (hf : IsOperator f) (hg : IsOperator g)
    (h : toCommand f = toCommand g) : f = g := by
  obtain ⟨name, hname, rfl⟩ := hf.exists_toCommand
  obtain ⟨name', hname', rfl⟩ := hg.exists_toCommand
  rw [hname, hname'] at h
  cases h
  rfl

/-! ## From the name of a command and back -/

theorem toCommand_ofCommand (name : Text) :
    toCommand (ofCommand name) = .ok (Text.ofList (unmark (name.toList.flatMap mark))) :=
  toCommand_of_toList rfl

/-- Which letter stands first is not changed by the marks, unless it is the underscore. -/
theorem head?_flatMap_mark {letter : CodePoint} (hletter : letter ≠ '_')
    (hmark : isMark letter = false)
    (row : List CodePoint) : (row.flatMap mark).head? = some letter ↔ row.head? = some letter := by
  cases row with
  | nil => rfl
  | cons c row =>
    rw [List.flatMap_cons]
    unfold mark
    split
    case h_4 => rfl
    -- a mark begins with an underscore, and is no letter itself
    all_goals
      constructor
      · rintro ⟨⟩
        exact absurd rfl hletter
      · rintro ⟨⟩
        cases hmark

theorem pair_infix_cons {first second c : CodePoint} {row : List CodePoint} :
    [first, second] <:+: c :: row ↔
      (c = first ∧ row.head? = some second) ∨ [first, second] <:+: row := by
  rw [List.infix_cons_iff, List.cons_prefix_cons, List.singleton_prefix_iff_head?_eq_some,
    eq_comm]

/-- Marks that are written are read again exactly if there is no underscore and no dash in front of
a letter that would be taken for a part of a mark. -/
theorem unmark_flatMap_mark_iff (row : List CodePoint) :
    unmark (row.flatMap mark) = row ↔
      .char '_' ∉ row ∧ ¬[.char '-', .char 'b'] <:+: row ∧ ¬[.char '-', .char 'q'] <:+: row := by
  induction row with
  | nil => simp [unmark]
  | cons c row ih =>
    rw [List.mem_cons, pair_infix_cons, pair_infix_cons]
    by_cases hunderscore : c = '_'
    · subst hunderscore
      -- reading never gives an underscore back
      refine iff_of_false (fun h => ?_) fun h => h.1 (.inl rfl)
      exact not_mem_unmark _ (h ▸ List.mem_cons_self)
    by_cases hdash : c = '-'
    · subst hdash
      -- a dash becomes an underscore, and what it is read as depends on the character behind it
      have hrow : (.char '-' :: row).flatMap mark = .char '_' :: row.flatMap mark := rfl
      rw [hrow]
      by_cases hb : row.head? = some (.char 'b')
      · obtain ⟨row, rfl⟩ := List.head?_eq_some_iff.1 hb
        exact iff_of_false (fun h => absurd (List.head_eq_of_cons_eq h) (by decide))
          fun h => h.2.1 (.inl ⟨rfl, rfl⟩)
      by_cases hq : row.head? = some (.char 'q')
      · obtain ⟨row, rfl⟩ := List.head?_eq_some_iff.1 hq
        exact iff_of_false (fun h => absurd (List.head_eq_of_cons_eq h) (by decide))
          fun h => h.2.2 (.inl ⟨rfl, rfl⟩)
      rw [unmark_underscore, List.cons_inj_right, ih]
      · simp [hb, hq]
      · rwa [Ne, head?_flatMap_mark (by decide) (by decide)]
      · rwa [Ne, head?_flatMap_mark (by decide) (by decide)]
    · -- any other character is read as itself, a mark from its two characters
      have hstep : unmark ((c :: row).flatMap mark) = c :: unmark (row.flatMap mark) := by
        rw [List.flatMap_cons]
        unfold mark
        split
        · exact absurd rfl hdash
        · rfl
        · rfl
        · exact unmark_cons hunderscore _
      rw [hstep, List.cons_inj_right, ih]
      simp [hdash, Ne.symm hunderscore]

/-- A command's name is always read back from that of its function as some name. It is the name
itself exactly if that has no underscore, which comes back as a dash, and no dash in front of `b` or
`q`, with which it comes back as a mark. -/
theorem name_read_back (name : Text) :
    ∃ back, toCommand (ofCommand name) = .ok back ∧
      (back = name ↔
        .char '_' ∉ name.toList ∧ ¬[.char '-', .char 'b'] <:+: name.toList ∧
          ¬[.char '-', .char 'q'] <:+: name.toList) := by
  refine ⟨_, toCommand_ofCommand name, ?_⟩
  rw [← unmark_flatMap_mark_iff, ← Text.toList_inj, Text.toList_ofList]

/-- A dash and the letter behind it are read as a mark. -/
example : toCommand (ofCommand "clear-buffer") = .ok "clear!uffer" := rfl

end OperatorName

end StackShell
