import StackShell.Proofs.Documents.Leaves
import StackShell.Proofs.Results

/-!
# Documents are read back

A document in which no integer is too long and no object has a name twice is read back from its
text, in every layout that fills lines with blanks only (`read_write`).

The layouts differ in the blanks before, between and behind the parts of a list or an object. The
induction over the document speaks about any such blanks and about any text that follows, and the
fuel of the reader is bounded by the length of what is read.
-/

namespace StackShell.Document

open Decimal

/-! ## Documents that can be read back -/

mutual

/-- Whether no integer of a document is too long and no object has a name twice. -/
def Faithful : Document → Prop
  | .null | .bool _ | .float _ | .string _ => True
  | .int n => n.natAbs < digitBound
  | .list items => AllFaithful items
  | .object fields => (fields.map Field.name).Nodup ∧ FieldsFaithful fields
termination_by structural x => x

/-- Whether all documents of a list are faithful. -/
def AllFaithful : List Document → Prop
  | [] => True
  | d :: rest => Faithful d ∧ AllFaithful rest
termination_by structural x => x

/-- Whether the document of a field is faithful. -/
def FieldFaithful : Field → Prop
  | .mk _ value => Faithful value
termination_by structural x => x

/-- Whether the documents of all fields are faithful. -/
def FieldsFaithful : List Field → Prop
  | [] => True
  | f :: rest => FieldFaithful f ∧ FieldsFaithful rest
termination_by structural x => x

end

theorem faithful_int (n : Int) : (Document.int n).Faithful ↔ n.natAbs < digitBound := by
  rw [Faithful]

/-! ## Layouts -/

/-- A text of blanks only. -/
def Blank (text : List CodePoint) : Prop :=
  ∀ c ∈ text, isSpace c = true

theorem blank_nil : Blank [] := by
  intro c hc
  cases hc

/-- A layout that fills lines with blanks only. -/
def Style.Blank : Style → Prop
  | .line => True
  | .block indent => Document.Blank indent.toList

theorem skip_of_blank {blanks text : List CodePoint} (hblanks : Blank blanks)
    (htext : Starts text) :
    skip (blanks ++ text) = text := by
  obtain ⟨c, row, rfl, hc, -⟩ := htext
  rw [skip, List.dropWhile_append_of_pos hblanks, List.dropWhile_cons_of_neg (by simp [hc])]

/-- The parts of a list or an object, with commas and blanks between them. -/
def joined (gap : List CodePoint) : List (List CodePoint) → List CodePoint
  | [] => []
  | [part] => part
  | part :: rest => part ++ .char ',' :: (gap ++ joined gap rest)

theorem blank_newLine {indent : Text} (h : Blank indent.toList) (level : Nat) :
    Blank (newLine indent level).toList := by
  intro c hc
  rw [newLine, Text.toList_append, Text.toList_join] at hc
  obtain hc | hc := List.mem_append.1 hc
  · obtain rfl : c = '\n' := by simpa using hc
    decide
  · obtain ⟨s, hs, hcs⟩ := List.mem_flatMap.1 hc
    rw [List.eq_of_mem_replicate hs] at hcs
    exact h c hcs

theorem intercalate_eq_joined (gap : List CodePoint) (parts : List (List CodePoint)) :
    (.char ',' :: gap).intercalate parts = joined gap parts := by
  induction parts with
  | nil => rfl
  | cons part rest ih =>
    cases rest with
    | nil => exact List.intercalate_singleton
    | cons next rest =>
      rw [List.intercalate_cons_cons, ih]
      simp [joined]

/-- A row of parts between brackets: blanks of some kind before, between and behind the parts. -/
theorem Style.exists_enclose {style : Style} (h : style.Blank) (level : Nat)
    (opening closing : Text) :
    ∃ first gap last, Document.Blank first ∧ Document.Blank gap ∧ Document.Blank last ∧
      ∀ parts : List Text, parts ≠ [] → (style.enclose level opening closing parts).toList =
        opening.toList ++ (first ++ (joined gap (parts.map Text.toList) ++
          (last ++ closing.toList))) := by
  cases style with
  | line =>
    refine ⟨[], [.char ' '], [], blank_nil, ?_, blank_nil, ?_⟩
    · intro c hc
      rw [List.mem_singleton.1 hc]
      decide
    · intro parts hne
      obtain ⟨part, rest, rfl⟩ := List.exists_cons_of_ne_nil hne
      rw [← intercalate_eq_joined]
      simp [enclose, Text.toList_intercalate]
  | block indent =>
    refine ⟨_, _, _, blank_newLine h (level + 1), blank_newLine h (level + 1),
      blank_newLine h level, ?_⟩
    intro parts hne
    obtain ⟨part, rest, rfl⟩ := List.exists_cons_of_ne_nil hne
    rw [← intercalate_eq_joined]
    simp [enclose, Text.toList_intercalate]

/-! ## Parts -/

/-- A text that is read as the document, whatever follows it, with fuel for its length. -/
structure ReadsBack (d : Document) (text : List CodePoint) : Prop where
  starts : Starts text
  reads : ∀ fuel rest, text.length ≤ fuel → Ends rest →
    readValue fuel (text ++ rest) = .ok (d, rest)

/-- A text that is read as the field: its name, a colon and its document. -/
structure FieldReadsBack (f : Field) (text : List CodePoint) : Prop where
  split : ∃ value, text = (quote f.name).toList ++ (.char ':' :: .char ' ' :: value) ∧
    ReadsBack f.value value

theorem ends_cons {c : CodePoint} (h : c = ',' ∨ c = ']' ∨ c = '\x7d') (rest : List CodePoint) :
    Ends (c :: rest) := by
  intro d hd
  cases hd
  obtain rfl | rfl | rfl := h <;> decide

theorem ends_of_blank {blanks rest : List CodePoint} (hblanks : Blank blanks) (hrest : Ends rest) :
    Ends (blanks ++ rest) := by
  cases blanks with
  | nil => exact hrest
  | cons c blanks =>
    intro d hd
    cases hd
    have hc := hblanks c List.mem_cons_self
    simp only [isSpace, Bool.or_eq_true, beq_iff_eq] at hc
    obtain ((rfl | rfl) | rfl) | rfl := hc <;> decide

/-- Blanks are passed over up to a comma or a closing bracket. -/
theorem skip_of_blank_cons {blanks : List CodePoint} (hblanks : Blank blanks) {c : CodePoint}
    (hc : isSpace c = false) (rest : List CodePoint) : skip (blanks ++ c :: rest) = c :: rest := by
  rw [skip, List.dropWhile_append_of_pos hblanks, List.dropWhile_cons_of_neg (by simp [hc])]

theorem Starts.append {text : List CodePoint} (h : Starts text) (rest : List CodePoint) :
    Starts (text ++ rest) := by
  obtain ⟨c, row, rfl, hc⟩ := h
  exact ⟨c, row ++ rest, rfl, hc⟩

theorem FieldReadsBack.starts {f : Field} {text : List CodePoint} (h : FieldReadsBack f text) :
    Starts text := by
  obtain ⟨value, rfl, -⟩ := h.split
  rw [toList_quote]
  exact ⟨'"', _, rfl, by decide⟩

/-- A row of parts starts as its first part does. -/
theorem starts_joined (gap : List CodePoint) {part : List CodePoint} (h : Starts part)
    (parts : List (List CodePoint)) :
    Starts (joined gap (part :: parts)) := by
  obtain ⟨c, row, rfl, hc⟩ := h
  cases parts with
  | nil => exact ⟨c, row, rfl, hc⟩
  | cons next parts => exact ⟨c, _, rfl, hc⟩

/-! ## Rows of parts -/

section

variable {fuel : Nat} {text rest next after : List CodePoint} {d : Document} {name : Text}
  {items : List Document} {fields : List Field}

theorem readItems_last (hvalue : readValue fuel text = .ok (d, rest))
    (hskip : skip rest = .char ']' :: after) : readItems (fuel + 1) text = .ok ([d], after) := by
  rw [readItems, hvalue]
  simp only [bind, Except.bind, hskip]

theorem readItems_more (hvalue : readValue fuel text = .ok (d, rest))
    (hskip : skip rest = .char ',' :: next)
    (hitems : readItems fuel (skip next) = .ok (items, after)) :
    readItems (fuel + 1) text = .ok (d :: items, after) := by
  rw [readItems, hvalue]
  simp only [bind, Except.bind, hskip, hitems]
  rfl

/-- A field is read up to what follows its document. -/
theorem readFields_eq {value : List CodePoint} (hvalue : readValue fuel value = .ok (d, rest))
    (hstart : Starts value) :
    readFields (fuel + 1) fields ((quote name).toList ++ .char ':' :: .char ' ' :: value) =
      match skip rest with
      | .char '\x7d' :: rest => .ok (putField name d fields, rest)
      | .char ',' :: rest => readFields fuel (putField name d fields) (skip rest)
      | rest => .error (.problem .comma rest) := by
  have hblank : Blank [.char ' '] := by
    intro c hc
    rw [List.mem_singleton.1 hc]
    decide
  have htext : (quote name).toList ++ .char ':' :: .char ' ' :: value =
      .char '"' ::
        (name.toList.flatMap escapeChar ++ .char '"' :: .char ':' :: .char ' ' :: value) := by
    simp [toList_quote]
  rw [htext, readFields, readString_quote]
  show (readValue fuel (skip ([.char ' '] ++ value)) >>= _) = _
  rw [skip_of_blank hblank hstart, hvalue]
  rfl

end

/-- The items of a list are read up to its closing bracket. -/
theorem readItems_joined {gap last rest : List CodePoint} (hgap : Blank gap) (hlast : Blank last)
    {items : List Document} {parts : List (List CodePoint)} (h : List.Forall₂ ReadsBack items parts)
    (hne : items ≠ []) {fuel : Nat} (hfuel : (joined gap parts).length < fuel) :
    readItems fuel (joined gap parts ++ (last ++ .char ']' :: rest)) = .ok (items, rest) := by
  induction h generalizing fuel with
  | nil => exact absurd rfl hne
  | @cons d part items parts hd hrest ih =>
    obtain ⟨fuel, rfl⟩ := Nat.exists_eq_succ_of_ne_zero (Nat.ne_zero_of_lt hfuel)
    cases hrest with
    | nil =>
      have hlength : part.length ≤ fuel := by
        simp only [joined] at hfuel
        omega
      exact readItems_last
        (hd.reads fuel _ hlength (ends_of_blank hlast (ends_cons (by simp) rest)))
        (skip_of_blank_cons hlast (by decide) rest)
    | @cons d' part' items parts hd' hrest =>
      simp only [joined, List.length_append, List.length_cons] at hfuel
      have hsplit : joined gap (part :: part' :: parts) ++ (last ++ .char ']' :: rest) =
          part ++ .char ',' :: (gap ++
            (joined gap (part' :: parts) ++ (last ++ .char ']' :: rest))) := by
        simp [joined]
      rw [hsplit]
      refine readItems_more (hd.reads fuel _ (by omega) (ends_cons (by simp) _))
        (skip_of_blank_cons blank_nil (by decide) _) ?_
      rw [skip_of_blank hgap ((starts_joined gap hd'.starts parts).append _)]
      exact ih (by simp) (by omega)

/-- A field that is not there yet is put at the end. -/
theorem putField_of_not_mem {name : Text} {d : Document} {fields : List Field}
    (h : name ∉ fields.map Field.name) : putField name d fields = fields ++ [.mk name d] := by
  induction fields with
  | nil => rfl
  | cons f fields ih =>
    obtain ⟨key, old⟩ := f
    rw [List.map_cons, List.mem_cons, not_or] at h
    have hkey : (key == name) = false := beq_eq_false_iff_ne.2 (Ne.symm h.1)
    rw [putField, hkey, if_neg (by decide), ih h.2]
    rfl

/-- The fields of an object are read up to its closing brace, behind those that were read before. -/
theorem readFields_joined {gap last rest : List CodePoint} (hgap : Blank gap) (hlast : Blank last)
    {fields : List Field} {parts : List (List CodePoint)}
    (h : List.Forall₂ FieldReadsBack fields parts) (hne : fields ≠ []) {fuel : Nat}
    (hfuel : (joined gap parts).length < fuel) {earlier : List Field}
    (hnames : ((earlier ++ fields).map Field.name).Nodup) :
    readFields fuel earlier (joined gap parts ++ (last ++ .char '\x7d' :: rest)) =
      .ok (earlier ++ fields, rest) := by
  induction h generalizing fuel earlier with
  | nil => exact absurd rfl hne
  | @cons f part fields parts hf hrest ih =>
    obtain ⟨fuel, rfl⟩ := Nat.exists_eq_succ_of_ne_zero (Nat.ne_zero_of_lt hfuel)
    obtain ⟨value, rfl, hd⟩ := hf.split
    obtain ⟨name, d⟩ := f
    -- Names differ, so a field is put behind the earlier ones and replaces none.
    have hfresh : name ∉ earlier.map Field.name := by
      intro hmem
      rw [List.map_append, List.map_cons] at hnames
      exact (List.nodup_append.1 hnames).2.2 name hmem name List.mem_cons_self rfl
    cases hrest with
    | nil =>
      have hlength : value.length ≤ fuel := by
        simp only [joined, List.length_append, List.length_cons] at hfuel
        omega
      have hvalue := hd.reads fuel _ hlength
        (ends_of_blank hlast (ends_cons (.inr (.inr rfl)) rest))
      show readFields (fuel + 1) earlier
        (((quote name).toList ++ .char ':' :: .char ' ' :: value) ++
          (last ++ .char '\x7d' :: rest)) = _
      rw [List.append_assoc, List.cons_append, List.cons_append,
        readFields_eq hvalue (hd.starts.append _), skip_of_blank_cons hlast (by decide) rest,
        putField_of_not_mem hfresh]
      rfl
    | @cons f' part' fields parts hf' hrest =>
      simp only [joined, List.length_append, List.length_cons] at hfuel
      have hvalue := hd.reads fuel (.char ',' :: (gap ++ (joined gap (part' :: parts) ++
        (last ++ .char '\x7d' :: rest)))) (by omega) (ends_cons (.inl rfl) _)
      have hsplit : joined gap
          (((quote name).toList ++ .char ':' :: .char ' ' :: value) :: part' :: parts) ++
          (last ++ .char '\x7d' :: rest) =
            (quote name).toList ++ .char ':' :: .char ' ' :: (value ++ .char ',' ::
              (gap ++ (joined gap (part' :: parts) ++ (last ++ .char '\x7d' :: rest)))) := by
        simp [joined]
      have hcomma := skip_of_blank_cons (c := ',') blank_nil (by decide)
        (gap ++ (joined gap (part' :: parts) ++ (last ++ .char '\x7d' :: rest)))
      rw [List.nil_append] at hcomma
      rw [List.append_cons] at hnames
      show readFields (fuel + 1) earlier (joined gap (((quote name).toList ++
        .char ':' :: .char ' ' :: value) :: part' :: parts) ++ (last ++ .char '\x7d' :: rest)) = _
      rw [hsplit, readFields_eq hvalue (hd.starts.append _), hcomma]
      show readFields fuel (putField name d earlier)
        (skip (gap ++ (joined gap (part' :: parts) ++ (last ++ .char '\x7d' :: rest)))) = _
      rw [skip_of_blank hgap ((starts_joined gap hf'.starts parts).append _),
        putField_of_not_mem hfresh, ih (by simp) (by omega) hnames, ← List.append_cons]

/-! ## Whole documents -/

theorem Style.toList_enclose_nil (style : Style) (level : Nat) (opening closing : Text) :
    (style.enclose level opening closing []).toList = opening.toList ++ closing.toList := by
  cases style <;> simp [enclose]

theorem readValue_list {fuel : Nat} {text inner : List CodePoint} (hskip : skip text = inner)
    (hstart : Starts inner) :
    readValue (fuel + 1) (.char '[' :: text) =
      (readItems fuel inner).map fun found => (.list found.1, found.2) := by
  obtain ⟨c, row, rfl, -, hc, -, -⟩ := hstart
  rw [readValue]
  split
  · next h =>
    rw [hskip] at h
    exact absurd (List.cons.inj h).1 hc
  · rw [hskip]

theorem readValue_object {fuel : Nat} {text inner : List CodePoint} (hskip : skip text = inner)
    (hstart : Starts inner) :
    readValue (fuel + 1) (.char '\x7b' :: text) =
      (readFields fuel [] inner).map fun found => (.object found.1, found.2) := by
  obtain ⟨c, row, rfl, -, -, hc, -⟩ := hstart
  rw [readValue]
  split
  · next h =>
    rw [hskip] at h
    exact absurd (List.cons.inj h).1 hc
  · rw [hskip]

/-- A list is read back from its items. -/
theorem readsBack_list {style : Style} (hstyle : style.Blank) (level : Nat)
    {items : List Document} {parts : List Text}
    (h : List.Forall₂ ReadsBack items (parts.map Text.toList)) :
    ReadsBack (.list items) (style.enclose level "[" "]" parts).toList := by
  cases parts with
  | nil =>
    cases h
    rw [Style.toList_enclose_nil]
    refine ⟨⟨'[', [.char ']'], rfl, by decide⟩, fun fuel rest hfuel _ => ?_⟩
    obtain ⟨fuel, rfl⟩ : ∃ n, fuel = n + 1 := ⟨fuel - 1, by simp at hfuel; omega⟩
    rfl
  | cons part parts =>
    obtain ⟨first, gap, last, hfirst, hgap, hlast, htext⟩ :=
      Style.exists_enclose hstyle level "[" "]"
    rw [htext (part :: parts) (by simp)]
    generalize hparts : (part :: parts).map Text.toList = texts at h ⊢
    refine ⟨⟨'[', _, rfl, by decide⟩, fun fuel rest hfuel _ => ?_⟩
    obtain ⟨fuel, rfl⟩ : ∃ n, fuel = n + 1 := ⟨fuel - 1, by simp at hfuel; omega⟩
    have hlength : (joined gap texts).length < fuel := by
      simp at hfuel
      omega
    cases h with
    | nil => cases hparts
    | @cons d text items texts hd hrest =>
      have hstart := (starts_joined gap hd.starts texts).append (last ++ .char ']' :: rest)
      show readValue (fuel + 1) (.char '[' :: ((first ++ (joined gap (text :: texts) ++
        (last ++ [.char ']']))) ++ rest)) = _
      rw [List.append_assoc, List.append_assoc, List.append_assoc, List.singleton_append,
        readValue_list (skip_of_blank hfirst hstart) hstart,
        readItems_joined hgap hlast (.cons hd hrest) (by simp) hlength]
      rfl

/-- An object is read back from its fields. -/
theorem readsBack_object {style : Style} (hstyle : style.Blank) (level : Nat)
    {fields : List Field} {parts : List Text} (hnames : (fields.map Field.name).Nodup)
    (h : List.Forall₂ FieldReadsBack fields (parts.map Text.toList)) :
    ReadsBack (.object fields) (style.enclose level "\x7b" "\x7d" parts).toList := by
  cases parts with
  | nil =>
    cases h
    rw [Style.toList_enclose_nil]
    refine ⟨⟨'\x7b', [.char '\x7d'], rfl, by decide⟩, fun fuel rest hfuel _ => ?_⟩
    obtain ⟨fuel, rfl⟩ : ∃ n, fuel = n + 1 := ⟨fuel - 1, by simp at hfuel; omega⟩
    rfl
  | cons part parts =>
    obtain ⟨first, gap, last, hfirst, hgap, hlast, htext⟩ :=
      Style.exists_enclose hstyle level "\x7b" "\x7d"
    rw [htext (part :: parts) (by simp)]
    generalize hparts : (part :: parts).map Text.toList = texts at h ⊢
    refine ⟨⟨'\x7b', _, rfl, by decide⟩, fun fuel rest hfuel _ => ?_⟩
    obtain ⟨fuel, rfl⟩ : ∃ n, fuel = n + 1 := ⟨fuel - 1, by simp at hfuel; omega⟩
    have hlength : (joined gap texts).length < fuel := by
      simp at hfuel
      omega
    cases h with
    | nil => cases hparts
    | @cons f text fields texts hf hrest =>
      have hstart := (starts_joined gap hf.starts texts).append (last ++ .char '\x7d' :: rest)
      show readValue (fuel + 1) (.char '\x7b' :: ((first ++ (joined gap (text :: texts) ++
        (last ++ [.char '\x7d']))) ++ rest)) = _
      rw [List.append_assoc, List.append_assoc, List.append_assoc, List.singleton_append,
        readValue_object (skip_of_blank hfirst hstart) hstart,
        readFields_joined hgap hlast (.cons hf hrest) (by simp) hlength hnames]
      rfl

theorem readsBack_string (text : Text) : ReadsBack (.string text) (quote text).toList := by
  refine ⟨?_, fun fuel rest hfuel _ => ?_⟩
  · rw [toList_quote]
    exact ⟨'"', _, rfl, by decide⟩
  · rw [toList_quote, List.length_cons] at hfuel
    obtain ⟨fuel, rfl⟩ : ∃ n, fuel = n + 1 := ⟨fuel - 1, by omega⟩
    have htext : (quote text).toList ++ rest =
        .char '"' :: (text.toList.flatMap escapeChar ++ .char '"' :: rest) := by
      simp [toList_quote]
    rw [htext, readValue, readString_quote]
    rfl

theorem readsBack_null : ReadsBack .null ("null" : Text).toList := by
  refine ⟨⟨'n', ("ull" : Text).toList, rfl, by decide⟩, fun fuel rest hfuel _ => ?_⟩
  obtain ⟨fuel, rfl⟩ : ∃ n, fuel = n + 1 := ⟨fuel - 1, by simp at hfuel; omega⟩
  rfl

theorem readsBack_bool (b : Bool) :
    ReadsBack (.bool b) (if b then "true" else "false" : Text).toList := by
  cases b with
  | true =>
    refine ⟨⟨'t', ("rue" : Text).toList, rfl, by decide⟩, fun fuel rest hfuel _ => ?_⟩
    obtain ⟨fuel, rfl⟩ : ∃ n, fuel = n + 1 := ⟨fuel - 1, by simp at hfuel; omega⟩
    rfl
  | false =>
    refine ⟨⟨'f', ("alse" : Text).toList, rfl, by decide⟩,
      fun fuel rest hfuel _ => ?_⟩
    obtain ⟨fuel, rfl⟩ : ∃ n, fuel = n + 1 := ⟨fuel - 1, by simp at hfuel; omega⟩
    rfl

theorem textAt_int {style : Style} {level : Nat} {n : Int} {text : Text}
    (h : integerText? n = some text) : textAt style level (.int n) = .ok text := by
  unfold textAt
  rw [h]

theorem readsBack_int {n : Int} (h : n.natAbs < digitBound) :
    ∃ text, integerText? n = some text ∧ ReadsBack (.int n) text.toList := by
  obtain ⟨numeral, htext, hreads⟩ := readValue_int h
  refine ⟨_, htext, ?_, fun fuel rest hfuel hrest => ?_⟩
  · rw [Text.toList_ofList]
    exact starts_numeral numeral
  · obtain ⟨c, row, hrow, -⟩ := starts_numeral numeral
    rw [Text.toList_ofList, hrow, List.length_cons] at hfuel
    obtain ⟨fuel, rfl⟩ : ∃ n, fuel = n + 1 := ⟨fuel - 1, by omega⟩
    rw [Text.toList_ofList]
    exact hreads fuel rest hrest

theorem readsBack_float (x : Float) : ReadsBack (.float x) (floatText x).toList := by
  have hstarts := starts_floatText x
  refine ⟨hstarts, fun fuel rest hfuel hrest => ?_⟩
  obtain ⟨c, row, hrow, -⟩ := hstarts
  rw [hrow, List.length_cons] at hfuel
  obtain ⟨fuel, rfl⟩ : ∃ n, fuel = n + 1 := ⟨fuel - 1, by omega⟩
  exact readValue_float x fuel hrest

mutual

/-- The text of a faithful document exists and is read as the document. -/
theorem exists_textAt {style : Style} (hstyle : style.Blank) (d : Document) (h : d.Faithful)
    (level : Nat) :
    ∃ text, textAt style level d = .ok text ∧ ReadsBack d text.toList := by
  cases d with
  | null => exact ⟨"null", rfl, readsBack_null⟩
  | bool b => exact ⟨_, rfl, readsBack_bool b⟩
  | int n =>
    obtain ⟨text, htext, hreads⟩ := readsBack_int ((faithful_int n).1 h)
    exact ⟨text, textAt_int htext, hreads⟩
  | float x => exact ⟨floatText x, rfl, readsBack_float x⟩
  | string text => exact ⟨quote text, rfl, readsBack_string text⟩
  | list items =>
    obtain ⟨parts, htexts, hreads⟩ := exists_textsAt hstyle items h (level + 1)
    refine ⟨style.enclose level "[" "]" parts, ?_, readsBack_list hstyle level hreads⟩
    show (textsAt style (level + 1) items >>= _) = _
    rw [htexts]
    rfl
  | object fields =>
    obtain ⟨parts, htexts, hreads⟩ := exists_fieldTextsAt hstyle fields h.2 (level + 1)
    refine ⟨style.enclose level "\x7b" "\x7d" parts, ?_,
      readsBack_object hstyle level h.1 hreads⟩
    show (fieldTextsAt style (level + 1) fields >>= _) = _
    rw [htexts]
    rfl

/-- The texts of faithful documents exist and are read as the documents. -/
theorem exists_textsAt {style : Style} (hstyle : style.Blank) (items : List Document)
    (h : AllFaithful items) (level : Nat) :
    ∃ parts, textsAt style level items = .ok parts ∧
      List.Forall₂ ReadsBack items (parts.map Text.toList) := by
  match items, h with
  | [], _ => exact ⟨[], rfl, .nil⟩
  | d :: rest, h =>
    obtain ⟨part, htext, hreads⟩ := exists_textAt hstyle d h.1 level
    obtain ⟨parts, htexts, hrest⟩ := exists_textsAt hstyle rest h.2 level
    refine ⟨part :: parts, ?_, .cons hreads hrest⟩
    rw [textsAt, htext, htexts]
    rfl

/-- The text of a faithful field exists and is read as the field. -/
theorem exists_fieldTextAt {style : Style} (hstyle : style.Blank) (f : Field) (h : FieldFaithful f)
    (level : Nat) :
    ∃ text, fieldTextAt style level f = .ok text ∧ FieldReadsBack f text.toList := by
  match f, h with
  | .mk name value, h =>
    obtain ⟨part, htext, hreads⟩ := exists_textAt hstyle value h level
    refine ⟨quote name ++ ": " ++ part, ?_, ⟨part.toList, ?_, hreads⟩⟩
    · rw [fieldTextAt, htext]
      rfl
    · simp [Field.name]

/-- The texts of faithful fields exist and are read as the fields. -/
theorem exists_fieldTextsAt {style : Style} (hstyle : style.Blank) (fields : List Field)
    (h : FieldsFaithful fields) (level : Nat) :
    ∃ parts, fieldTextsAt style level fields = .ok parts ∧
      List.Forall₂ FieldReadsBack fields (parts.map Text.toList) := by
  match fields, h with
  | [], _ => exact ⟨[], rfl, .nil⟩
  | f :: rest, h =>
    obtain ⟨part, htext, hreads⟩ := exists_fieldTextAt hstyle f h.1 level
    obtain ⟨parts, htexts, hrest⟩ := exists_fieldTextsAt hstyle rest h.2 level
    refine ⟨part :: parts, ?_, .cons hreads hrest⟩
    rw [fieldTextsAt, htext, htexts]
    rfl

end

/-- A text that is read as a document is read as it also with blanks behind it. -/
theorem ReadsBack.read_append {d : Document} {text : Text} (h : ReadsBack d text.toList)
    {blanks : Text} (hblanks : Blank blanks.toList) : read (text ++ blanks) = .ok d := by
  have hends : Ends (blanks.toList ++ []) := by
    refine ends_of_blank hblanks ?_
    intro c hc
    cases hc
  rw [List.append_nil] at hends
  have hskip : skip (text.toList ++ blanks.toList) = text.toList ++ blanks.toList :=
    skip_of_blank blank_nil (h.starts.append _)
  have hrest : skip blanks.toList = [] :=
    List.dropWhile_eq_nil_iff.2 fun c hc => hblanks c hc
  have hvalue := h.reads (2 * (text.toList ++ blanks.toList).length + 2) blanks.toList
    (by rw [List.length_append]; omega) hends
  have hall : readAll (text.toList ++ blanks.toList) = .ok d := by
    obtain ⟨c, row, hrow, -, -, -, hmark⟩ := h.starts.append blanks.toList
    unfold readAll
    split
    · next h =>
      rw [hrow] at h
      exact absurd (List.cons.inj h).1 hmark
    · rw [hskip, hvalue]
      simp only [bind, Except.bind]
      rw [hrest]
      rfl
  rw [read, Text.toList_append, hall]
  rfl

/-- A faithful document has a text, and it is read back from it. -/
theorem read_write {style : Style} (hstyle : style.Blank) {d : Document} (h : d.Faithful) :
    ∃ text, d.write style = .ok text ∧ read text = .ok d := by
  obtain ⟨text, htext, hreads⟩ := exists_textAt hstyle d h 0
  have hblank : Blank ("" : Text).toList := blank_nil
  have hread := hreads.read_append hblank
  rw [Text.append_empty] at hread
  exact ⟨text, htext, hread⟩

end StackShell.Document
