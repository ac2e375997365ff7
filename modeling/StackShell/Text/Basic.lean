import StackShell.Text.CodePoint

/-!
# Texts

A text is a row of code points. A string is a text in which no surrogate stands alone.
-/

namespace StackShell

/-- A row of code points. -/
structure Text where
  ofList ::
  toList : List CodePoint
deriving DecidableEq

namespace Text

/-- The text of a string. -/
@[coe]
def ofString (s : String) : Text :=
  ofList (s.toList.map CodePoint.char)

instance : Coe String Text := ⟨ofString⟩

instance : Inhabited Text := ⟨""⟩

/-- The text of one code point. -/
def singleton (c : CodePoint) : Text :=
  ofList [c]

instance : Append Text := ⟨fun a b => ofList (a.toList ++ b.toList)⟩

/-- How many code points a text has. -/
def length (text : Text) : Nat :=
  text.toList.length

/-- Whether a text has no code points. -/
def isEmpty (text : Text) : Bool :=
  text.toList.isEmpty

/-- Whether a code point occurs in a text. -/
def contains (text : Text) (c : CodePoint) : Bool :=
  text.toList.contains c

/-- Texts one behind the other. -/
def join (texts : List Text) : Text :=
  ofList (texts.flatMap toList)

/-- Texts one behind the other, with a separator between them. -/
def intercalate (separator : Text) (texts : List Text) : Text :=
  ofList (separator.toList.intercalate (texts.map toList))

/-- Texts are ordered by the numbers of their code points, from the first difference on. -/
instance : LT Text := ⟨fun a b => a.toList.map CodePoint.toNat < b.toList.map CodePoint.toNat⟩

instance (a b : Text) : Decidable (a < b) :=
  inferInstanceAs (Decidable (a.toList.map CodePoint.toNat < b.toList.map CodePoint.toNat))

/-- The code points of a number in decimal digits. -/
def digits (n : Nat) : List CodePoint :=
  (Nat.toDigits 10 n).map CodePoint.char

@[simp]
theorem toList_ofList (row : List CodePoint) : (ofList row).toList = row :=
  rfl

@[simp]
theorem ofList_toList (text : Text) : ofList text.toList = text :=
  rfl

theorem toList_inj {a b : Text} : a.toList = b.toList ↔ a = b := by
  cases a
  cases b
  simp

theorem ofList_injective : Function.Injective ofList := fun _ _ h => congrArg toList h

@[simp]
theorem toList_append (a b : Text) : (a ++ b).toList = a.toList ++ b.toList :=
  rfl

theorem ofList_append (a b : List CodePoint) : ofList (a ++ b) = ofList a ++ ofList b :=
  rfl

theorem append_assoc (a b c : Text) : a ++ b ++ c = a ++ (b ++ c) :=
  toList_inj.1 (List.append_assoc ..)

@[simp]
theorem toList_ofString (s : String) : (s : Text).toList = s.toList.map CodePoint.char :=
  rfl

theorem toList_empty : ("" : Text).toList = [] :=
  rfl

@[simp]
theorem append_empty (text : Text) : text ++ "" = text :=
  toList_inj.1 (List.append_nil _)

@[simp]
theorem empty_append (text : Text) : "" ++ text = text :=
  rfl

theorem append_right_inj (a : Text) {b c : Text} : a ++ b = a ++ c ↔ b = c := by
  rw [← toList_inj, ← toList_inj, toList_append, toList_append, List.append_cancel_left_eq]

@[simp]
theorem toList_singleton (c : CodePoint) : (singleton c).toList = [c] :=
  rfl

@[simp]
theorem length_ofList (row : List CodePoint) : (ofList row).length = row.length :=
  rfl

theorem toList_eq_nil_iff {text : Text} : text.toList = [] ↔ text = "" := by
  rw [← toList_inj, toList_empty]

theorem isEmpty_iff {text : Text} : text.isEmpty = true ↔ text = "" := by
  rw [isEmpty, List.isEmpty_iff, toList_eq_nil_iff]

@[simp]
theorem toList_join (texts : List Text) : (join texts).toList = texts.flatMap toList :=
  rfl

@[simp]
theorem toList_intercalate (separator : Text) (texts : List Text) :
    (intercalate separator texts).toList = separator.toList.intercalate (texts.map toList) :=
  rfl

@[simp]
theorem intercalate_singleton (separator text : Text) : intercalate separator [text] = text :=
  toList_inj.1 (by simp)

theorem intercalate_cons_of_ne_nil {separator text : Text} {texts : List Text} (h : texts ≠ []) :
    intercalate separator (text :: texts) = text ++ separator ++ intercalate separator texts := by
  obtain ⟨next, others, rfl⟩ := List.exists_cons_of_ne_nil h
  exact toList_inj.1 (by simp [List.intercalate_cons_cons])

@[simp]
theorem ofString_append (s t : String) : ofString (s ++ t) = ofString s ++ ofString t :=
  toList_inj.1 (by simp [ofString])

theorem ofString_injective : Function.Injective ofString := fun s t h => by
  have hchars : s.toList.map CodePoint.char = t.toList.map CodePoint.char := ofList_injective h
  exact String.toList_inj.1 ((List.map_inj_right fun _ _ => CodePoint.char.inj).1 hchars)

@[simp]
theorem ofString_inj {s t : String} : (s : Text) = t ↔ s = t :=
  ⟨fun h => ofString_injective h, congrArg ofString⟩

end Text

end StackShell
