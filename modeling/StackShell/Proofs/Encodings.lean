import Mathlib.Data.List.TakeWhile
import StackShell.Failure
import StackShell.Text.Ansi

/-!
# Texts that can be written

A strict stream takes exactly the texts of strings, those without a surrogate that stands alone
(`Text.encode_eq_ok_iff`), and what it takes is the text itself. Parts of such a text are such
texts.
-/

namespace StackShell.Text

/-- Whether a text holds no surrogate that stands alone. -/
def Encodable (text : Text) : Prop :=
  ∀ c ∈ text.toList, c.isChar = true

instance (text : Text) : Decidable text.Encodable :=
  inferInstanceAs (Decidable (∀ c ∈ text.toList, c.isChar = true))

theorem encodable_ofString (s : String) : (s : Text).Encodable := by
  intro c hc
  obtain ⟨_, -, rfl⟩ := List.mem_map.1 hc
  rfl

/-- A text without surrogates is that of a string. -/
theorem Encodable.exists_string {text : Text} (h : text.Encodable) : ∃ s : String, text = s := by
  obtain ⟨row⟩ := text
  have hrow : ∃ chars : List Char, row = chars.map CodePoint.char := by
    induction row with
    | nil => exact ⟨[], rfl⟩
    | cons c row ih =>
      obtain ⟨hc, hrow⟩ := List.forall_mem_cons.1 h
      obtain ⟨chars, rfl⟩ := ih hrow
      cases c with
      | char c => exact ⟨c :: chars, rfl⟩
      | lone offset => cases hc
  obtain ⟨chars, rfl⟩ := hrow
  exact ⟨String.ofList chars, by rw [ofString, String.toList_ofList]⟩

theorem encode_ofString (s : String) : (s : Text).encode = .ok s := by
  have hrest : (s : Text).toList.dropWhile CodePoint.isChar = [] :=
    List.dropWhile_eq_nil_iff.2 (encodable_ofString s)
  have hchars : (s : Text).toList.filterMap CodePoint.char? = s.toList := by
    rw [toList_ofString, List.filterMap_map]
    exact List.filterMap_some
  rw [encode, hrest, hchars, String.ofList_toList]

/-- A text is written as a string only if it is the text of that string. -/
theorem encode_eq_ok_iff {text : Text} {s : String} : text.encode = .ok s ↔ text = s := by
  refine ⟨fun h => ?_, fun h => h ▸ encode_ofString s⟩
  have hnil : text.toList.dropWhile CodePoint.isChar = [] := by
    unfold encode at h
    split at h
    · cases h
    · next hother =>
      -- what is left begins with a code point that is no character
      cases hrest : text.toList.dropWhile CodePoint.isChar with
      | nil => rfl
      | cons c rest =>
        have hc : c.isChar = false := by
          have hhead := List.head_dropWhile_not CodePoint.isChar (l := text.toList)
            (by simp [hrest])
          simpa [hrest] using hhead
        cases c with
        | char c => cases hc
        | lone offset => exact absurd hrest (hother offset rest)
  obtain ⟨t, rfl⟩ := Encodable.exists_string (List.dropWhile_eq_nil_iff.1 hnil)
  rw [encode_ofString] at h
  exact congrArg ofString (Except.ok.inj h)

theorem Encodable.exists_encode {text : Text} (h : text.Encodable) :
    ∃ s : String, text.encode = .ok s := by
  obtain ⟨s, rfl⟩ := h.exists_string
  exact ⟨s, encode_ofString s⟩

theorem encode_of_not_encodable {text : Text} (h : ¬text.Encodable) :
    ∃ surrogates, text.encode = .error surrogates := by
  cases hencode : text.encode with
  | ok s => exact absurd (encode_eq_ok_iff.1 hencode ▸ encodable_ofString s) h
  | error surrogates => exact ⟨surrogates, rfl⟩

theorem written_of_not_encodable {text : Text} (h : ¬text.Encodable) :
    ∃ surrogates, text.written = .error (.unencodable surrogates) := by
  obtain ⟨surrogates, hencode⟩ := encode_of_not_encodable h
  exact ⟨surrogates, by rw [written, hencode]; rfl⟩

theorem written_eq_error {text : Text} {fault : Fault} (h : text.written = .error fault) :
    ∃ surrogates, fault = .unencodable surrogates := by
  unfold written at h
  cases hencode : text.encode with
  | ok s => simp [hencode, Except.mapError] at h
  | error surrogates =>
    rw [hencode] at h
    cases h
    exact ⟨surrogates, rfl⟩

theorem written_eq_ok_iff {text : Text} {s : String} : text.written = .ok s ↔ text = s := by
  rw [written, ← encode_eq_ok_iff]
  cases text.encode <;> simp [Except.mapError]

theorem Encodable.exists_written {text : Text} (h : text.Encodable) :
    ∃ s : String, text.written = .ok s ∧ text = s := by
  obtain ⟨s, hs⟩ := h.exists_string
  exact ⟨s, written_eq_ok_iff.2 hs, hs⟩

/-- Fewer characters are written if all are. -/
theorem Encodable.of_sublist {text part : Text} (h : text.Encodable)
    (hpart : part.toList.Sublist text.toList) : part.Encodable :=
  fun c hc => h c (hpart.subset hc)

theorem ControlKind.suffix_of_after? {kind : ControlKind} {row tail : List CodePoint}
    (h : kind.after? row = some tail) : tail <:+ row := by
  unfold after? at h
  split at h
  · next rest =>
    split at h
    · next c t heq =>
      have hsuffix := (List.dropWhile_suffix kind.isIntermediate).trans
        (List.dropWhile_suffix kind.isParameter (l := rest))
      rw [heq] at hsuffix
      split at h
      · cases h
        exact ((List.suffix_cons c tail).trans hsuffix).trans
          ((List.suffix_cons _ rest).trans (List.suffix_cons _ _))
      · cases h
    · cases h
  · cases h

/-- What is left of a text without its control sequences is in the text. -/
theorem ControlKind.stripChars_sublist (kind : ControlKind) (row : List CodePoint) :
    (kind.stripChars row).Sublist row := by
  fun_induction kind.stripChars row with
  | case1 row tail hafter ih => exact ih.trans (suffix_of_after? hafter).sublist
  | case2 => exact .slnil
  | case3 c rest _ ih => exact ih.cons_cons c

theorem Encodable.strip {text : Text} (h : text.Encodable) (kind : ControlKind) :
    (kind.strip text).Encodable :=
  h.of_sublist (kind.stripChars_sublist text.toList)

theorem Encodable.append {a b : Text} (ha : a.Encodable) (hb : b.Encodable) : (a ++ b).Encodable :=
  List.forall_mem_append.2 ⟨ha, hb⟩

end StackShell.Text
