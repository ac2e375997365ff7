import StackShell.CommandLine.Folder
import StackShell.Proofs.Encodings
import StackShell.Proofs.Tables

/-!
# Files that are written and read again

A path leads to a place in a folder by its names alone: whether a string can be written to a file
there does not depend on the string, and once it was written, the same path leads to it
(`Folder.write_ofString_eq_ok_iff`, `Folder.look_withFile`). A text with a surrogate is not written,
and leaves an empty file (`Folder.write_of_not_encodable`).

A new file makes folders of the names on the way to it. The names that a path passes before its end
are folders already, and those at its end do not lead beyond themselves, so that the path is
followed as before.
-/

namespace StackShell

namespace Text

variable {separator : CodePoint}

theorem split_of_not_mem {text : List CodePoint} (h : separator ∉ text) :
    split separator text = [text] := by
  induction text with
  | nil => rfl
  | cons c text ih =>
    rw [List.mem_cons, not_or] at h
    rw [split, if_neg (by simpa using Ne.symm h.1), ih h.2]

theorem split_append {text : List CodePoint} (h : separator ∉ text) (rest : List CodePoint) :
    split separator (text ++ separator :: rest) = text :: split separator rest := by
  induction text with
  | nil =>
    rw [List.nil_append, split, if_pos (beq_self_eq_true separator)]
  | cons c text ih =>
    rw [List.mem_cons, not_or] at h
    rw [List.cons_append, split, if_neg (by simpa using Ne.symm h.1), ih h.2]

/-- A row that was joined by the separator is cut into its pieces again. -/
theorem split_intercalate {row : List (List CodePoint)} (hne : row ≠ [])
    (h : ∀ piece ∈ row, separator ∉ piece) :
    split separator ([separator].intercalate row) = row := by
  induction row with
  | nil => exact absurd rfl hne
  | cons piece row ih =>
    obtain ⟨hpiece, hrow⟩ := List.forall_mem_cons.1 h
    cases row with
    | nil => rw [List.intercalate_singleton, split_of_not_mem hpiece]
    | cons next row =>
      rw [List.intercalate_cons_cons, List.append_assoc, List.singleton_append,
        split_append hpiece, ih (by simp) hrow]

theorem not_mem_of_mem_split {text piece : List CodePoint} (h : piece ∈ split separator text) :
    separator ∉ piece := by
  induction text generalizing piece with
  | nil =>
    rw [List.mem_singleton.1 h]
    exact List.not_mem_nil
  | cons c text ih =>
    rw [split] at h
    split at h
    · rcases List.mem_cons.1 h with rfl | h
      · exact List.not_mem_nil
      · exact ih h
    · next hc =>
      have hne : separator ≠ c := fun heq => hc (by rw [heq, beq_self_eq_true])
      split at h
      · rw [List.mem_singleton.1 h, List.mem_singleton]
        exact hne
      · next first pieces hpieces =>
        rw [hpieces] at ih
        rcases List.mem_cons.1 h with rfl | h
        · rw [List.mem_cons, not_or]
          exact ⟨hne, ih List.mem_cons_self⟩
        · exact ih (List.mem_cons_of_mem _ h)

end Text

/-- The path of the file that is or could be at the end of a path. -/
def PathEnd.file? : PathEnd → Option Text
  | .file path _ | .vacant path => some path
  | .folder | .missing | .blocked => none

namespace Folder

variable {f : Folder} {path key : Text} {text : String} {names : List Text}

/-! ## Names -/

/-- Whether names can be told apart in a path: there is no slash in them. -/
def Proper (names : List Text) : Prop :=
  ∀ name ∈ names, .char '/' ∉ name.toList

theorem proper_pieces (path : Text) : Proper (Text.pieces '/' path) := by
  intro name hname
  obtain ⟨piece, hpiece, rfl⟩ := List.mem_map.1 hname
  rw [Text.toList_ofList]
  exact Text.not_mem_of_mem_split hpiece

theorem proper_start (path : Text) : Proper (start path) := by
  unfold start
  split
  · intro name hname
    rw [List.mem_singleton.1 hname]
    decide
  · intro name hname
    cases hname

theorem Proper.snoc (h : Proper names) {name : Text} (hname : .char '/' ∉ name.toList) :
    Proper (names ++ [name]) := by
  intro other hother
  rcases List.mem_append.1 hother with hmem | hmem
  · exact h other hmem
  · rw [List.mem_singleton.1 hmem]
    exact hname

theorem Proper.holder (h : Proper names) : Proper (holder names) := by
  unfold Folder.holder
  split_ifs
  · exact h
  · exact h.snoc (by decide)
  · exact fun name hname => h name (List.dropLast_subset names hname)

theorem Proper.enter (h : Proper names) {name : Text} (hname : .char '/' ∉ name.toList) :
    Proper (enter names name) := by
  unfold Folder.enter
  split_ifs
  · exact h
  · exact h.holder
  · exact h.snoc hname

/-- The names in a path that was put together from them. -/
theorem pieces_joined (h : Proper names) (hne : names ≠ []) :
    Text.pieces '/' (joined names) = names := by
  have hrow : Text.split '/' (joined names).toList = names.map Text.toList := by
    rw [joined, Text.toList_intercalate]
    refine Text.split_intercalate (by simpa using hne) fun piece hpiece => ?_
    obtain ⟨name, hname, rfl⟩ := List.mem_map.1 hpiece
    exact h name hname
  rw [Text.pieces, hrow, List.map_map]
  exact (List.map_congr_left fun name _ => Text.ofList_toList name).trans (List.map_id names)

/-! ## Reading -/

/-- Whether what stands at the end of a path, if it is a file, is a text. -/
def IsText (f : Folder) (path : Text) : Prop :=
  ∀ key reason, f.look path ≠ .file key (.undecodable reason)

theorem read_of_look {content : Content} (h : f.look path = .file key content)
    (htext : f.IsText path) : ∃ source, f.read path = .ok source := by
  cases content with
  | text text => exact ⟨_, by rw [read, h]⟩
  | undecodable reason => exact absurd h (htext key reason)

theorem look_of_hasFile (h : f.hasFile path = true) :
    ∃ key content, f.look (plainPath path) = .file key content := by
  unfold hasFile at h
  split at h
  · next key content hlook => exact ⟨key, content, hlook⟩
  · cases h

/-! ## Writing -/

/-- Whether a file can be written to depends on its path only, and what is written is a string. -/
theorem write_ofString_eq_ok_iff {f' : Folder} :
    f.write path (text : String) = .ok f' ↔
      ∃ key, (f.look path).file? = some key ∧ f' = f.withFile key text := by
  unfold write
  rw [Text.written_eq_ok_iff.2 rfl]
  cases f.look path <;> simp [PathEnd.file?, eq_comm]

/-- A text with a surrogate is not written, and empties the file. -/
theorem write_of_not_encodable {text : Text} (h : ¬text.Encodable)
    (hkey : (f.look path).file? = some key) :
    ∃ surrogates, f.write path text = .error (.unencodable surrogates, f.withFile key "") := by
  obtain ⟨surrogates, hwritten⟩ := Text.written_of_not_encodable h
  refine ⟨surrogates, ?_⟩
  unfold write
  rw [hwritten]
  cases hlook : f.look path <;> rw [hlook] at hkey <;> cases hkey <;> rfl

theorem isFolder_withFile_of (h : f.isFolder names = true) :
    (f.withFile key text).isFolder names = true := by
  unfold isFolder at h ⊢
  rw [Bool.or_eq_true] at h ⊢
  refine h.imp_right fun hkeys => ?_
  obtain ⟨other, hother, hpieces⟩ := List.any_eq_true.1 hkeys
  exact List.any_eq_true.2 ⟨other, Table.mem_keys_insert.2 (.inr hother), hpieces⟩

/-- A file makes no folder of its own name. -/
theorem isFolder_withFile_joined (hproper : Proper names) (h : f.isFolder names = false) :
    (f.withFile (joined names) text).isFolder names = false := by
  have hne : names ≠ [] := by
    rintro rfl
    simp [isFolder] at h
  unfold isFolder at h ⊢
  rw [Bool.or_eq_false_iff] at h ⊢
  refine ⟨h.1, List.any_eq_false.2 fun other hother => ?_⟩
  rcases Table.mem_keys_insert.1 hother with rfl | hold
  · rw [pieces_joined hproper hne]
    simp
  · exact List.any_eq_false.1 h.2 other hold

/-- Names that lead to the place of a file lead to the file once it is there. -/
theorem follow_withFile {here : List Text} (hhere : Proper here) (hnames : Proper names)
    (h : (f.follow here names).file? = some key) :
    (f.withFile key text).follow here names = .file key (.text text) := by
  induction names generalizing here with
  | nil => cases h
  | cons name rest ih =>
    obtain ⟨hname, hrest⟩ := List.forall_mem_cons.1 hnames
    have hthere : Proper (enter here name) := hhere.enter hname
    rw [follow] at h ⊢
    cases hfolder : f.isFolder (enter here name) with
    | true =>
      rw [hfolder, if_pos rfl] at h
      rw [isFolder_withFile_of hfolder, if_pos rfl]
      exact ih hthere hrest h
    | false =>
      rw [hfolder, if_neg Bool.false_ne_true] at h
      -- nothing but a file can be here, and the path has to end with it
      obtain ⟨rfl, rfl⟩ : rest = [] ∧ key = joined (enter here name) := by
        split at h <;> split at h <;> simp_all [PathEnd.file?]
      rw [isFolder_withFile_joined hthere hfolder, if_neg Bool.false_ne_true]
      have hfound : (f.withFile (joined (enter here name)) text).files.get?
          (joined (enter here name)) = some (.text text) := by
        rw [withFile, Table.get?_insert, if_pos rfl]
      rw [hfound]
      rfl

/-- A path that leads to the place of a file leads to the file once it is there. -/
theorem look_withFile (h : (f.look path).file? = some key) :
    (f.withFile key text).look path = .file key (.text text) := by
  unfold look at h ⊢
  split_ifs at h ⊢ with hempty
  · cases h
  · exact follow_withFile (proper_start path) (proper_pieces path) h

end Folder

end StackShell
