import Mathlib.Tactic.SplitIfs
import StackShell.Table

/-!
# Entries of tables

What the entries and the names of a table are after one or many are inserted, that a table is
rebuilt from its own row of entries, and what becomes of it when each entry is changed.
-/

namespace StackShell

namespace Table

variable {α : Type}

/-- What is found under a name is one of the entries. -/
theorem mem_of_get? {table : Table α} {name : Text} {entry : α}
    (h : table.get? name = some entry) : (name, entry) ∈ table.entries := by
  obtain ⟨entries⟩ := table
  simp only [get?] at h
  induction entries with
  | nil => cases h
  | cons e rest ih =>
    obtain ⟨key, old⟩ := e
    rw [List.lookup_cons] at h
    split at h
    · next hkey =>
      cases h
      rw [eq_of_beq hkey]
      exact List.mem_cons_self
    · exact List.mem_cons_of_mem _ (ih h)

/-- An entry of a row into which one was put is that one or an old one. -/
theorem mem_put {name key : Text} {entry old : α} {entries : List (Text × α)}
    (h : (key, old) ∈ put name entry entries) :
    (key, old) = (name, entry) ∨ (key, old) ∈ entries := by
  induction entries with
  | nil =>
    left
    exact List.mem_singleton.1 h
  | cons e rest ih =>
    obtain ⟨key', old'⟩ := e
    rw [put] at h
    split at h
    · rcases List.mem_cons.1 h with h | h
      · exact .inl h
      · exact .inr (List.mem_cons_of_mem _ h)
    · rcases List.mem_cons.1 h with h | h
      · rw [h]
        exact .inr List.mem_cons_self
      · rcases ih h with h | h
        · exact .inl h
        · exact .inr (List.mem_cons_of_mem _ h)

/-- What is found once an entry was inserted. -/
theorem get?_insert (table : Table α) (key : Text) (entry : α) (name : Text) :
    (table.insert key entry).get? name = if name = key then some entry else table.get? name := by
  obtain ⟨entries⟩ := table
  show (put key entry entries).lookup name = if name = key then some entry else entries.lookup name
  induction entries with
  | nil =>
    rw [put, List.lookup_cons]
    split_ifs with h
    · rw [h, beq_self_eq_true]
    · rw [beq_eq_false_iff_ne.2 h]
  | cons e rest ih =>
    obtain ⟨key', old⟩ := e
    rw [put]
    split_ifs with hkey h h
    · rw [List.lookup_cons, h, beq_self_eq_true]
    · rw [List.lookup_cons, List.lookup_cons, ← eq_of_beq hkey, beq_eq_false_iff_ne.2 h]
    · rw [List.lookup_cons, ih, if_pos h, h, Bool.eq_false_iff.2 hkey]
    · rw [List.lookup_cons, List.lookup_cons, ih, if_neg h]

/-- Putting in an entry adds its name at the end, if it is new. -/
theorem keys_put (name : Text) (entry : α) (entries : List (Text × α)) :
    (put name entry entries).map (·.1) =
      if name ∈ entries.map (·.1) then entries.map (·.1) else entries.map (·.1) ++ [name] := by
  induction entries with
  | nil => rfl
  | cons e rest ih =>
    obtain ⟨key, old⟩ := e
    rw [put]
    by_cases hkey : name = key
    · simp [hkey]
    · rw [if_neg (by simpa using hkey), List.map_cons, ih]
      by_cases hrest : name ∈ rest.map (·.1)
      · simp [hkey, hrest]
      · simp [hkey, hrest]

theorem mem_keys_insert {table : Table α} {key name : Text} {entry : α} :
    name ∈ (table.insert key entry).keys ↔ name = key ∨ name ∈ table.keys := by
  show name ∈ (put key entry table.entries).map (·.1) ↔ _
  rw [keys_put]
  split
  · next hold =>
    constructor
    · exact .inr
    · rintro (rfl | h)
      · exact hold
      · exact h
  · rw [List.mem_append, List.mem_singleton, or_comm]
    rfl

/-- Inserting keeps the names distinct. -/
theorem nodup_keys_insert {table : Table α} (h : table.keys.Nodup) (name : Text) (entry : α) :
    (table.insert name entry).keys.Nodup := by
  show ((put name entry table.entries).map (·.1)).Nodup
  rw [keys_put]
  split
  · exact h
  · next hnew =>
    rw [List.nodup_append]
    refine ⟨h, by simp, ?_⟩
    rintro key hkey _ hname rfl
    rw [List.mem_singleton] at hname
    exact hnew (hname ▸ hkey)

/-- The table with a row of entries, put in from left to right. -/
def insertAll (table : Table α) (row : List (Text × α)) : Table α :=
  row.foldl (fun table e => table.insert e.1 e.2) table

/-- A name that no entry of a row has is not found. -/
theorem lookup_of_not_mem {row : List (Text × α)} {name : Text}
    (h : name ∉ row.map (·.1)) : row.lookup name = none := by
  rw [List.lookup_eq_none_iff]
  rintro ⟨other, _⟩ hmem
  rw [bne_iff_ne]
  rintro rfl
  exact h (List.mem_map_of_mem (f := (·.1)) hmem)

/-- In a row with distinct names each entry is found. -/
theorem lookup_of_mem {row : List (Text × α)} (h : (row.map (·.1)).Nodup)
    {e : Text × α} (he : e ∈ row) : row.lookup e.1 = some e.2 := by
  induction row with
  | nil => cases he
  | cons first row ih =>
    obtain ⟨hfirst, hrow⟩ := List.nodup_cons.1 h
    rw [List.lookup_cons]
    rcases List.mem_cons.1 he with rfl | he
    · rw [beq_self_eq_true]
    · have hne : e.1 ≠ first.1 := fun heq => hfirst (List.mem_map.2 ⟨e, he, heq⟩)
      rw [beq_false_of_ne hne]
      exact ih hrow he

/-- What is found once a row with distinct names was inserted is in the row, or was there. -/
theorem get?_insertAll {row : List (Text × α)} (h : (row.map (·.1)).Nodup) (table : Table α)
    (name : Text) :
    (table.insertAll row).get? name = (row.lookup name).or (table.get? name) := by
  induction row generalizing table with
  | nil => rfl
  | cons e row ih =>
    obtain ⟨key, entry⟩ := e
    obtain ⟨hkey, hrow⟩ := List.nodup_cons.1 h
    have htail : (table.insertAll ((key, entry) :: row)).get? name =
        (row.lookup name).or ((table.insert key entry).get? name) := ih hrow _
    rw [htail, get?_insert, List.lookup_cons]
    by_cases hname : name = key
    · -- the name does not come again, so the entry stays
      have hnone : row.lookup name = none := lookup_of_not_mem (hname ▸ hkey)
      rw [hnone, if_pos hname, hname, beq_self_eq_true]
      rfl
    · rw [if_neg hname, beq_false_of_ne hname]

/-- What is put in from left to right keeps what each insertion keeps. -/
theorem ofList_induction {motive : Table α → Prop} {entries : List (Text × α)}
    (hempty : motive empty)
    (hinsert : ∀ table, ∀ e ∈ entries, motive table → motive (table.insert e.1 e.2)) :
    motive (ofList entries) := by
  unfold ofList
  generalize empty = table at hempty
  induction entries generalizing table with
  | nil => exact hempty
  | cons e entries ih =>
    refine ih (fun table' e' hmem => hinsert table' e' (List.mem_cons_of_mem e hmem)) _ ?_
    exact hinsert table e List.mem_cons_self hempty

/-- The entries of a table are among those of the row that it was made of. -/
theorem mem_of_mem_ofList {entries : List (Text × α)} :
    ∀ e ∈ (ofList entries).entries, e ∈ entries := by
  apply ofList_induction (motive := fun table => ∀ e ∈ table.entries, e ∈ entries)
  · exact fun e hmem => absurd hmem List.not_mem_nil
  · intro table e he ih e' he'
    rcases mem_put he' with heq | hold
    · have heq : e' = e := heq
      rw [heq]
      exact he
    · exact ih e' hold

theorem nodup_keys_ofList (entries : List (Text × α)) : (ofList entries).keys.Nodup := by
  apply ofList_induction (motive := fun table => table.keys.Nodup)
  · exact List.nodup_nil
  · intro table e _ ih
    exact nodup_keys_insert ih e.1 e.2

/-- An entry with a new name goes to the end. -/
theorem put_of_not_mem {name : Text} {entries : List (Text × α)}
    (h : name ∉ entries.map (·.1)) (entry : α) :
    put name entry entries = entries ++ [(name, entry)] := by
  induction entries with
  | nil => rfl
  | cons e rest ih =>
    obtain ⟨key, old⟩ := e
    rw [List.map_cons, List.mem_cons, not_or] at h
    rw [put, if_neg (by simpa using h.1), ih h.2]
    rfl

/-- A row of entries with distinct names is the row of its table. -/
theorem ofList_entries {entries : List (Text × α)} (h : (entries.map (·.1)).Nodup) :
    ofList entries = ⟨entries⟩ := by
  -- the entries before `later` have been put in, in order
  have hfold : ∀ earlier later : List (Text × α), ((earlier ++ later).map (·.1)).Nodup →
      later.foldl (fun (table : Table α) e => table.insert e.1 e.2) ⟨earlier⟩ =
        ⟨earlier ++ later⟩ := by
    intro earlier later
    induction later generalizing earlier with
    | nil =>
      intro _
      rw [List.append_nil]
      rfl
    | cons e later ih =>
      intro hnodup
      have hnew : e.1 ∉ earlier.map (·.1) := by
        rw [List.map_append, List.nodup_append] at hnodup
        intro hmem
        exact hnodup.2.2 _ hmem _ List.mem_cons_self rfl
      rw [List.append_cons earlier e later] at hnodup ⊢
      rw [List.foldl_cons, insert, put_of_not_mem hnew]
      exact ih _ hnodup
  exact hfold [] entries h

/-! ## Changing each entry -/

variable {β : Type}

/-- A table with each entry changed. -/
def mapValues (f : α → β) (table : Table α) : Table β :=
  ⟨table.entries.map fun e => (e.1, f e.2)⟩

theorem get?_mapValues (f : α → β) (table : Table α) (name : Text) :
    (table.mapValues f).get? name = (table.get? name).map f := by
  obtain ⟨entries⟩ := table
  simp only [get?, mapValues]
  induction entries with
  | nil => rfl
  | cons e rest ih =>
    obtain ⟨key, entry⟩ := e
    rw [List.map_cons, List.lookup_cons, List.lookup_cons, ih]
    cases name == key <;> rfl

theorem keys_mapValues (f : α → β) (table : Table α) : (table.mapValues f).keys = table.keys := by
  rw [keys, mapValues, List.map_map]
  rfl

theorem insert_mapValues (f : α → β) (table : Table α) (name : Text) (entry : α) :
    (table.mapValues f).insert name (f entry) = (table.insert name entry).mapValues f := by
  obtain ⟨entries⟩ := table
  simp only [insert, mapValues]
  congr 1
  induction entries with
  | nil => rfl
  | cons e rest ih =>
    obtain ⟨key, old⟩ := e
    rw [List.map_cons, put, put]
    split
    · rfl
    · rw [ih, List.map_cons]

end Table

end StackShell
