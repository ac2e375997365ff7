import Mathlib.Logic.Equiv.Basic
import StackShell.Proofs.Places.Reader
import StackShell.Proofs.Syntax.Cuts

/-!
# Where tokens stand

No two tokens of a source text stand at the same place. So if two texts have the same tokens, with
whatever blanks and comments between them, some move that keeps different places different takes
each token of the one to that of the other (`Token.SameTokens.exists_relocation`).
-/

namespace StackShell

namespace Location

/-- Whether a place comes before another one in a source text. -/
def Before (p q : Location) : Prop :=
  p.line < q.line ∨ p.line = q.line ∧ p.column < q.column

theorem Before.trans {p q o : Location} (h : p.Before q) (h' : q.Before o) : p.Before o := by
  unfold Before at *
  omega

theorem Before.ne {p q : Location} (h : p.Before q) : p ≠ q := by
  rintro rfl
  unfold Before at h
  omega

end Location

namespace Token

/-! ## Places of lexemes -/

theorem before_nextPlace (place : Location) (c : CodePoint) : place.Before (nextPlace place c) := by
  unfold nextPlace Location.Before
  split
  · left
    show place.line < place.line + 1
    omega
  · right
    refine ⟨rfl, ?_⟩
    show place.column < place.column + 1
    omega

/-- Characters take a place forward. -/
theorem before_placeAfter (place : Location) {text : List CodePoint} (h : text ≠ []) :
    place.Before (placeAfter place text) := by
  induction text generalizing place with
  | nil => exact absurd rfl h
  | cons c rest ih =>
    have hnext := before_nextPlace place c
    cases rest with
    | nil => exact hnext
    | cons d rest => exact hnext.trans (ih (nextPlace place c) (by simp))

/-- Where the lexemes of a scan stand, and the character, if any, at which it is stuck. -/
def Scan.places (scan : Scan) : List Location :=
  scan.lexemes.map (·.place) ++ scan.stuck.toList.map (·.2)

/-- A scan from a place on meets that place first and then each place after those before it. -/
theorem places_scanFrom (place : Location) (text : List CodePoint) :
    (scanFrom place text).places.Pairwise Location.Before ∧
      ∀ p ∈ (scanFrom place text).places, p = place ∨ place.Before p := by
  fun_induction scanFrom place text with
  | case1 => simp [Scan.places]
  | case2 => simp [Scan.places]
  | case3 place c rest kind size hlexeme chars tail =>
    rename_i ih
    obtain ⟨hpairwise, hafter⟩ := ih
    have hnext : place.Before (placeAfter place chars) := before_placeAfter place (by simp [chars])
    have hlater : ∀ p ∈ tail.places, place.Before p := by
      intro p hp
      rcases hafter p hp with rfl | h
      · exact hnext
      · exact hnext.trans h
    have hplaces : Scan.places ⟨⟨kind, chars, place⟩ :: tail.lexemes, tail.stuck⟩ =
        place :: tail.places := rfl
    rw [hplaces]
    refine ⟨List.pairwise_cons.2 ⟨hlater, hpairwise⟩, fun p hp => ?_⟩
    rcases List.mem_cons.1 hp with rfl | hp
    · exact .inl rfl
    · exact .inr (hlater p hp)

/-- Where the tokens of a scan stand, and the character, if any, at which it is stuck. -/
def Scan.marks (scan : Scan) : List Location :=
  scan.tokens.map (·.place) ++ scan.stuck.toList.map (·.2)

/-- No two tokens stand at the same place. -/
theorem nodup_marks (source : Text) : (scan source).marks.Nodup := by
  have hplaces : (scan source).places.Nodup :=
    (places_scanFrom start source.toList).1.imp Location.Before.ne
  have htokens : ((scan source).tokens.map (·.place)).Sublist
      ((scan source).lexemes.map (·.place)) := List.filter_sublist.map _
  exact hplaces.sublist (htokens.append_right _)

/-! ## Moves -/

/-- The entries of a row without repetition can be moved to those of another one, with all else kept
apart. -/
theorem exists_permutation {α : Type} [DecidableEq α] {row row' : List α} (h : row.Nodup)
    (h' : row'.Nodup) (hlength : row.length = row'.length) :
    ∃ e : Equiv.Perm α, row.map e = row' := by
  induction row generalizing row' with
  | nil =>
    cases row' with
    | nil => exact ⟨Equiv.refl α, rfl⟩
    | cons b row' => cases hlength
  | cons a row ih =>
    cases row' with
    | nil => cases hlength
    | cons b row' =>
      obtain ⟨hb, hrow'⟩ := List.nodup_cons.1 h'
      obtain ⟨ha, hrow⟩ := List.nodup_cons.1 h
      obtain ⟨e, he⟩ := ih hrow hrow' (Nat.succ.inj hlength)
      -- the rest is moved already; what is at `b` by now makes room for `a`
      refine ⟨e.trans (Equiv.swap (e a) b), ?_⟩
      rw [List.map_cons]
      congr 1
      · exact Equiv.swap_apply_left (e a) b
      · rw [← he]
        refine List.map_congr_left fun c hc => ?_
        have hc' : e c ∈ row' := he ▸ List.mem_map_of_mem hc
        refine Equiv.swap_apply_of_ne_of_ne ?_ ?_
        · exact fun heq => ha (e.injective heq ▸ hc)
        · exact fun heq => hb (heq ▸ hc')

/-- Whether two source texts have the same tokens, and are stuck at the same character, if they
are. -/
def SameTokens (source source' : Text) : Prop :=
  (scan source).tokens.map bare = (scan source').tokens.map bare ∧
    (scan source).stuck.map (·.1) = (scan source').stuck.map (·.1)

instance (source source' : Text) : Decidable (SameTokens source source') :=
  inferInstanceAs (Decidable (_ ∧ _))

/-- Lexemes that are the same but for their places are moved to each other. -/
theorem map_relocate_of_bare {r : Location → Location} {row row' : List Lexeme}
    (hbare : row.map bare = row'.map bare)
    (hplaces : (row.map (·.place)).map r = row'.map (·.place)) :
    row' = row.map (Lexeme.relocate r) := by
  induction row generalizing row' with
  | nil => exact List.map_eq_nil_iff.1 hbare.symm
  | cons token row ih =>
    cases row' with
    | nil => cases hbare
    | cons token' row' =>
      simp only [List.map_cons, List.cons.injEq, bare, Prod.mk.injEq] at hbare hplaces
      obtain ⟨⟨hkind, htext⟩, hbare⟩ := hbare
      obtain ⟨hplace, hplaces⟩ := hplaces
      rw [List.map_cons, ← ih hbare hplaces, Lexeme.relocate, hplace, hkind, htext]

/-- If two source texts have the same tokens, a move that keeps different places different takes the
tokens of the one to those of the other. -/
theorem SameTokens.exists_relocation {source source' : Text} (h : SameTokens source source') :
    ∃ r : Location → Location, Function.Injective r ∧
      (scan source').tokens = (scan source).tokens.map (Lexeme.relocate r) ∧
      (scan source').stuck = (scan source).stuck.map (Prod.map id r) := by
  obtain ⟨htokens, hstuck⟩ := h
  have hcount : (scan source).tokens.length = (scan source').tokens.length := by
    simpa using congrArg List.length htokens
  -- where the scan is stuck counts as one more place
  have hstuckCount : (scan source).stuck.toList.length = (scan source').stuck.toList.length := by
    cases hs : (scan source).stuck <;> cases hs' : (scan source').stuck <;>
      simp [hs, hs'] at hstuck ⊢
  -- no place occurs twice, so some permutation of all places takes the row of one text to the other
  obtain ⟨e, he⟩ := exists_permutation (nodup_marks source) (nodup_marks source')
    (by simp [Scan.marks, hcount, hstuckCount])
  unfold Scan.marks at he
  rw [List.map_append] at he
  obtain ⟨hplaces, hstuckPlace⟩ := List.append_inj he (by simp [hcount])
  refine ⟨e, e.injective, map_relocate_of_bare htokens hplaces, ?_⟩
  cases hs : (scan source).stuck with
  | none =>
    rw [hs] at hstuck
    exact Option.map_eq_none_iff.1 hstuck.symm
  | some stuck =>
    obtain ⟨c, place⟩ := stuck
    cases hs' : (scan source').stuck with
    | none => rw [hs, hs'] at hstuck; cases hstuck
    | some stuck' =>
      obtain ⟨c', place'⟩ := stuck'
      rw [hs, hs'] at hstuck hstuckPlace
      obtain rfl : c = c' := Option.some.inj hstuck
      obtain rfl : e place = place' := (List.cons.inj hstuckPlace).1
      rfl

end Token

end StackShell
