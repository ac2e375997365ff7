import StackShell.Proofs.Places.Reader
import StackShell.Proofs.Syntax.Lines

/-!
# Texts put below each other

A text that is put below another one is scanned as it is by itself, that many lines further down, as
long as the scan of the first one goes through: no lexeme that the parser sees reaches over the end
of a line (`scan_below`). And a program is never the beginning of a longer statement. So below a
program a text is read as it is by itself, apart from its places (`parse_below`).
-/

namespace StackShell

/-- The place that many lines further down. -/
def Location.down (n : Int) (place : Location) : Location :=
  ⟨place.line + n, place.column⟩

theorem Location.down_neg_down (n : Int) (place : Location) : (place.down n).down (-n) = place := by
  simp only [down, Int.add_neg_cancel_right]

namespace Token

/-! ## Scans further down -/

/-- A scan whose lexemes stand elsewhere. -/
def Scan.relocate (r : Location → Location) (scan : Scan) : Scan :=
  ⟨scan.lexemes.map (Lexeme.relocate r), scan.stuck.map (Prod.map id r)⟩

theorem Scan.tokens_relocate (r : Location → Location) (scan : Scan) :
    (scan.relocate r).tokens = scan.tokens.map (Lexeme.relocate r) := by
  rw [tokens, relocate, List.filter_map]
  rfl

theorem nextPlace_down (n : Int) (place : Location) (c : CodePoint) :
    nextPlace (place.down n) c = (nextPlace place c).down n := by
  unfold nextPlace
  split
  · simp only [Location.down, Int.add_right_comm]
  · rfl

theorem placeAfter_down (n : Int) (place : Location) (text : List CodePoint) :
    placeAfter (place.down n) text = (placeAfter place text).down n := by
  induction text generalizing place with
  | nil => rfl
  | cons c text ih =>
    rw [placeAfter, List.foldl_cons, nextPlace_down]
    exact ih (nextPlace place c)

theorem placeAfter_append (place : Location) (first second : List CodePoint) :
    placeAfter place (first ++ second) = placeAfter (placeAfter place first) second :=
  List.foldl_append

/-- A text is scanned further down as it is further up. -/
theorem scanFrom_down (n : Int) (place : Location) (text : List CodePoint) :
    scanFrom (place.down n) text = (scanFrom place text).relocate (Location.down n) := by
  fun_induction scanFrom place text with
  | case1 =>
    rw [scanFrom]
    rfl
  | case2 place c rest hlexeme =>
    rw [scanFrom_of_lexeme?_none _ hlexeme]
    rfl
  | case3 place c rest kind size hlexeme chars tail =>
    rename_i ih
    rw [scanFrom, hlexeme]
    dsimp only
    rw [placeAfter_down, ih]
    rfl

/-- Below a text one is at the start of a line. -/
theorem placeAfter_line (place : Location) (text : List CodePoint) :
    placeAfter place (text ++ [.char '\n']) = ⟨place.line + (1 + text.count (.char '\n')), 1⟩ := by
  induction text generalizing place with
  | nil => rfl
  | cons c text ih =>
    rw [List.cons_append, placeAfter, List.foldl_cons]
    refine (ih (nextPlace place c)).trans ?_
    rw [List.count_cons, nextPlace]
    split
    · push_cast
      congr 1
      omega
    · rfl

/-! ## Scans line by line -/

/-- What the parser sees of a scan: its tokens, and where it is stuck. -/
def Scan.seen (scan : Scan) : List Lexeme × Option (CodePoint × Location) :=
  (scan.tokens, scan.stuck)

/-- The parser sees the first lexeme, if it is a token, and what follows it. -/
theorem seen_of_lexeme? {text : List CodePoint} {kind : LexemeKind} {n : Nat} (place : Location)
    (h : lexeme? text = some (kind, n)) :
    let first : Lexeme := ⟨kind, text.take n, place⟩
    let tail := scanFrom (placeAfter place (text.take n)) (text.drop n)
    (scanFrom place text).seen = ([first].filter (·.kind.isToken) ++ tail.tokens, tail.stuck) := by
  intro first tail
  rw [scanFrom_of_lexeme? place h]
  show (List.filter _ (first :: tail.lexemes), _) = _
  rw [← List.singleton_append, List.filter_append]
  rfl

/-- A blank at the start is not seen, and takes the place forward. -/
theorem seen_separator {c : CodePoint} (hc : isSeparator c = true) (place : Location)
    (text : List CodePoint) :
    (scanFrom place (c :: text)).seen = (scanFrom (nextPlace place c) text).seen := by
  -- a whole run of blanks is passed over at once
  have hrun : ∀ {c : CodePoint} (place : Location) {run rest : List CodePoint},
      isSeparator c = true →
      (∀ d ∈ run, isSeparator d = true) → (∀ d ∈ rest.head?, isSeparator d = false) →
      (scanFrom place (c :: (run ++ rest))).seen =
        (scanFrom (placeAfter place (c :: run)) rest).seen := by
    intro c place run rest hc hmembers hrest
    have hlexeme := lexeme?_separator hc (run ++ rest)
    rw [runLength_eq hmembers hrest] at hlexeme
    rw [seen_of_lexeme? place hlexeme, Nat.add_comm, List.take_succ_cons, List.drop_succ_cons,
      List.take_left, List.drop_left]
    rfl
  obtain ⟨run, rest, rfl, -, hmembers, hrest⟩ := exists_run isSeparator text
  rw [hrun place hc hmembers hrest]
  cases run with
  | nil => rfl
  | cons d run =>
    obtain ⟨hd, hmembers⟩ := List.forall_mem_cons.1 hmembers
    exact (hrun (nextPlace place c) hd hmembers hrest).symm

/-- The first lexeme of a line, unless it is a blank, is the same with other lines below it. -/
theorem seen_of_lexeme?_line {d : CodePoint} {text : List CodePoint} {kind : LexemeKind} {n : Nat}
    (place : Location) (hd : isSeparator d = false) (h : lexeme? (d :: text) = some (kind, n))
    (after : List CodePoint) :
    let first : Lexeme := ⟨kind, (d :: text).take n, place⟩
    let tail := scanFrom (placeAfter place ((d :: text).take n))
      ((d :: text).drop n ++ .char '\n' :: after)
    (scanFrom place (d :: text ++ .char '\n' :: after)).seen =
      ([first].filter (·.kind.isToken) ++ tail.tokens, tail.stuck) := by
  have happend := lexeme?_append (c := '\n') rfl hd (.inl rfl) text after
  rw [h] at happend
  obtain ⟨hle, -⟩ := lexeme?_eq_some_iff.1 h
  have htake : (d :: text ++ .char '\n' :: after).take n = (d :: text).take n :=
    List.take_append_of_le_length hle
  have hdrop : (d :: text ++ .char '\n' :: after).drop n =
      (d :: text).drop n ++ .char '\n' :: after :=
    List.drop_append_of_le_length hle
  rw [seen_of_lexeme? place happend, htake, hdrop]

/-- What follows the end of a line is seen as a text of its own that starts there. -/
theorem seen_line {place : Location} {before after : List CodePoint}
    (h : (scanFrom place before).stuck = none) :
    let below := scanFrom (placeAfter place (before ++ [.char '\n'])) after
    (scanFrom place (before ++ .char '\n' :: after)).seen =
      ((scanFrom place before).tokens ++ below.tokens, below.stuck) := by
  -- the induction is on what is left of the line
  induction hlength : before.length using Nat.strongRecOn generalizing before place with
  | _ length ih =>
  intro below
  cases before with
  | nil =>
    rw [scanFrom]
    exact seen_separator rfl place after
  | cons d text =>
    rw [List.length_cons] at hlength
    by_cases hd : isSeparator d = true
    · obtain ⟨htokens, hstuck⟩ := Prod.mk.inj (seen_separator hd place text)
      rw [List.cons_append, seen_separator hd, htokens]
      exact ih text.length (by omega) (hstuck.symm.trans h) rfl
    · rw [Bool.not_eq_true] at hd
      cases hlexeme : lexeme? (d :: text) with
      | none =>
        rw [scanFrom_of_lexeme?_none place hlexeme] at h
        cases h
      | some lexeme =>
        obtain ⟨kind, n⟩ := lexeme
        have hpos := pos_of_lexeme? hlexeme
        have hshorter : ((d :: text).drop n).length < length := by
          rw [List.length_drop, List.length_cons]
          omega
        have hplace : placeAfter (placeAfter place ((d :: text).take n))
            ((d :: text).drop n ++ [.char '\n']) =
              placeAfter place (d :: text ++ [.char '\n']) := by
          rw [← placeAfter_append, ← List.append_assoc, List.take_append_drop]
        obtain ⟨htokens, hstuck⟩ := Prod.mk.inj (seen_of_lexeme? place hlexeme)
        obtain ⟨htokens', hstuck'⟩ := Prod.mk.inj (ih _ hshorter (hstuck.symm.trans h) rfl)
        rw [hplace] at htokens' hstuck'
        rw [seen_of_lexeme?_line place hd hlexeme, htokens', hstuck', htokens, List.append_assoc]

/-- How many lines further down a text is that is put below another one. -/
def linesTo (text : Text) : Int :=
  1 + text.toList.count (.char '\n')

/-- A text below one whose scan goes through is seen as it is by itself, further down. -/
theorem scan_below {first : Text} (h : (scan first).stuck = none) (second : Text) :
    (scan (first ++ "\n" ++ second)).seen =
      ((scan first).tokens ++
          (scan second).tokens.map (Lexeme.relocate (Location.down (linesTo first))),
        (scan second).stuck.map (Prod.map id (Location.down (linesTo first)))) := by
  have htext : (first ++ "\n" ++ second).toList = first.toList ++ .char '\n' :: second.toList := by
    simp
  have hplace : placeAfter start (first.toList ++ [.char '\n']) = start.down (linesTo first) :=
    placeAfter_line start first.toList
  have hbelow : scanFrom (placeAfter start (first.toList ++ [.char '\n'])) second.toList =
      (scan second).relocate (Location.down (linesTo first)) := by
    rw [hplace, scanFrom_down]
    rfl
  rw [scan, htext, seen_line h, hbelow, Scan.tokens_relocate]
  rfl

end Token

namespace Syntax

open Program Token

/-! ## Programs below each other -/

/-- Whether a token converts does not depend on where it stands. -/
theorem converts_relocate [Platform] (r : Location → Location) {token : Lexeme} :
    Converts (token.relocate r) ↔ Converts token :=
  ⟨fun h => ⟨h.string, h.integer⟩, fun h => ⟨h.string, h.integer⟩⟩

/-- What is moved down and up again is where it was. -/
theorem map_down_down (n : Int) (tokens : List Lexeme) :
    (tokens.map (Lexeme.relocate (Location.down n))).map (Lexeme.relocate (Location.down (-n))) =
      tokens := by
  have hmoves : Lexeme.relocate (Location.down (-n)) ∘ Lexeme.relocate (Location.down n) = id := by
    funext token
    simp only [Function.comp_apply, Lexeme.relocate, Location.down_neg_down, id]
  rw [List.map_map, hmoves, List.map_id]

/-- Trees whose tokens stand elsewhere stand for the same program elsewhere. -/
theorem exists_trees_relocate [Platform] (r : Location → Location) {row : List Tree}
    (hconverts : ∀ token ∈ treesTokens row, Converts token) :
    ∃ row', treesTokens row' = (treesTokens row).map (Lexeme.relocate r) ∧
      ∀ isCommand, treesProgram isCommand row' =
        Program.relocate r (treesProgram isCommand row) := by
  obtain ⟨reader, hreader, hnodes⟩ := takeAll_eq_ok_iff.2 ⟨row, rfl, rfl⟩
  have htake := Block.Reader.takeAll_relocate r .empty (treesTokens row)
  rw [hreader] at htake
  have hfinish := Block.Reader.finish?_relocate r reader
  rw [hnodes] at hfinish
  obtain ⟨row', htokens, hmoved⟩ := takeAll_eq_ok_iff.1 ⟨_, htake, hfinish⟩
  refine ⟨row', htokens, fun isCommand => ?_⟩
  -- both rows are read from their nodes
  have hread : readBody ⟨isCommand, none⟩ topPart (treesNodes row) =
      .ok (treesProgram isCommand row) :=
    (readBody_ok_iff row topPart).2 ⟨rfl, hconverts⟩
  have hread' : readBody ⟨isCommand, none⟩ topPart (treesNodes row') =
      readElsewhere r (Program.relocate r)
        (readBody ⟨isCommand, none⟩ topPart (treesNodes row)) := by
    rw [readBody, hmoved, Reading.nodes_relocate]
    exact readElsewhere_bind fun pending => Reading.leaves_relocate _ r topPart pending
  rw [hread] at hread'
  exact ((readBody_ok_iff row' topPart).1 hread').1.symm

/-- Trees whose tokens are some that stand further up, moved down, are trees further up, moved
down. -/
theorem exists_trees_up [Platform] {n : Int} {tokens : List Lexeme} {row : List Tree}
    (htokens : treesTokens row = tokens.map (Lexeme.relocate (Location.down n)))
    (hconverts : ∀ token ∈ tokens, Converts token) :
    ∃ own, treesTokens own = tokens ∧ ∀ isCommand, treesProgram isCommand row =
      Program.relocate (Location.down n) (treesProgram isCommand own) := by
  have hrow : ∀ token ∈ treesTokens row, Converts token := by
    rw [htokens, List.forall_mem_map]
    exact fun token htoken => (converts_relocate _).2 (hconverts token htoken)
  obtain ⟨own, hown, -⟩ := exists_trees_relocate (Location.down (-n)) hrow
  rw [htokens, map_down_down] at hown
  -- moved down again, they are the trees that were given
  rw [← hown] at hconverts
  obtain ⟨moved, hmoved, hprogram⟩ := exists_trees_relocate (Location.down n) hconverts
  rw [hown, ← htokens] at hmoved
  obtain rfl := treesTokens_injective hmoved
  exact ⟨own, hown, hprogram⟩

/-- Programs are put together line by line. Let a text be a program. Then with another text below
it, it is a program exactly if that text is one by itself; and then it is the first program followed
by the second one, that many lines further down. -/
theorem parse_below [Platform] {isCommand : Text → Bool} {first : Text} {file : Option Text}
    {p : Program} (h : Program.parse isCommand first file = .ok p) (second : Text)
    (whole : Program) :
    Program.parse isCommand (first ++ "\n" ++ second) file = .ok whole ↔
      ∃ q, Program.parse isCommand second file = .ok q ∧
        whole = p ++ Program.relocate (Location.down (linesTo first)) q := by
  obtain ⟨hstuck, trees, htrees, hconverts, rfl⟩ := parse_ok_iff.1 h
  obtain ⟨htokens, hstuckBelow⟩ := Prod.mk.inj (scan_below hstuck second)
  rw [← htrees] at htokens
  constructor
  · intro hwhole
    obtain ⟨hnone, row, hrow, hall, rfl⟩ := parse_ok_iff.1 hwhole
    rw [hstuckBelow, Option.map_eq_none_iff] at hnone
    rw [htokens] at hrow hall
    -- the second program begins where the first one ends
    obtain ⟨others, rfl, hothers⟩ := exists_append_of_tokens hrow
    have hconverts' : ∀ token ∈ (scan second).tokens, Converts token := by
      have hmoved := List.forall_mem_map.1 (List.forall_mem_append.1 hall).2
      exact fun token htoken => (converts_relocate _).1 (hmoved token htoken)
    obtain ⟨own, hown, hprogram⟩ := exists_trees_up hothers hconverts'
    refine ⟨treesProgram isCommand own, ?_, ?_⟩
    · exact parse_ok_iff.2 ⟨hnone, own, hown, hconverts', rfl⟩
    · rw [treesProgram_append, hprogram]
  · rintro ⟨q, hq, rfl⟩
    obtain ⟨hnone, row, hrow, hall, rfl⟩ := parse_ok_iff.1 hq
    rw [← hrow] at hall
    obtain ⟨others, hothers, hprogram⟩ :=
      exists_trees_relocate (Location.down (linesTo first)) hall
    refine parse_ok_iff.2 ⟨?_, trees ++ others, ?_, ?_, ?_⟩
    · rw [hstuckBelow, hnone]
      rfl
    · rw [treesTokens_append, hothers, hrow, htokens]
    · rw [hrow] at hall
      rw [htokens, List.forall_mem_append, htrees, List.forall_mem_map]
      exact ⟨hconverts, fun token htoken => (converts_relocate _).2 (hall token htoken)⟩
    · rw [treesProgram_append, hprogram]

section

attribute [local instance] Platform.basic

/-- A function below a conditional of two lines. -/
theorem parse_below_conditional :
    Program.parse (fun _ => false) "if x then # 1\n y end" none =
        .ok [.conditional [.mk [.load "x" ⟨1, 4⟩] [.load "y" ⟨2, 2⟩]] none] ∧
      (Program.parse (fun _ => false) "if x then # 1\n y end\n fn z end" none =
          .ok ([.conditional [.mk [.load "x" ⟨1, 4⟩] [.load "y" ⟨2, 2⟩]] none] ++
            [.define none [.load "z" ⟨3, 5⟩]])) := by
  have hfirst : Program.parse (fun _ => false) "if x then # 1\n y end" none =
      .ok [.conditional [.mk [.load "x" ⟨1, 4⟩] [.load "y" ⟨2, 2⟩]] none] := by cbv
  have hsecond : Program.parse (fun _ => false) " fn z end" none =
      .ok [.define none [.load "z" ⟨1, 5⟩]] := by cbv
  exact ⟨hfirst, (parse_below hfirst " fn z end" _).2 ⟨_, hsecond, by cbv⟩⟩

end

end Syntax

end StackShell
