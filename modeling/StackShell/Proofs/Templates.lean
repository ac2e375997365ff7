import StackShell.Command.TextExtension
import StackShell.Proofs.Arguments

/-!
# Filled templates

A text is put into a template with each of its percent signs doubled, and a value is asked for with
`%1`. Filling such a template gives back the texts with the text of the value between them
(`template_filled_in_one_pass`): a percent sign of one text is never paired with a character of the
next part, and what was filled in is not looked at again.
-/

namespace StackShell

namespace Text

variable {ε : Type}

/-- A text with each percent sign doubled. -/
def doubled (text : List CodePoint) : List CodePoint :=
  text.flatMap fun c : CodePoint => if c == '%' then [.char '%', .char '%'] else [c]

theorem doubled_cons (c : CodePoint) (text : List CodePoint) :
    doubled (c :: text) = (if c == '%' then [.char '%', .char '%'] else [c]) ++ doubled text :=
  List.flatMap_cons

/-- A character that is no percent sign stays. -/
theorem fillTemplate_cons {c : CodePoint} (h : c ≠ '%') (value : Except ε (List CodePoint))
    (rest : List CodePoint) :
    fillTemplate value (c :: rest) = (fillTemplate value rest).map (c :: ·) := by
  rw [fillTemplate]
  · rfl
  · rintro _ rfl
    exact absurd rfl h
  · rintro _ rfl
    exact absurd rfl h

/-- A doubled text stays, whatever follows it. -/
theorem fillTemplate_doubled (value : Except ε (List CodePoint)) (text rest : List CodePoint) :
    fillTemplate value (doubled text ++ rest) = (fillTemplate value rest).map (text ++ ·) := by
  induction text with
  | nil =>
    show fillTemplate value rest = _
    cases fillTemplate value rest <;> rfl
  | cons c text ih =>
    have hstep : fillTemplate value (doubled (c :: text) ++ rest) =
        (fillTemplate value (doubled text ++ rest)).map (c :: ·) := by
      rw [doubled_cons, List.append_assoc]
      by_cases hc : c = '%'
      · -- the two signs are one pair, since the scan stands in front of both
        subst hc
        rfl
      · rw [if_neg (by simpa using hc)]
        exact fillTemplate_cons hc value _
    rw [hstep, ih]
    cases fillTemplate value rest <;> rfl

/-- The value takes its place. -/
theorem fillTemplate_place {value rest tail : List CodePoint}
    (h : fillTemplate (.ok value : Except ε (List CodePoint)) rest = .ok tail) :
    fillTemplate (.ok value : Except ε (List CodePoint)) (.char '%' :: .char '1' :: rest) =
      .ok (value ++ tail) := by
  rw [fillTemplate, h]
  rfl

/-- Doubled texts with a place for the value between them. -/
theorem fillTemplate_intercalate (value : List CodePoint) (texts : List (List CodePoint)) :
    fillTemplate (.ok value : Except ε (List CodePoint))
      ([.char '%', .char '1'].intercalate (texts.map doubled)) = .ok (value.intercalate texts) := by
  -- on the texts: behind the first one stands a place, or nothing if it is the last
  induction texts with
  | nil => rfl
  | cons text texts ih =>
    cases texts with
    | nil =>
      have hlast := fillTemplate_doubled (.ok value : Except ε (List CodePoint)) text []
      rw [List.append_nil, fillTemplate] at hlast
      rw [List.map_singleton, List.intercalate_singleton, List.intercalate_singleton, hlast]
      exact congrArg Except.ok (List.append_nil text)
    | cons next texts =>
      have hplace := fillTemplate_place ih
      rw [List.map_cons, List.map_cons, List.intercalate_cons_cons, ← List.map_cons,
        List.append_assoc, fillTemplate_doubled, List.cons_append, List.cons_append,
        List.nil_append, hplace, List.intercalate_cons_cons, List.append_assoc]
      rfl

end Text

namespace TextExtension

/-- The template of texts with a place for the value between them. -/
def template (texts : List Text) : Text :=
  Text.intercalate "%1" (texts.map fun text => Text.ofList (Text.doubled text.toList))

theorem toList_template (texts : List Text) :
    (template texts).toList =
      [.char '%', .char '1'].intercalate ((texts.map Text.toList).map Text.doubled) := by
  rw [template, Text.toList_intercalate, List.map_map, List.map_map]
  rfl

/-- What is read off the shapes of the filling of templates. -/
def formatSignature : Signature where
  roles := [.item, .item]
  inputs := [.string, .anything]
  result := .items [.string]

/-- Templates are filled in a single pass. Let the text of a value be put between some texts, given
as a template in which each percent sign of theirs is doubled. Whatever signs there are in the texts
or in the text of the value, what comes out are the texts, as they are, with the text of the value
between each two of them, and this is what the command leaves in the place of the value and the
template. -/
theorem template_filled_in_one_pass {v : Value} {text : Text} (h : Builtin.textOf v = .ok text)
    (texts : List Text) :
    format.body [v, .string (template texts)] = .value (.string (text.intercalate texts)) ∧
      format.signature "text.format" = .ok formatSignature ∧
      ∀ (s : State) (base : List Value), s.stack = .string (template texts) :: v :: base →
        format.command formatSignature "text.format" s =
          .done { s with stack := .string (text.intercalate texts) :: base } := by
  have hbody :
      format.body [v, .string (template texts)] = .value (.string (text.intercalate texts)) := by
    have hfilled : Text.fillTemplate ((Builtin.textOf v).map Text.toList)
        (template texts).toList = .ok (text.intercalate texts).toList := by
      rw [h, toList_template, Text.toList_intercalate]
      exact Text.fillTemplate_intercalate text.toList (texts.map Text.toList)
    show Reply.ofExcept ((Text.fillTemplate ((Builtin.textOf v).map Text.toList)
      (template texts).toList).map fun row => .string (Text.ofList row)) = _
    rw [hfilled]
    show Reply.value (.string (Text.ofList (text.intercalate texts).toList)) = _
    rw [Text.ofList_toList]
  refine ⟨hbody, rfl, fun s base hstack => ?_⟩
  have htake : formatSignature.takeItems "text.format" s.stack =
      .ok (base, [v, .string (template texts)]) := by
    rw [hstack]
    rfl
  rw [Routine.command_of_takeItems htake]
  show (format.body [v, .string (template texts)]).deliver formatSignature.result base s = _
  rw [hbody]
  rfl

/-- A stack with a value that looks like a place, and a template of texts that begin and end with
signs. -/
def signState : State :=
  { State.initial .discard with stack := [.string "a%%%11%%%1", .string "%1%", .int 7] }

theorem sign_filled_in_one_pass :
    Builtin.textOf (.string "%1%") = .ok "%1%" ∧
      template ["a%", "1%", ""] = "a%%%11%%%1" ∧
      format.body [.string "%1%", .string "a%%%11%%%1"] = .value (.string "a%%1%1%%1%") ∧
      format.command formatSignature "text.format" signState =
        .done { signState with stack := [.string "a%%1%1%%1%", .int 7] } := by
  have htext : Builtin.textOf (.string "%1%") = .ok "%1%" := rfl
  have htemplate : template ["a%", "1%", ""] = "a%%%11%%%1" := by cbv
  have hjoined : Text.intercalate "%1%" ["a%", "1%", ""] = "a%%1%1%%1%" := by cbv
  obtain ⟨hbody, -, hcommand⟩ := template_filled_in_one_pass htext ["a%", "1%", ""]
  rw [htemplate, hjoined] at hbody
  simp only [htemplate, hjoined] at hcommand
  exact ⟨htext, htemplate, hbody, hcommand signState [.int 7] rfl⟩

end TextExtension

end StackShell
