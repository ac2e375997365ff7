import StackShell.Failure

/-!
# Documents

The data that state is persisted as: null, truth values, numbers of two kinds, strings, lists and
objects whose fields have an order.
-/

namespace StackShell

mutual

/-- A piece of data. -/
inductive Document where
  | null
  | bool (b : Bool)
  | int (n : Int)
  | float (x : Float)
  | string (text : Text)
  | list (items : List Document)
  | object (fields : List Field)

/-- A name and the data under it. -/
inductive Field where
  | mk (name : Text) (value : Document)

end

namespace Field

/-- The name of a field. -/
def name : Field → Text
  | .mk n _ => n

/-- The data of a field. -/
def value : Field → Document
  | .mk _ v => v

end Field

namespace Document

/-- The data under a name. -/
def lookup (name : Text) (fields : List Field) : Option Document :=
  (fields.find? (·.name == name)).map (·.value)

/-- Puts data under a name: in the place of what was there, or at the end. -/
def putField (name : Text) (value : Document) : List Field → List Field
  | [] => [.mk name value]
  | .mk key old :: rest =>
    if key == name then .mk key value :: rest else .mk key old :: putField name value rest

/-- The class of a piece of data, as diagnostics name it. -/
def className : Document → Text
  | .null => "NoneType"
  | .bool _ => "bool"
  | .int _ => "int"
  | .float _ => "float"
  | .string _ => "str"
  | .list _ => "list"
  | .object _ => "dict"

mutual

/-- Data as diagnostics show it. -/
def inspect : Document → Text
  | .null => "None"
  | .bool b => if b then "True" else "False"
  | .int n => (Decimal.integerText? n).getD ""
  | .float x => Decimal.realText x
  | .string text => Text.quoted text
  | .list items => "[" ++ Text.intercalate ", " (inspectAll items) ++ "]"
  | .object fields => "\x7b" ++ Text.intercalate ", " (inspectFields fields) ++ "\x7d"
termination_by structural x => x

/-- Each piece of data as diagnostics show it. -/
def inspectAll : List Document → List Text
  | [] => []
  | d :: rest => inspect d :: inspectAll rest
termination_by structural x => x

/-- A field as diagnostics show it. -/
def inspectField : Field → Text
  | .mk name value => Text.quoted name ++ ": " ++ inspect value
termination_by structural x => x

/-- Each field as diagnostics show it. -/
def inspectFields : List Field → List Text
  | [] => []
  | f :: rest => inspectField f :: inspectFields rest
termination_by structural x => x

end

/-- Data as it is put into a sentence: a string stands without quotes. -/
def plain : Document → Text
  | .string text => text
  | d => d.inspect

end Document

end StackShell
