import StackShell.Program.Basic
import StackShell.Text.Blank

/-!
# Tokens

The source text is cut into lexemes from left to right. At each place the kinds are tried in a fixed
order: a number with a point comes before an integer, strings, integers, stores and named calls come
before plain words, and a word is a keyword exactly if all of it is one. Blanks and comments are
lexemes too, so that all lexemes together are the text; the parser does not see them.

The scan ends at the end of the text, or at a character that starts no lexeme: a quote that opens no
complete string, or a blank other than space, tab, form feed, carriage return and line feed.
-/

namespace StackShell

/-- The words that structure a program. -/
inductive Keyword where
  | ifWord
  | thenWord
  | elifWord
  | elseWord
  | endWord
  | whileWord
  | doWord
  | defWord
  | fnWord
  | callWord
  | trueWord
  | falseWord
deriving DecidableEq

/-- The word of a keyword. -/
def Keyword.word : Keyword → Text
  | .ifWord => "if"
  | .thenWord => "then"
  | .elifWord => "elif"
  | .elseWord => "else"
  | .endWord => "end"
  | .whileWord => "while"
  | .doWord => "do"
  | .defWord => "def"
  | .fnWord => "fn"
  | .callWord => "call"
  | .trueWord => "true"
  | .falseWord => "false"

/-- All keywords. -/
def Keyword.all : List Keyword :=
  [.ifWord, .thenWord, .elifWord, .elseWord, .endWord, .whileWord, .doWord, .defWord, .fnWord,
    .callWord, .trueWord, .falseWord]

/-- The keyword that a word is. -/
def Keyword.ofWord? (word : Text) : Option Keyword :=
  Keyword.all.find? fun k => k.word == word

/-- The kinds of lexemes. -/
inductive LexemeKind where
  | real
  | integer
  | string
  | store
  | namedCall
  | atSign
  | word
  | keyword (k : Keyword)
  | blank
  | comment
deriving DecidableEq

/-- A piece of the source text, its kind and the place of its first character. -/
structure Lexeme where
  kind : LexemeKind
  text : List CodePoint
  place : Location
deriving DecidableEq

/-- Whether the parser sees a lexeme. -/
def LexemeKind.isToken : LexemeKind → Bool
  | .blank | .comment => false
  | _ => true

namespace Token

/-! ## Character classes -/

/-- The blanks that may stand between tokens. -/
def isSeparator (c : CodePoint) : Bool :=
  c == ' ' || c == '\t' || c == '\x0c' || c == '\r' || c == '\n'

/-- The characters of a word. -/
def isWordChar (c : CodePoint) : Bool :=
  !(Text.isBlank c || c == '"' || c == '#' || c == '@')

/-- The characters that may start a name after `=` or `@`. -/
def isNameStart (c : CodePoint) : Bool :=
  c.isAlpha || c == '_'

/-- The characters that may follow in a name after `=` or `@`. -/
def isNameChar (c : CodePoint) : Bool :=
  c.isAlphanum || c == '_' || c == '-' || c == '?' || c == '!' || c == '.'

/-- How many characters at the start are of the class. -/
def runLength (isMember : CodePoint → Bool) (text : List CodePoint) : Nat :=
  (text.takeWhile isMember).length

/-! ## Lengths of lexemes

Each function gives the length of the lexeme of one kind at the start of the text, if there is
one. -/

/-- An integer: a minus or not, and digits. -/
def integerLength? (text : List CodePoint) : Option Nat :=
  let sign := Text.minusLength text
  let digits := runLength Text.isDigit (text.drop sign)
  if digits == 0 then none else some (sign + digits)

/-- The length of an exponent, zero where there is none. -/
def exponentLength (text : List CodePoint) : Nat :=
  match text with
  | c :: rest =>
    if c == 'e' || c == 'E' then
      let sign := match rest with
        | .char '+' :: _ | .char '-' :: _ => 1
        | _ => 0
      let digits := runLength Text.isDigit (rest.drop sign)
      if digits == 0 then 0 else 1 + sign + digits
    else 0
  | [] => 0

/-- A real: an integer, a point, digits, and an exponent or not. -/
def realLength? (text : List CodePoint) : Option Nat := do
  let whole ← integerLength? text
  match text.drop whole with
  | .char '.' :: rest =>
    let digits := runLength Text.isDigit rest
    if digits == 0 then none
    else some (whole + 1 + digits + exponentLength (rest.drop digits))
  | _ => none

/-- The length of a string's remainder up to its closing quote, which it includes. -/
def closeLength? : List CodePoint → Option Nat
  | [] => none
  | .char '"' :: _ => some 1
  | .char '\\' :: c :: rest => if c == '\n' then none else (closeLength? rest).map (· + 2)
  | c :: rest =>
    if c == '\\' || c == '\r' || c == '\n' then none else (closeLength? rest).map (· + 1)

/-- A string: quotes on one line, a backslash taking the next character along. -/
def stringLength? : List CodePoint → Option Nat
  | .char '"' :: rest => (closeLength? rest).map (· + 1)
  | _ => none

/-- A mark and a name. -/
def markedLength? (mark : CodePoint) : List CodePoint → Option Nat
  | c :: d :: rest =>
    if c == mark && isNameStart d then some (2 + runLength isNameChar rest) else none
  | _ => none

/-! ## Scanning -/

/-- The kind and length of the lexeme at the start of the text. -/
def lexeme? (text : List CodePoint) : Option (LexemeKind × Nat) :=
  match realLength? text, stringLength? text, integerLength? text, markedLength? '=' text,
    markedLength? '@' text, text with
  | some n, _, _, _, _, _ => some (.real, n)
  | _, some n, _, _, _, _ => some (.string, n)
  | _, _, some n, _, _, _ => some (.integer, n)
  | _, _, _, some n, _, _ => some (.store, n)
  | _, _, _, _, some n, _ => some (.namedCall, n)
  | _, _, _, _, _, .char '@' :: _ => some (.atSign, 1)
  | _, _, _, _, _, .char '#' :: rest =>
    some (.comment, 1 + runLength (fun c => !(c == '\r' || c == '\n')) rest)
  | _, _, _, _, _, c :: rest =>
    if isSeparator c then some (.blank, 1 + runLength isSeparator rest)
    else if isWordChar c then
      let size := 1 + runLength isWordChar rest
      match Keyword.ofWord? (Text.ofList (text.take size)) with
      | some k => some (.keyword k, size)
      | none => some (.word, size)
    else none
  | _, _, _, _, _, [] => none

/-- The place after a character. Only a line feed starts a new line. -/
def nextPlace (place : Location) (c : CodePoint) : Location :=
  if c == '\n' then ⟨place.line + 1, 1⟩ else ⟨place.line, place.column + 1⟩

/-- The place after a row of characters. -/
def placeAfter (place : Location) (text : List CodePoint) : Location :=
  text.foldl nextPlace place

/-- The lexemes of a text and the character, if any, that starts none. -/
structure Scan where
  lexemes : List Lexeme
  stuck : Option (CodePoint × Location)

/-- Scans the text from a place on. -/
def scanFrom (place : Location) : List CodePoint → Scan
  | [] => ⟨[], none⟩
  | c :: rest =>
    match lexeme? (c :: rest) with
    | none => ⟨[], some (c, place)⟩
    | some (kind, size) =>
      let text := c :: rest.take (size - 1)
      let tail := scanFrom (placeAfter place text) (rest.drop (size - 1))
      ⟨⟨kind, text, place⟩ :: tail.lexemes, tail.stuck⟩
termination_by text => text.length
decreasing_by
  simp only [List.length_drop, List.length_cons]
  omega

/-- The place where every source text starts. -/
def start : Location := ⟨1, 1⟩

/-- Scans a whole source text. -/
def scan (source : Text) : Scan :=
  scanFrom start source.toList

/-- The lexemes that the parser sees. -/
def Scan.tokens (scan : Scan) : List Lexeme :=
  scan.lexemes.filter (·.kind.isToken)

end Token

end StackShell
