import StackShell.CommandLine.Folder
import StackShell.CommandLine.Usage
import StackShell.Decimal.Integer
import StackShell.Text.Similarity

/-!
# Options and settings

The options that all commands share may stand anywhere on the command line. They are first sorted
out and moved to the front, then read up to the first word that is no option, and at last their
values are checked, in the order in which the options were first given.

A word with two dashes names one option, and a value may follow an equals sign. A word with one dash
is a cluster of letters, each an option; one that takes a value takes the rest of the cluster, or
the next word if nothing is left.
-/

namespace StackShell.CommandLine

/-- An option without a value. -/
inductive Switch where
  | verbose
  | ignore
  | stats
  | plain
  | help

/-- An option with a value. -/
inductive Valued where
  | state
  | maxSteps
  | extension

/-- An option. -/
inductive Setting where
  | switch (switch : Switch)
  | valued (valued : Valued)

/-- The name of the option that asks for help. -/
def helpName : Text := "--help"

/-- The options by their long names. -/
def longNames : List (Text × Setting) :=
  [ ("--verbose", .switch .verbose), ("--ignore", .switch .ignore), ("--stats", .switch .stats),
    ("--plain", .switch .plain), ("--state", .valued .state), ("--max-steps", .valued .maxSteps),
    ("--extension", .valued .extension), (helpName, .switch .help) ]

/-- The options by their letters. -/
def shortNames : List (CodePoint × Setting) :=
  [ ('v', .switch .verbose), ('i', .switch .ignore), ('p', .switch .plain),
    ('x', .valued .extension) ]

/-! ## Sorting out -/

/-- The words that are options with a value. -/
def valueWords : List Text :=
  ["--state", "--max-steps", "--extension", "-x"]

/-- The words that are switches. -/
def switchWords : List Text :=
  ["--ignore", "-i", "--stats", "--plain", "-p"]

/-- Whether a word starts like another. -/
def startsWith (start word : Text) : Bool :=
  start.toList.isPrefixOf word.toList

/-- Whether a word is a shared option and complete in itself: a switch, anything that starts like
the verbose option, or an option with its value after an equals sign. -/
def isWholeOption (word : Text) : Bool :=
  switchWords.contains word || startsWith "-v" word || startsWith "--verbose" word
    || valueWords.any fun name => startsWith (name ++ "=") word

/-- The words of a command line: those of shared options, and the rest. -/
structure Sorted where
  options : List Text
  rest : List Text

/-- Sorts out the shared options, wherever they stand. An option whose value is missing at the end
gets the empty one. -/
def sortWords : List Text → Sorted
  | [] => ⟨[], []⟩
  | [word] =>
    if valueWords.contains word then ⟨[word, ""], []⟩
    else if isWholeOption word then ⟨[word], []⟩
    else ⟨[], [word]⟩
  | word :: next :: rest =>
    if valueWords.contains word then
      let s := sortWords rest
      { s with options := word :: next :: s.options }
    else
      let s := sortWords (next :: rest)
      if isWholeOption word then { s with options := word :: s.options }
      else { s with rest := word :: s.rest }

/-! ## Reading -/

/-- Options as they were given, before their values are checked. -/
structure Given where
  verbosity : Nat
  ignore : Bool
  stats : Bool
  plain : Bool
  help : Bool
  /-- The last value given for each option that has one value, in the order of the first ones. -/
  values : Table Text
  extensions : List Text

/-- No option at all. -/
def Given.none : Given :=
  { verbosity := 0, ignore := false, stats := false, plain := false, help := false,
    values := .empty, extensions := [] }

/-- Takes a switch into account. -/
def Given.turn (g : Given) : Switch → Given
  | .verbose => { g with verbosity := g.verbosity + 1 }
  | .ignore => { g with ignore := true }
  | .stats => { g with stats := true }
  | .plain => { g with plain := true }
  | .help => { g with help := true }

/-- Takes the value of an option into account. -/
def Given.put (g : Given) (option : Valued) (value : Text) : Given :=
  match option with
  | .state => { g with values := g.values.insert "--state" value }
  | .maxSteps => { g with values := g.values.insert "--max-steps" value }
  | .extension => { g with extensions := g.extensions ++ [value] }

/-- What one word asks for. -/
inductive Asked where
  /-- It is complete. -/
  | all (given : Given)
  /-- The next word is the value of the option, which is known by the name. -/
  | value (given : Given) (option : Valued) (name : Text)

/-- The name of an option in a word with two dashes. -/
def longName (word : Text) : Text :=
  Text.ofList (word.toList.takeWhile (· != .char '='))

/-- The value after the equals sign in a word with two dashes. -/
def longValue? (word : Text) : Option Text :=
  match word.toList.dropWhile (· != .char '=') with
  | _ :: value => some (Text.ofList value)
  | [] => none

/-- The problem with a long name that is none of the known ones. -/
def unknownLong (known : List Text) (name : Text) : UsageProblem :=
  .noSuchOption name (Text.similar name known)

/-- Reads a word with two dashes. -/
def Given.readLong (g : Given) (word : Text) : Except UsageProblem Asked :=
  let name := longName word
  match longNames.lookup name, longValue? word with
  | some (.switch s), Option.none => .ok (.all (g.turn s))
  | some (.switch _), some _ => .error (.unwantedValue name)
  | some (.valued option), some value => .ok (.all (g.put option value))
  | some (.valued option), Option.none => .ok (.value g option name)
  | Option.none, _ => .error (unknownLong (longNames.map (·.1)) name)

/-- Reads the letters of a cluster. -/
def Given.readCluster (g : Given) : List CodePoint → Except UsageProblem Asked
  | [] => .ok (.all g)
  | letter :: rest =>
    let name := Text.ofList [.char '-', letter]
    match shortNames.lookup letter with
    | some (.switch s) => (g.turn s).readCluster rest
    | some (.valued option) =>
      .ok (if rest.isEmpty then .value g option name else .all (g.put option (Text.ofList rest)))
    | Option.none => .error (.noSuchOption name [])

/-- Whether a word is that of an option: it starts with a dash and goes on. -/
def isOptionWord (word : Text) : Bool :=
  startsWith "-" word && word.length > 1

/-- Reads a word that is that of an option. -/
def Given.readWord (g : Given) (word : Text) : Except UsageProblem Asked :=
  if startsWith "--" word then g.readLong word else g.readCluster (word.toList.drop 1)

/-- Reads options up to the first word that is none, or past a word of two dashes: the options and
the words that are left. -/
def Given.read (g : Given) : List Text → Except UsageProblem (Given × List Text)
  | [] => .ok (g, [])
  | word :: rest =>
    if word == "--" then .ok (g, rest)
    else if !isOptionWord word then .ok (g, word :: rest)
    else
      match g.readWord word with
      | .error problem => .error problem
      | .ok (.all g) => g.read rest
      | .ok (.value g option name) =>
        match rest with
        | [] => .error (.missingValue name)
        | value :: rest => (g.put option value).read rest

/-! ## Checking -/

/-- What the options amount to. -/
structure Settings where
  /-- How often the run was asked to be verbose. -/
  verbosity : Nat
  /-- Whether to go on after a failure. -/
  ignore : Bool
  stats : Bool
  plain : Bool
  /-- The file that the state is restored from and saved to. -/
  stateFile : Option Text
  limit : Option Int
  extensions : List Text

/-- Checks the value of an option. -/
def Settings.check (folder : Folder) (s : Settings) (given : Text × Text) :
    Except UsageProblem Settings :=
  let (name, text) := given
  if name == "--state" then
    match folder.look text with
    | .folder => .error (.stateIsFolder text)
    | _ => .ok { s with stateFile := some (Folder.plainPath text) }
  else
    match Decimal.parseInteger text with
    | .error _ => .error (.stepsNotInteger text)
    | .ok n => if n < 1 then .error (.stepsTooFew n) else .ok { s with limit := some n }

/-- Checks the values of the options. -/
def Given.settings (g : Given) (folder : Folder) : Except UsageProblem Settings :=
  g.values.entries.foldlM (Settings.check folder)
    { verbosity := g.verbosity, ignore := g.ignore, stats := g.stats, plain := g.plain,
      stateFile := Option.none, limit := Option.none, extensions := g.extensions }

end StackShell.CommandLine
