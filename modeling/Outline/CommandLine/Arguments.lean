import Outline.Text.Blank
import Outline.Text.Class

/-!
# Arguments

The two commands and their options. An option may stand before or behind the path; its value is
the next argument, or stands behind an equals sign, or right behind a single letter. Behind two
hyphens there are no more options. Of an option that is given twice the last counts.
-/
namespace Outline.CommandLine

/-- What to show of a file, and how. -/
structure ShowOptions where
  path : Text
  query : Text := []
  searchesText : Bool := false
  cursor : Nat := 0
  expandsAll : Bool := false
  events : Option Text := none
  deriving DecidableEq, Repr

/-- What is asked for. -/
inductive Command
  | show (options : ShowOptions)
  | filters
  | help
  deriving DecidableEq, Repr

/-- What is wrong with the arguments. -/
inductive UsageError
  | missingCommand
  | noSuchCommand (name : Text)
  | noSuchOption (name : Text)
  | missingValue (option : Text)
  | unexpectedValue (option : Text)
  | badNumber (value : Text)
  | missingPath
  | extraArgument (value : Text)
  | noSuchFile (path : Text)
  | isDirectory (path : Text)
  | notSource (path : Text)
  deriving DecidableEq, Repr

def UsageError.message : UsageError → Text
  | missingCommand => "Missing command.".toList
  | noSuchCommand n => "No such command: ".toList ++ n
  | noSuchOption n => "No such option: ".toList ++ n
  | missingValue o => o ++ " requires an argument.".toList
  | unexpectedValue o => o ++ " does not take a value.".toList
  | badNumber v => "Not a whole number of at least 0: ".toList ++ v
  | missingPath => "Missing argument: PATH".toList
  | extraArgument v => "Unexpected argument: ".toList ++ v
  | noSuchFile p => "No such file: ".toList ++ p
  | isDirectory p => "Not a file but a folder: ".toList ++ p
  | notSource p => p ++ " is not valid Python".toList

/-- The options of a command line. -/
inductive Switch
  | query
  | text
  | cursor
  | expandAll
  | events
  | help
  deriving DecidableEq, Repr

/-- The options of `show` by their long names. -/
def showOptions : List (String × Switch) :=
  [("--query", .query), ("--text", .text), ("--cursor", .cursor), ("--expand-all", .expandAll),
    ("--events", .events), ("--help", .help)]

/-- The options of `show` by their letters. -/
def showLetters : List (Char × Switch) := [('q', .query), ('c', .cursor)]

def takesValue : Switch → Bool
  | .query | .cursor | .events => true
  | _ => false

/-- Options with their values, and the other arguments, both in order. -/
structure Sorted where
  options : List (Switch × Text) := []
  others : List Text := []

/-- Whether an argument is an option: it begins with a hyphen and goes on. -/
def isOption : Text → Bool
  | '-' :: _ :: _ => true
  | _ => false

def sort (long : List (String × Switch)) (letters : List (Char × Switch)) :
    List Text → Except UsageError Sorted
  | [] => .ok {}
  | arg :: rest =>
    if arg = ['-', '-'] then .ok { others := rest }
    else if !isOption arg then do
      let s ← sort long letters rest
      return { s with others := arg :: s.others }
    else
      let name := arg.takeWhile (· ≠ '=')
      let value := if name.length = arg.length then none else some (arg.drop (name.length + 1))
      match long.find? (·.1.toList == name), arg with
      | some (_, o), _ =>
        match takesValue o, value, rest with
        | false, some _, _ => .error (.unexpectedValue name)
        | false, none, rest => add o [] rest
        | true, some v, rest => add o v rest
        | true, none, v :: rest => add o v rest
        | true, none, [] => .error (.missingValue name)
      | none, '-' :: c :: more =>
        match if c = '-' then none else letters.lookup c with
        | none => .error (.noSuchOption arg)
        | some o =>
          match more, rest with
          | [], v :: rest => add o v rest
          | [], [] => .error (.missingValue arg)
          | more, rest => add o more rest
      | none, _ => .error (.noSuchOption arg)
where
  /-- Puts an option in front of those of the rest. -/
  add (o : Switch) (v : Text) (rest : List Text) : Except UsageError Sorted := do
    let s ← sort long letters rest
    return { s with options := (o, v) :: s.options }

def ShowOptions.set (s : ShowOptions) (o : Switch) (v : Text) : Except UsageError ShowOptions :=
  match o with
  | .query => .ok { s with query := v }
  | .text => .ok { s with searchesText := true }
  | .cursor => match v.wholeNumber? with
    | some n => .ok { s with cursor := n }
    | none => .error (.badNumber v)
  | .expandAll => .ok { s with expandsAll := true }
  | .events => .ok { s with events := some v }
  | .help => .ok s

/-- The last value of each option only. -/
def lastOnly : List (Switch × Text) → List (Switch × Text)
  | [] => []
  | (o, v) :: rest =>
    if rest.any (·.1 == o) then lastOnly rest else (o, v) :: lastOnly rest

/-- Reads the arguments of `show`. -/
def readShow (args : List Text) : Except UsageError Command := do
  let s ← sort showOptions showLetters args
  if s.options.any (·.1 == .help) then return .help
  match s.others with
  | [] => .error .missingPath
  | [path] =>
    let options ← (lastOnly s.options).foldlM (fun o (k, v) => o.set k v) { path }
    return .show options
  | _ :: extra :: _ => .error (.extraArgument extra)

/-- Reads the arguments of `filters`. -/
def readFilters (args : List Text) : Except UsageError Command := do
  let s ← sort [("--help", .help)] [] args
  if !s.options.isEmpty then return .help
  match s.others with
  | [] => return .filters
  | extra :: _ => .error (.extraArgument extra)

def read (args : List Text) : Except UsageError Command :=
  match args with
  | [] => .error .missingCommand
  | arg :: rest =>
    if arg = ['-', '-'] then
      match rest with
      | [] => .error .missingCommand
      | name :: rest => named name rest
    else if arg = "--help".toList then .ok .help
    else if isOption arg then .error (.noSuchOption arg)
    else named arg rest
where
  /-- Reads the arguments of a command with a name. -/
  named (name : Text) (rest : List Text) : Except UsageError Command :=
    if name = "show".toList then readShow rest
    else if name = "filters".toList then readFilters rest
    else .error (.noSuchCommand name)

end Outline.CommandLine
