import Outline.Text.Blank
import Outline.Text.Basic

/-!
# Assignment files

A settings file holds one assignment `NAME=value` per line, with an optional `export` in front, a
name that may be quoted, a value that may be quoted and then may go over several lines, and
comments. A line that is none of these is skipped. A value may refer to names assigned before and
to the environment as `${NAME}` or `${NAME:-default}`.
-/
namespace Outline.Assignments

/-- White space that does not end a line. -/
def isInlineBlank (c : Char) : Bool := isBlank c && c ≠ '\n' && c ≠ '\r'

def skipInline (t : Text) : Text := t.dropWhile isInlineBlank

def splitLine (t : Text) : Text × Text :=
  let line := t.takeWhile fun c => c ≠ '\n' && c ≠ '\r'
  (line, t.drop line.length)

/-- Without `export` and the white space behind it. -/
def skipExport (t : Text) : Text :=
  match t with
  | 'e' :: 'x' :: 'p' :: 'o' :: 'r' :: 't' :: c :: rest =>
    if isInlineBlank c then skipInline rest else t
  | _ => t

/-- The character that an escape in double quotes stands for. -/
def escaped? : Char → Option Char
  | '\\' => some '\\'
  | '\'' => some '\''
  | '"' => some '"'
  | 'a' => some '\x07'
  | 'b' => some '\x08'
  | 'f' => some '\x0c'
  | 'n' => some '\n'
  | 'r' => some '\r'
  | 't' => some '\t'
  | 'v' => some '\x0b'
  | _ => none

/-- The value of a text in quotes: in single quotes only the backslash and the single quote can be
escaped, and what is no escape stays as it is. -/
def unescape (quote : Char) : Text → Text
  | [] => []
  | ['\\'] => ['\\']
  | '\\' :: c :: rest =>
    match escaped? c with
    | some e =>
      if quote = '"' ∨ c = '\\' ∨ c = '\'' then e :: unescape quote rest
      else '\\' :: c :: unescape quote rest
    | none => '\\' :: unescape quote (c :: rest)
  | c :: rest => c :: unescape quote rest

/-- The length of the text up to the quote that closes it: the first that no backslash precedes,
or else the last that one does. `last` is the last such seen. -/
def closing? (quote : Char) (index : Nat) (last : Option Nat) : Text → Option Nat
  | [] => last
  | c :: rest =>
    if c = quote then some index
    else match c, rest with
      | '\\', q :: rest =>
        if q = quote then closing? quote (index + 2) (some (index + 1)) rest
        else closing? quote (index + 1) last (q :: rest)
      | _, rest => closing? quote (index + 1) last rest
termination_by t => t.length

/-- A text in quotes, its first quote left away, and what follows it. -/
def quoted? (quote : Char) (t : Text) : Option (Text × Text) :=
  (closing? quote 0 none t).map fun n => (unescape quote (t.take n), t.drop (n + 1))

/-- The text up to white space that a number sign follows. -/
def dropComment : Text → Text
  | [] => []
  | c :: rest =>
    if isBlank c && (rest.dropWhile isBlank).head? == some '#' then []
    else c :: dropComment rest

/-- A value and what follows it; the failure carries what is left. -/
def value (t : Text) : Except Text (Text × Text) :=
  match t with
  | '\'' :: rest => match quoted? '\'' rest with
    | some r => .ok r
    | none => .error t
  | '"' :: rest => match quoted? '"' rest with
    | some r => .ok r
    | none => .error t
  | _ =>
    let (line, rest) := splitLine t
    .ok ((dropComment line).trimRight, rest)

def name? (t : Text) : Option (Text × Text) :=
  match t with
  | '\'' :: rest =>
    let name := rest.takeWhile (· ≠ '\'')
    if name.isEmpty || name.length = rest.length then none
    else some (name, rest.drop (name.length + 1))
  | _ =>
    let name := t.takeWhile fun c => c ≠ '=' && c ≠ '#' && !isBlank c
    if name.isEmpty then none else some (name, t.drop name.length)

/-- What follows the end of a line, a comment in front of it included; the failure carries what is
left. -/
def endOfLine (t : Text) : Except Text Text :=
  let t := match skipInline t with
    | '#' :: rest => (splitLine rest).2
    | _ => t
  match skipInline t with
  | [] => .ok []
  | '\r' :: '\n' :: rest => .ok rest
  | c :: rest => if c = '\n' ∨ c = '\r' then .ok rest else .error t

/-- An assignment, or a comment or blank lines when there is none, and what follows; the failure
carries what is left. A name without a value is assigned nothing. -/
def statement (t : Text) : Except Text (Option (Text × Option Text) × Text) := do
  let t := t.dropWhile isBlank
  if t.isEmpty then return (none, [])
  let t := skipExport t
  if t.head? = some '#' then return (none, ← endOfLine t)
  match name? t with
  | none => .error t
  | some (name, t) =>
    match skipInline t with
    | '=' :: rest =>
      let (v, rest) ← value (skipInline rest)
      return (some (name, some v), ← endOfLine rest)
    | t => return (some (name, none), ← endOfLine t)

/-- The assignments of a text in order; a statement takes at least one character. -/
def readFrom : Nat → Text → List (Text × Option Text)
  | 0, _ => []
  | _, [] => []
  | fuel + 1, t =>
    match statement t with
    | .ok (a, rest) => a.toList ++ readFrom fuel rest
    | .error rest =>
      match (splitLine rest).2 with
      | [] => []
      | _ :: rest => readFrom fuel rest

def read (t : Text) : List (Text × Option Text) := readFrom (t.length + 1) t

/-! ## References -/

/-- A reference behind its dollar sign: the name, the default and what follows. -/
def reference? : Text → Option (Text × Option Text × Text)
  | '\x7b' :: rest =>
    let name := rest.takeWhile fun c => c ≠ '\x7d' && c ≠ ':'
    match rest.drop name.length with
    | '\x7d' :: rest => some (name, none, rest)
    | ':' :: '-' :: rest =>
      let default := rest.takeWhile (· ≠ '\x7d')
      match rest.drop default.length with
      | '\x7d' :: rest => some (name, some default, rest)
      | _ => none
    | _ => none
  | _ => none

/-- The text with every reference replaced by its value. -/
def resolveFrom (known : Text → Option (Option Text)) : Nat → Text → Text
  | 0, t => t
  | _, [] => []
  | fuel + 1, c :: rest =>
    match if c = '$' then reference? rest else none with
    | some (name, default, rest) =>
      (match known name with
        | some v => v.getD []
        | none => default.getD []) ++ resolveFrom known fuel rest
    | none => c :: resolveFrom known fuel rest

/-- The text with every reference replaced by its value. -/
def resolve (known : Text → Option (Option Text)) (t : Text) : Text :=
  resolveFrom known t.length t

/-- Assigns a name; a name assigned before keeps its place. -/
def assign (name : Text) (v : Option Text) : List (Text × Option Text) → List (Text × Option Text)
  | [] => [(name, v)]
  | (k, w) :: rest => if k = name then (k, v) :: rest else (k, w) :: assign name v rest

/-- The names of a text with their values, references replaced: names assigned before count more
than the environment. -/
def evaluate (environment : List (Text × Text)) (t : Text) : List (Text × Option Text) :=
  (read t).foldl (fun done (name, v) =>
    let known (n : Text) : Option (Option Text) :=
      match done.lookup n with
      | some v => some v
      | none => (environment.reverse.lookup n).map some
    assign name (v.map (resolve known)) done) []

end Outline.Assignments
