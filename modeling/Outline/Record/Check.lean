import Outline.Json.Basic
import Outline.Text.Blank
import Outline.Text.Class

/-!
# Checking records

A record is read from a JSON value leniently: numbers may come as strings, truth values as words.
A check that fails says where and what, for every field that is wrong, in the order of the fields.
-/
namespace Outline.Record

/-- What can be wrong with a value. -/
inductive Problem
  | missing
  | greaterThanEqual
  | lessThanEqual
  | intType
  | intParsing
  | intParsingSize
  | intFromFloat
  | finiteNumber
  | stringType
  | stringTooShort
  | stringTooLong
  | boolType
  | boolParsing
  | enum
  | literalError
  | listType
  | dictType
  | tupleType
  | tooLong
  | modelType
  | jsonInvalid
  | datetimeType
  | datetimeParsing
  | datetimeFromDateParsing
  deriving DecidableEq, Repr

def Problem.name : Problem → String
  | missing => "missing"
  | greaterThanEqual => "greater_than_equal"
  | lessThanEqual => "less_than_equal"
  | intType => "int_type"
  | intParsing => "int_parsing"
  | intParsingSize => "int_parsing_size"
  | intFromFloat => "int_from_float"
  | finiteNumber => "finite_number"
  | stringType => "string_type"
  | stringTooShort => "string_too_short"
  | stringTooLong => "string_too_long"
  | boolType => "bool_type"
  | boolParsing => "bool_parsing"
  | enum => "enum"
  | literalError => "literal_error"
  | listType => "list_type"
  | dictType => "dict_type"
  | tupleType => "tuple_type"
  | tooLong => "too_long"
  | modelType => "model_type"
  | jsonInvalid => "json_invalid"
  | datetimeType => "datetime_type"
  | datetimeParsing => "datetime_parsing"
  | datetimeFromDateParsing => "datetime_from_date_parsing"

/-- A problem and where it is: field names and list indices from the outside in. -/
structure Issue where
  place : List Text
  problem : Problem
  deriving DecidableEq, Repr

def Issue.text (i : Issue) : Text := Text.join ['.'] i.place ++ ':' :: i.problem.name.toList

/-- A checked value, or all that is wrong. -/
abbrev Checked (α : Type) := Except (List Issue) α

abbrev Check (α : Type) := Json → Checked α

def fail {α : Type} (p : Problem) : Checked α := .error [⟨[], p⟩]

namespace Checked

/-- Moves the issues into a field or an item. -/
def inside {α : Type} (name : Text) : Checked α → Checked α
  | .ok a => .ok a
  | .error issues => .error (issues.map fun i => { i with place := name :: i.place })

/-- Both values, or the issues of both. -/
def both {α β : Type} : Checked α → Checked β → Checked (α × β)
  | .ok a, .ok b => .ok (a, b)
  | .error i, .ok _ => .error i
  | .ok _, .error j => .error j
  | .error i, .error j => .error (i ++ j)

/-- All values, or the issues of all. -/
def all {α : Type} : List (Checked α) → Checked (List α)
  | [] => .ok []
  | c :: cs => (both c (all cs)).map fun (a, as) => a :: as

end Checked

/-! ## Simple values -/

/-- White space around a number; the ASCII separators do not count. -/
def isNumberBlank (c : Char) : Bool := isBlank c && !(28 ≤ c.toNat && c.toNat ≤ 31)

/-- A number in decimal digits, without a zero in front unless it is zero. -/
def plainDigits? (t : Text) : Option Nat :=
  if t.isEmpty || !t.all isAsciiDigit || (t.head? == some '0' && t.length ≠ 1) then none
  else some (t.foldl (fun n c => 10 * n + (c.toNat - 48)) 0)

/-- The number without zeros in front: one is kept before a point or at the end. Underscores among
the zeros go too. -/
def dropZeros? : Text → Option Text
  | '0' :: rest =>
    let tail := rest.dropWhile fun c => c == '0' || c == '_'
    match tail with
    | [] => some [((rest.getLast?).getD '0')]
    | '.' :: _ => some (((rest.take (rest.length - tail.length)).getLast?.getD '0') :: tail)
    | c :: _ => if isAsciiDigit c then some tail else none
  | c :: rest => if isAsciiDigit c || c == '-' then some (c :: rest) else none
  | [] => none

/-- The number without a point that only zeros follow. -/
def dropPoint (t : Text) : Text :=
  let tail := t.dropWhile (· ≠ '.')
  if tail.isEmpty ∨ !tail.tail.all (· == '0') then t else t.takeWhile (· ≠ '.')

/-- The number without single underscores between digits. -/
def dropUnderscores? (t : Text) : Option Text :=
  if t.head? = some '_' ∨ t.getLast? = some '_' ∨ Text.occursIn ['_', '_'] t then none
  else some (t.filter (· ≠ '_'))

def intOfText? (t : Text) : Option Int := do
  let t := ((t.dropWhile isNumberBlank).reverse.dropWhile isNumberBlank).reverse
  let t ← match t with
    | '+' :: '-' :: _ => none
    | '+' :: rest => some rest
    | _ => some t
  let t ← dropUnderscores? (dropPoint (← dropZeros? t))
  match t with
  | '-' :: ds => (plainDigits? ds).map fun n => -(n : Int)
  | ds => (plainDigits? ds).map fun n => (n : Int)

/-- A whole number; a truth value counts as one or zero. -/
def int : Check Int
  | .int i => .ok i
  | .bool b => .ok (if b then 1 else 0)
  | .str t =>
    if t.length > 4300 then fail .intParsingSize
    else match intOfText? t with
      | some i => .ok i
      | none => fail .intParsing
  | .float negative x =>
    match Binary64.ofDecimal x with
    | .infinite => fail .finiteNumber
    | d =>
      match d.toNat? with
      | some n =>
        if n < 0x8000000000000000 then .ok (if negative then -(n : Int) else n)
        else fail .intParsingSize
      | none => fail .intFromFloat
  | .notANumber | .infinity _ => fail .finiteNumber
  | _ => fail .intType

/-- A whole number of at least `least`. -/
def intAtLeast (least : Nat) : Check Nat := fun j =>
  match int j with
  | .ok i => if i < least then fail .greaterThanEqual else .ok i.toNat
  | .error e => .error e

/-- A whole number from `least` to `most`. -/
def intBetween (least most : Nat) : Check Nat := fun j =>
  match int j with
  | .ok i =>
    if i > most then fail .lessThanEqual
    else if i < least then fail .greaterThanEqual
    else .ok i.toNat
  | .error e => .error e

def text : Check Text
  | .str t => .ok t
  | _ => fail .stringType

/-- A text with a number of characters from `least` to `most`. -/
def textOfLength (least most : Nat) : Check Text
  | .str t =>
    if t.length > most then fail .stringTooLong
    else if t.length < least then fail .stringTooShort
    else .ok t
  | _ => fail .stringType

/-- A word for a truth value, in any case. -/
def boolOfText? (t : Text) : Option Bool :=
  let t := String.ofList (t.map Char.toLower)
  if ["1", "on", "t", "true", "y", "yes"].contains t then some true
  else if ["0", "off", "f", "false", "n", "no"].contains t then some false
  else none

/-- A truth value; the numbers one and zero and some words count as such. -/
def bool : Check Bool
  | .bool b => .ok b
  | .str t => match boolOfText? t with
    | some b => .ok b
    | none => fail .boolParsing
  | .int i => if i = 1 then .ok true else if i = 0 then .ok false else fail .boolParsing
  | .float negative x =>
    match (Binary64.ofDecimal x).toNat? with
    | some 0 => .ok false
    | some n => if n = 1 ∧ !negative then .ok true else fail .boolParsing
    | none => fail .boolType
  | _ => fail .boolType

def list {α : Type} (item : Check α) : Check (List α)
  | .arr items =>
    .all (items.zipIdx.map fun (j, i) => (item j).inside (Text.ofNat i))
  | _ => fail .listType

def intPair : Check (Int × Int)
  | .arr items =>
    if items.length > 2 then fail .tooLong
    else
      let part (i : Nat) : Checked Int :=
        (match items[i]? with
          | some j => int j
          | none => fail .missing).inside (Text.ofNat i)
      (part 0).both (part 1)
  | _ => fail .tupleType

/-! ## Fields -/

def field {α : Type} (name : String) (check : Check α) (j : Json) : Checked α :=
  (match j.field? name.toList with
    | some v => check v
    | none => fail .missing).inside name.toList

def fieldOr {α : Type} (name : String) (default : α) (check : Check α) (j : Json) : Checked α :=
  match j.field? name.toList with
  | some v => (check v).inside name.toList
  | none => .ok default

def optional {α : Type} (check : Check α) : Check (Option α)
  | .null => .ok none
  | j => (check j).map some

def record {α : Type} (fields : Json → Checked α) : Check α
  | .obj o => fields (.obj o)
  | _ => fail .modelType

end Outline.Record
