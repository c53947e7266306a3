import Outline.Json.Basic
import Outline.Text.Class
import Outline.Text.CodeTable

/-!
# Reading JSON

A text is one value with white space around it. Values may be nested to a given depth; whole
numbers have a limited number of digits.
-/
namespace Outline.Json

def isSpace (c : Char) : Bool := c == ' ' || c == '\t' || c == '\n' || c == '\r'

def skip (t : Text) : Text := t.dropWhile isSpace

/-- Four hexadecimal digits in front and the rest. -/
def readUnit? : Text → Option (Nat × Text)
  | a :: b :: c :: d :: rest =>
    if [a, b, c, d].all fun x => (Text.hexDigit? x).isSome then
      some (Text.hexValue [a, b, c, d], rest)
    else none
  | _ => none

/-- The character of an escape, after its backslash, and the rest. A surrogate must be the first
of a pair. -/
def readEscape? : Text → Option (Char × Text)
  | '"' :: rest => some ('"', rest)
  | '\\' :: rest => some ('\\', rest)
  | '/' :: rest => some ('/', rest)
  | 'b' :: rest => some ('\x08', rest)
  | 'f' :: rest => some ('\x0c', rest)
  | 'n' :: rest => some ('\n', rest)
  | 'r' :: rest => some ('\r', rest)
  | 't' :: rest => some ('\t', rest)
  | 'u' :: rest => do
    let (hi, rest) ← readUnit? rest
    if 0xDC00 ≤ hi ∧ hi < 0xE000 then none
    else if 0xD800 ≤ hi ∧ hi < 0xDC00 then
      match rest with
      | '\\' :: 'u' :: rest =>
        let (lo, rest) ← readUnit? rest
        if 0xDC00 ≤ lo ∧ lo < 0xE000 then
          some (Char.ofNat (0x10000 + (hi - 0xD800) * 1024 + (lo - 0xDC00)), rest)
        else none
      | _ => none
    else some (Char.ofNat hi, rest)
  | _ => none

/-- The text up to the closing quote, and the rest. -/
def readText? : Nat → Text → Option (Text × Text)
  | 0, _ => none
  | _, [] => none
  | fuel + 1, c :: rest =>
    if c = '"' then some ([], rest)
    else if c = '\\' then do
      let (e, rest) ← readEscape? rest
      let (t, rest) ← readText? fuel rest
      return (e :: t, rest)
    else if c.toNat < 32 then none
    else do
      let (t, rest) ← readText? fuel rest
      return (c :: t, rest)

def digitsValue (t : Text) : Nat := t.foldl (fun n c => 10 * n + (c.toNat - 48)) 0

def spanDigits (t : Text) : Text × Text := (t.takeWhile isAsciiDigit, t.dropWhile isAsciiDigit)

/-- Whole numbers have at most this many digits. -/
def maxDigits : Nat := 4300

/-- The fraction of a number, if there is one: its digits and the rest. -/
def readFraction? : Text → Option (Text × Text)
  | '.' :: rest =>
    let (ds, rest) := spanDigits rest
    if ds.isEmpty then none else some (ds, rest)
  | rest => some ([], rest)

/-- The power of a number, if there is one: its value and the rest. -/
def readPower? (t : Text) : Option (Option Int × Text) :=
  match t with
  | c :: rest =>
    if c = 'e' ∨ c = 'E' then
      let (negative, rest) := match rest with
        | '-' :: rest => (true, rest)
        | '+' :: rest => (false, rest)
        | _ => (false, rest)
      let (ds, rest) := spanDigits rest
      if ds.isEmpty then none
      else some (some (if negative then -(digitsValue ds : Int) else digitsValue ds), rest)
    else some (none, t)
  | [] => some (none, [])

/-- A number after its sign, and the rest. -/
def readNumber? (negative : Bool) (t : Text) : Option (Json × Text) := do
  let (whole, rest) := spanDigits t
  if whole.isEmpty ∨ (whole.head? = some '0' ∧ whole.length ≠ 1) then none
  else do
    let (fraction, rest') ← readFraction? rest
    let (power, rest') ← readPower? rest'
    if fraction.isEmpty ∧ power.isNone then
      if whole.length > maxDigits then none
      else
        let n := digitsValue whole
        return (.int (if negative then -(n : Int) else n), rest')
    else
      let digits := whole ++ fraction
      return (.float negative ⟨digitsValue digits, power.getD 0 - fraction.length⟩, rest')

mutual

/-- A value in front of a text, and the rest. -/
def readValue? (depth : Nat) : Nat → Text → Option (Json × Text)
  | 0, _ => none
  | fuel + 1, t =>
    match skip t with
    | 'n' :: 'u' :: 'l' :: 'l' :: rest => some (.null, rest)
    | 't' :: 'r' :: 'u' :: 'e' :: rest => some (.bool true, rest)
    | 'f' :: 'a' :: 'l' :: 's' :: 'e' :: rest => some (.bool false, rest)
    | 'N' :: 'a' :: 'N' :: rest => some (.notANumber, rest)
    | 'I' :: 'n' :: 'f' :: 'i' :: 'n' :: 'i' :: 't' :: 'y' :: rest => some (.infinity false, rest)
    | '-' :: 'I' :: 'n' :: 'f' :: 'i' :: 'n' :: 'i' :: 't' :: 'y' :: rest =>
      some (.infinity true, rest)
    | '"' :: rest => do
      let (s, rest) ← readText? (rest.length + 1) rest
      return (.str s, rest)
    | '[' :: rest =>
      match depth with
      | 0 => none
      | depth + 1 =>
        match skip rest with
        | ']' :: rest => some (.arr [], rest)
        | rest => do
          let (items, rest) ← readItems? depth fuel rest
          return (.arr items, rest)
    | '\x7b' :: rest =>
      match depth with
      | 0 => none
      | depth + 1 =>
        match skip rest with
        | '\x7d' :: rest => some (.obj [], rest)
        | rest => do
          let (fields, rest) ← readFields? depth fuel [] rest
          return (.obj fields, rest)
    | '-' :: rest => readNumber? true rest
    | rest => readNumber? false rest

/-- Values up to the closing bracket, and the rest. -/
def readItems? (depth : Nat) : Nat → Text → Option (List Json × Text)
  | 0, _ => none
  | fuel + 1, t => do
    let (v, rest) ← readValue? depth fuel t
    match skip rest with
    | ',' :: rest => do
      let (vs, rest) ← readItems? depth fuel rest
      return (v :: vs, rest)
    | ']' :: rest => return ([v], rest)
    | _ => none

/-- Fields up to the closing brace after those in `acc`, and the rest. -/
def readFields? (depth : Nat) : Nat → List (Text × Json) → Text →
    Option (List (Text × Json) × Text)
  | 0, _, _ => none
  | fuel + 1, acc, t =>
    match skip t with
    | '"' :: rest => do
      let (k, rest) ← readText? (rest.length + 1) rest
      match skip rest with
      | ':' :: rest => do
        let (v, rest) ← readValue? depth fuel rest
        let acc := putField k v acc
        match skip rest with
        | ',' :: rest => readFields? depth fuel acc rest
        | '\x7d' :: rest => return (acc, rest)
        | _ => none
      | _ => none
    | _ => none

end

/-- The value that a text is, nested at most `depth` deep. -/
def read? (depth : Nat) (t : Text) : Option Json := do
  let (v, rest) ← readValue? depth (2 * t.length + 2) t
  if (skip rest).isEmpty then some v else none

end Outline.Json
