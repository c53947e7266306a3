import Outline.Decimal.Binary64
import Outline.Text.Class
import Outline.Text.CodeTable
import Outline.Text.Utf8

/-!
# Literals

The values of numbers and strings. The value of a string is a list of code points, which may be
surrogates. A formatted string is kept as its text and read with the expressions in it.

The names of characters are not known here. An escape that gives a character by its name is taken as
good if the name is well formed, also where there is no such character, and stands for the
replacement character.
-/
namespace Outline.Source

/-- The value of a literal. A string may carry a mark from its prefix. -/
inductive Literal
  | none
  | true
  | false
  | ellipsis
  | int (n : Nat)
  | float (value : Decimal)
  | imaginary (value : Decimal)
  | string (codes : List Nat) (marked : Bool)
  | bytes (values : List Nat)
  deriving DecidableEq, Repr

namespace Literal

/-! ## Numbers -/

def digitsIn (base : Nat) (t : Text) : Nat :=
  t.foldl (fun n c => base * n + (Text.hexDigit? c).getD 0) 0

/-- A decimal whole number has at most this many digits. -/
def maxDigits : Nat := 4300

/-- The number that digits with a point and a power mean. -/
def decimal (t : Text) : Decimal :=
  let mantissa := t.takeWhile fun c => c ≠ 'e' && c ≠ 'E'
  let power := t.drop (mantissa.length + 1)
  let whole := mantissa.takeWhile (· ≠ '.')
  let fraction := mantissa.drop (whole.length + 1)
  let exponent : Int := match power with
    | '-' :: ds => -(digitsIn 10 ds : Int)
    | '+' :: ds => digitsIn 10 ds
    | ds => digitsIn 10 ds
  ⟨digitsIn 10 (whole ++ fraction), exponent - fraction.length⟩

def ofNumber? (t : Text) : Option Literal :=
  match t.filter (· ≠ '_') with
  | '0' :: c :: ds =>
    if c = 'x' ∨ c = 'X' then some (int (digitsIn 16 ds))
    else if c = 'o' ∨ c = 'O' then some (int (digitsIn 8 ds))
    else if c = 'b' ∨ c = 'B' then some (int (digitsIn 2 ds))
    else ofDecimal ('0' :: c :: ds)
  | t => ofDecimal t
where
  /-- The value of a number in decimal digits. -/
  ofDecimal (t : Text) : Option Literal :=
    match t.getLast? with
    | some c =>
      if c = 'j' ∨ c = 'J' then some (imaginary (decimal t.dropLast))
      else if t.all isAsciiDigit then
        if t.length ≤ maxDigits then some (int (digitsIn 10 t)) else Option.none
      else some (float (decimal t))
    | Option.none => Option.none

/-! ## Strings -/

/-- A string literal taken apart: its switches and what stands between the quotes. -/
structure Quotation where
  raw : Bool
  isBytes : Bool
  isFormatted : Bool
  isMarked : Bool
  body : Text

def Quotation.ofText (t : Text) : Quotation :=
  let letters := t.takeWhile isAsciiLetter
  let has (a b : Char) : Bool := letters.contains a || letters.contains b
  let quoted := t.drop letters.length
  let size := match quoted with
    | a :: b :: c :: _ :: _ :: _ :: _ => if a = b ∧ b = c then 3 else 1
    | _ => 1
  { raw := has 'r' 'R', isBytes := has 'b' 'B', isFormatted := has 'f' 'F'
    isMarked := letters.head? == some 'u'
    body := (quoted.drop size).take (quoted.length - 2 * size) }

def escapes : List (Char × Nat) :=
  [('\\', 92), ('\'', 39), ('"', 34), ('a', 7), ('b', 8), ('f', 12), ('n', 10), ('r', 13),
    ('t', 9), ('v', 11)]

def isOctal (c : Char) : Bool := '0' ≤ c && c ≤ '7'

/-- The value of exactly `n` hexadecimal digits in front, and the rest. -/
def hexEscape? (n : Nat) (t : Text) : Option (Nat × Text) :=
  let ds := t.take n
  if ds.length = n ∧ ds.all (fun c => (Text.hexDigit? c).isSome) then
    some (digitsIn 16 ds, t.drop n)
  else Option.none

/-- The replacement character, which stands for any character that is given by its name. -/
def namedCode : Nat := 0xFFFD

def afterCharName? : Text → Option Text
  | '\x7b' :: rest =>
    let name := rest.takeWhile (· ≠ '\x7d')
    if name.isEmpty ∨ !name.all fun c => isAsciiLetter c || isAsciiDigit c || c == ' ' || c == '-'
    then Option.none
    else match rest.drop name.length with
      | _ :: rest => some rest
      | [] => Option.none
  | _ => Option.none

/-- The code points of a character escape, after its backslash, and the rest. An escape of no
meaning stands for itself with its backslash. -/
def textEscape? (t : Text) : Option (List Nat × Text) :=
  match t with
  | [] => some ([92], [])
  | c :: rest =>
    if c = '\n' then some ([], rest)
    else match escapes.lookup c with
      | some n => some ([n], rest)
      | Option.none =>
        if isOctal c then
          let ds := (t.take 3).takeWhile isOctal
          some ([digitsIn 8 ds], t.drop ds.length)
        else if c = 'x' then (hexEscape? 2 rest).map fun (n, rest) => ([n], rest)
        else if c = 'u' then (hexEscape? 4 rest).map fun (n, rest) => ([n], rest)
        else if c = 'U' then do
          let (n, rest) ← hexEscape? 8 rest
          if n ≤ 0x10FFFF then some ([n], rest) else Option.none
        else if c = 'N' then (afterCharName? rest).map fun rest => ([namedCode], rest)
        else some ([92, c.toNat], rest)

/-- The byte of an escape in bytes, after its backslash, and the rest. -/
def byteEscape? (t : Text) : Option (List Nat × Text) :=
  match t with
  | [] => Option.none
  | c :: rest =>
    if c = '\n' then some ([], rest)
    else match escapes.lookup c with
      | some n => some ([n], rest)
      | Option.none =>
        if isOctal c then
          let ds := (t.take 3).takeWhile isOctal
          some ([digitsIn 8 ds % 256], t.drop ds.length)
        else if c = 'x' then (hexEscape? 2 rest).map fun (n, rest) => ([n], rest)
        else some ([92, c.toNat], rest)

/-- The code points of a text in which backslashes begin escapes. -/
def decodeFrom (escape? : Text → Option (List Nat × Text)) : Nat → Text → Option (List Nat)
  | 0, _ => some []
  | _, [] => some []
  | fuel + 1, c :: rest =>
    if c = '\\' then do
      let (codes, rest) ← escape? rest
      return codes ++ (← decodeFrom escape? fuel rest)
    else do return c.toNat :: (← decodeFrom escape? fuel rest)

def decodeText? (raw : Bool) (t : Text) : Option (List Nat) :=
  if raw then some (t.map Char.toNat) else decodeFrom textEscape? t.length t

/-- The values of the text of bytes, which are ASCII. -/
def decodeBytes? (raw : Bool) (t : Text) : Option (List Nat) :=
  if t.any (·.toNat ≥ 128) then Option.none
  else if raw then some (t.map Char.toNat)
  else decodeFrom byteEscape? t.length t

end Literal

end Outline.Source
