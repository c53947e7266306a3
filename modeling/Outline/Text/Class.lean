import Outline.Text.Basic
import Outline.Text.Blank
import Outline.Text.ClassTable

/-!
# Character classes

Word characters, digits, identifier characters and printable characters. Below U+0080 each class
is spelled out; beyond, it is a table.
-/
namespace Outline

open Text

def isAsciiDigit (c : Char) : Bool := '0' ≤ c && c ≤ '9'

def isAsciiLetter (c : Char) : Bool := ('a' ≤ c && c ≤ 'z') || ('A' ≤ c && c ≤ 'Z')

/-- A letter, a digit or another number sign. -/
def isAlnum (c : Char) : Bool :=
  if c.toNat < 128 then isAsciiLetter c || isAsciiDigit c else alnumSet.contains c.toNat

/-- A word character: a letter, a number sign or the underscore. -/
def isWordChar (c : Char) : Bool := c == '_' || isAlnum c

def isLetter (c : Char) : Bool :=
  if c.toNat < 128 then isAsciiLetter c else letterSet.contains c.toNat

def isDecimal (c : Char) : Bool :=
  if c.toNat < 128 then isAsciiDigit c else decimalSet.contains c.toNat

/-- The value of a decimal digit of any script; each script's digits stand in a row from zero. -/
def decimalValue? (c : Char) : Option Nat :=
  if isAsciiDigit c then some (c.toNat - 48)
  else if c.toNat < 128 then none
  else (decimalSet.runStart? c.toNat).map fun first => (c.toNat - first) % 10

def isIdentifierStart (c : Char) : Bool :=
  if c.toNat < 128 then isAsciiLetter c || c == '_' else identifierStartSet.contains c.toNat

def isIdentifierChar (c : Char) : Bool :=
  if c.toNat < 128 then isAsciiLetter c || isAsciiDigit c || c == '_'
  else identifierSet.contains c.toNat

/-- Whether a quoted text shows the character as itself. -/
def isPrintable (c : Char) : Bool :=
  if c.toNat < 128 then 32 ≤ c.toNat && c.toNat < 127 else printableSet.contains c.toNat

namespace Text

def isIdentifier : Text → Bool
  | [] => false
  | c :: cs => isIdentifierStart c && cs.all isIdentifierChar

/-- The digits of a whole number: decimal digits of any script, single underscores between. -/
def digitsValue? (t : Text) : Option Nat := go 0 false t
where
  /-- Goes on from the value read so far; `open'` says whether a digit came just before. -/
  go (acc : Nat) (open' : Bool) : Text → Option Nat
    | [] => if open' then some acc else none
    | c :: cs =>
      if c = '_' then
        match open', cs with
        | true, d :: _ => if (decimalValue? d).isSome then go acc false cs else none
        | _, _ => none
      else match decimalValue? c with
        | some d => go (10 * acc + d) true cs
        | none => none

/-- A text with more digits than this is not read as a number. -/
def digitLimit : Nat := 4300

/-- The whole number of at least zero that a text spells: its digits, with a sign in front and white
space around it if need be. -/
def wholeNumber? (t : Text) : Option Nat :=
  match t.trim with
  | '+' :: ds => short? ds
  | '-' :: ds => if short? ds = some 0 then some 0 else none
  | ds => short? ds
where
  /-- The number, unless it has too many digits. -/
  short? (ds : Text) : Option Nat :=
    if (ds.filter (· ≠ '_')).length > digitLimit then none else digitsValue? ds

end Text

end Outline
