import Outline.Text.Class
import Outline.Text.Utf8

/-!
# Quoted texts

A text in quotes: single quotes unless it holds one and no double quote. Backslashes, the quote
itself and characters that cannot be printed are escaped. The text is given by its code points,
which may be surrogates.
-/
namespace Outline.Text

/-- Hexadecimal digits of a number, at least `width` of them. -/
def hexDigits (width n : Nat) : Text :=
  let ds := Nat.toDigits 16 n
  List.replicate (width - ds.length) '0' ++ ds

/-- Whether a quoted text shows the code point as itself; a surrogate is never shown. -/
def showsCode (n : Nat) : Bool := n.isValidChar && isPrintable (Char.ofNat n)

/-- The escape of a code point by its number, or by a letter if it has one. -/
def escapeCode (n : Nat) : Text :=
  if n = 92 then ['\\', '\\']
  else if n = 10 then ['\\', 'n']
  else if n = 13 then ['\\', 'r']
  else if n = 9 then ['\\', 't']
  else if n < 0x100 then '\\' :: 'x' :: hexDigits 2 n
  else if n < 0x10000 then '\\' :: 'u' :: hexDigits 4 n
  else '\\' :: 'U' :: hexDigits 8 n

def quoteFor (codes : List Nat) : Char :=
  if codes.contains '\''.toNat && !codes.contains '"'.toNat then '"' else '\''

def quoteCode (quote : Char) (n : Nat) : Text :=
  if n = quote.toNat then ['\\', quote]
  else if n ≠ 92 && showsCode n then [Char.ofNat n]
  else escapeCode n

def quotedCodes (codes : List Nat) : Text :=
  let quote := quoteFor codes
  quote :: codes.flatMap (quoteCode quote) ++ [quote]

def quoted (t : Text) : Text := quotedCodes (t.map Char.toNat)

def quoteByte (quote : Char) (n : Nat) : Text :=
  if n = quote.toNat then ['\\', quote]
  else if 32 ≤ n && n < 127 && n ≠ 92 then [Char.ofNat n]
  else escapeCode n

/-- Bytes in quotes, after the letter that marks them. -/
def quotedBytes (bytes : List Nat) : Text :=
  let quote := quoteFor bytes
  'b' :: quote :: bytes.flatMap (quoteByte quote) ++ [quote]

end Outline.Text
