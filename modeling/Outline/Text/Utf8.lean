import Outline.Text.Basic

/-!
# UTF-8

The bytes of a text, and reading bytes back as a text. Overlong forms and surrogates
are not well-formed; the error of a malformed text says which bytes cannot be read and why.
-/
namespace Outline

namespace Text

/-- Bytes of one code point. -/
def utf8Width (c : Char) : Nat :=
  if c.toNat < 0x80 then 1 else if c.toNat < 0x800 then 2 else if c.toNat < 0x10000 then 3 else 4

def utf8Size : Text → Nat
  | [] => 0
  | c :: cs => utf8Width c + utf8Size cs

end Text

namespace Utf8

/-- What is wrong with bytes that cannot be read. -/
inductive Reason
  | invalidStart
  | invalidContinuation
  | unexpectedEnd
  deriving DecidableEq, Repr

/-- The bytes from `start` to `stop` (exclusive) cannot be read; `byte` is the first of them. -/
structure DecodeError where
  start : Nat
  stop : Nat
  byte : Nat
  reason : Reason
  deriving DecidableEq, Repr

def Reason.message : Reason → String
  | invalidStart => "invalid start byte"
  | invalidContinuation => "invalid continuation byte"
  | unexpectedEnd => "unexpected end of data"

def hexChar (n : Nat) : Char := if n < 10 then Char.ofNat (48 + n) else Char.ofNat (87 + n)

def DecodeError.message (e : DecodeError) : Text :=
  "'utf-8' codec can't decode byte".toList ++
    (if e.stop = e.start + 1 then
      " 0x".toList ++ [hexChar (e.byte / 16), hexChar (e.byte % 16)] ++
        " in position ".toList ++ Text.ofNat e.start
    else
      "s in position ".toList ++ Text.ofNat e.start ++ ['-'] ++ Text.ofNat (e.stop - 1)) ++
    ": ".toList ++ e.reason.message.toList

/-- A continuation byte. -/
def isTail (b : Nat) : Bool := 0x80 ≤ b && b ≤ 0xBF

/-- What the bytes at the front are: a character with the number of its bytes, or how many bytes
are at fault and why. -/
inductive Front
  | char (c : Char) (width : Nat)
  | fault (width : Nat) (reason : Reason)

/-- Reads a character whose lead byte announces `more` continuation bytes and contributes `lead`;
the first continuation byte must lie between `lo` and `hi`. -/
def front (lead lo hi more : Nat) (rest : List Nat) : Front :=
  match rest with
  | [] => .fault 1 .unexpectedEnd
  | b :: rest =>
    if !(isTail b && lo ≤ b && b ≤ hi) then .fault 1 .invalidContinuation
    else
      let one := lead * 64 + (b - 0x80)
      match more, rest with
      | 0, _ | 1, _ => .char (Char.ofNat one) 2
      | _, [] => .fault 2 .unexpectedEnd
      | more, c :: rest =>
        if !isTail c then .fault 2 .invalidContinuation
        else
          let two := one * 64 + (c - 0x80)
          match more, rest with
          | 2, _ => .char (Char.ofNat two) 3
          | _, [] => .fault 3 .unexpectedEnd
          | _, d :: _ =>
            if !isTail d then .fault 3 .invalidContinuation
            else .char (Char.ofNat (two * 64 + (d - 0x80))) 4

/-- What the bytes at the front are, the lead byte given apart. -/
def frontOf (a : Nat) (rest : List Nat) : Front :=
  if a < 0x80 then .char (Char.ofNat a) 1
  else if a < 0xC2 then .fault 1 .invalidStart
  else if a < 0xE0 then front (a - 0xC0) 0x80 0xBF 1 rest
  else if a < 0xF0 then
    front (a - 0xE0) (if a = 0xE0 then 0xA0 else 0x80) (if a = 0xED then 0x9F else 0xBF) 2 rest
  else if a < 0xF5 then
    front (a - 0xF0) (if a = 0xF0 then 0x90 else 0x80) (if a = 0xF4 then 0x8F else 0xBF) 3 rest
  else .fault 1 .invalidStart

/-- Reads bytes from position `pos` on, of which the first `skip` belong to a character already
read. -/
def decodeFrom (pos skip : Nat) : List Nat → Except DecodeError Text
  | [] => .ok []
  | a :: rest =>
    match skip with
    | n + 1 => decodeFrom (pos + 1) n rest
    | 0 =>
      match frontOf a rest with
      | .char c width => do return c :: (← decodeFrom (pos + 1) (width - 1) rest)
      | .fault width reason => .error ⟨pos, pos + width, a, reason⟩

def decode (bytes : List Nat) : Except DecodeError Text := decodeFrom 0 0 bytes

def encodeChar (c : Char) : List Nat :=
  let n := c.toNat
  if n < 0x80 then [n]
  else if n < 0x800 then [0xC0 + n / 64, 0x80 + n % 64]
  else if n < 0x10000 then [0xE0 + n / 4096, 0x80 + n / 64 % 64, 0x80 + n % 64]
  else [0xF0 + n / 262144, 0x80 + n / 4096 % 64, 0x80 + n / 64 % 64, 0x80 + n % 64]

def encode (t : Text) : List Nat := t.flatMap encodeChar

end Utf8

end Outline
