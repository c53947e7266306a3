import Outline.Pattern.Syntax
import Outline.Text.Blank
import Outline.Text.Case
import Outline.Text.Class

/-!
# Characters of a pattern

When a character satisfies a literal or a set, with and without regard to case, in the full
alphabet or in ASCII. Without regard to case a character is compared in lower case, and small
letters that share their capital count as one.
-/
namespace Outline.Pattern

open Text

/-! ## Case -/

def sharedCapitals : List (List Nat) :=
  [[0x69, 0x131], [0x73, 0x17F], [0xB5, 0x3BC], [0x345, 0x3B9, 0x1FBE], [0x390, 0x1FD3],
    [0x3B0, 0x1FE3], [0x3B2, 0x3D0], [0x3B5, 0x3F5], [0x3B8, 0x3D1], [0x3BA, 0x3F0],
    [0x3C0, 0x3D6], [0x3C1, 0x3F1], [0x3C2, 0x3C3], [0x3C6, 0x3D5], [0x432, 0x1C80],
    [0x434, 0x1C81], [0x43E, 0x1C82], [0x441, 0x1C83], [0x442, 0x1C84, 0x1C85], [0x44A, 0x1C86],
    [0x463, 0x1C87], [0x1C88, 0xA64B], [0x1E61, 0x1E9B], [0xFB05, 0xFB06]]

/-- The small letters that stand for the same as `n`, itself included. -/
def siblings (n : Nat) : List Nat := (sharedCapitals.find? (·.contains n)).getD [n]

/-- The rules for comparing letters. -/
inductive Folding
  | exact
  | ascii
  | full
  deriving DecidableEq

def Flags.folding (f : Flags) : Folding :=
  if !f.ignoreCase then .exact else if f.ascii then .ascii else .full

namespace Folding

def lower : Folding → Nat → Nat
  | .exact, n => n
  | .ascii, n => if 65 ≤ n ∧ n ≤ 90 then n + 32 else n
  | .full, n => lowerCode n

def isCased : Folding → Nat → Bool
  | .exact, _ => false
  | .ascii, n => (65 ≤ n && n ≤ 90) || (97 ≤ n && n ≤ 122)
  | .full, n => lowerCode n != n || upperCode n != n

/-- The lower-case code points that compare equal to `n`, which is in lower case. -/
def family : Folding → Nat → List Nat
  | .full, n => siblings n
  | _, n => [n]

/-- Whether some code point from `first` to `last` has the lower-case form `n`. -/
def spanReaches (f : Folding) (first last n : Nat) : Bool :=
  let inside (m : Nat) : Bool := first ≤ m && m ≤ last
  match f with
  | .exact => inside n
  | .ascii => (inside n && lower .ascii n == n) || (97 ≤ n && n ≤ 122 && inside (n - 32))
  | .full =>
    (inside n && lowerCode n == n) ||
      (n < 128 && 97 ≤ n && n ≤ 122 && inside (n - 32)) ||
      lowerRuns.any fun run =>
        let m := (n - run.shift : Int).toNat
        run.first ≤ m && m ≤ run.last && (m - run.first) % run.step == 0 &&
          (m : Int) + run.shift == n && inside m && 128 ≤ m

/-- Whether some code point from `first` to `last` has another case. -/
def spanIsCased (f : Folding) (first last : Nat) : Bool :=
  let meets (lo hi step : Nat) : Bool :=
    let start := if first ≤ lo then lo else lo + (first - lo + step - 1) / step * step
    start ≤ hi && start ≤ last
  match f with
  | .exact => false
  | .ascii => meets 65 90 1 || meets 97 122 1
  | .full =>
    (lowerRuns.any fun run => meets run.first run.last run.step) ||
      upperRuns.any fun run => meets run.first run.last run.step

end Folding

/-! ## Classes and sets -/

/-- Whether a code point belongs to a named class. -/
def Category.holds (ascii : Bool) (cat : Category) (n : Nat) : Bool :=
  let c := Char.ofNat n
  match cat with
  | .digit => if ascii then isAsciiDigit c else isDecimal c
  | .blank => if ascii then n == 32 || (9 ≤ n && n ≤ 13) else isBlank c
  | .word => if ascii then isAsciiDigit c || isAsciiLetter c || c == '_' else isWordChar c

/-- Whether a code point, already in lower case where case does not count, belongs to a member
that takes part in case folding. Members beyond U+FFFF are compared as they are written, a span
of them also with the capital. -/
def Member.holdsFolded (f : Folding) (ascii : Bool) (n : Nat) : Member → Bool
  | .one code =>
    if code > 0xFFFF then n == code else (f.family (f.lower code)).contains n
  | .span first last =>
    ((f.family n).any fun m => f.spanReaches first (min last 0xFFFF) m) ||
      (last > 0xFFFF && ((first ≤ n && n ≤ last) ||
        (first ≤ upperCode n && upperCode n ≤ last)))
  | .class cat inside => cat.holds ascii n == inside

/-- Whether a code point belongs to a member as it is written. -/
def Member.holds (ascii : Bool) (n : Nat) : Member → Bool
  | .one code => n == code
  | .span first last => first ≤ n && n ≤ last
  | .class cat inside => cat.holds ascii n == inside

def Member.isCased (f : Folding) : Member → Bool
  | .one code => code > 0xFFFF || f.isCased code
  | .span first last => last > 0xFFFF || f.spanIsCased first last
  | .class .. => false

/-- Whether a code point belongs to a set. Only a set that holds a letter with another case
disregards case. -/
def setHolds (flags : Flags) (negated : Bool) (members : List Member) (n : Nat) : Bool :=
  let f := flags.folding
  let found :=
    if f ≠ .exact ∧ members.any (·.isCased f) then
      members.any (·.holdsFolded f flags.ascii (f.lower n))
    else members.any (·.holds flags.ascii n)
  found != negated

def literalHolds (flags : Flags) (code n : Nat) : Bool :=
  let f := flags.folding
  if f.isCased code then (f.family (f.lower code)).contains (f.lower n) else n == code

end Outline.Pattern
