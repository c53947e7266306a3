import Outline.Pattern.Matcher
import Outline.Query.Token

/-!
# Pattern tokens

A pattern token is written `/body/letters`. The body may hold slashes, the letters are any of
`gimsuy`; `i`, `m` and `s` are switches of the pattern, the others have no effect.
-/
namespace Outline

/-- A fault of a pattern that does not just make the token useless but ends the whole query. Groups
nested deeper than a limit on recursion allows would be another; there is no such limit here. -/
inductive Abort
  | repetitionTooLarge
  | numberTooLong (digits : Nat)
  | clashingAlphabets
  deriving DecidableEq, Repr

def Abort.message : Abort → String
  | repetitionTooLarge => "the repetition number is too large"
  | numberTooLong digits => "Exceeds the limit (4300 digits) for integer string conversion: value has " ++
    toString digits ++ " digits; use sys.set_int_max_str_digits() to increase the limit"
  | clashingAlphabets => "ASCII and UNICODE flags are incompatible"

namespace RegexToken

/-- A letter that may stand behind the closing slash. -/
def isLetter (c : Char) : Bool := ['g', 'i', 'm', 's', 'u', 'y'].contains c

/-- The text without one line feed at its end. -/
def dropLineFeed (t : Text) : Text := if t.getLast? = some '\n' then t.dropLast else t

def split? : Text → Option (Text × Text)
  | '/' :: rest =>
    let backward := (dropLineFeed rest).reverse
    let letters := backward.takeWhile isLetter
    match backward.drop letters.length with
    | '/' :: body => some (body.reverse, letters.reverse)
    | _ => none
  | _ => none

def flags (letters : Text) : Pattern.Flags :=
  { ignoreCase := letters.contains 'i'
    multiLine := letters.contains 'm'
    dotAll := letters.contains 's' }

/-- The pattern of a token, or `none` when the token is malformed. -/
def compile? (pattern : Text) : Except Abort (Option Pattern.Compiled) :=
  match split? pattern with
  | none => .ok none
  | some (body, letters) =>
    match Pattern.read (flags letters) body with
    | .ok p => .ok (some p)
    | .error .malformed => .ok none
    | .error .repetitionTooLarge => .error .repetitionTooLarge
    | .error (.numberTooLong digits) => .error (.numberTooLong digits)
    | .error .clashingAlphabets => .error .clashingAlphabets

end RegexToken

end Outline
