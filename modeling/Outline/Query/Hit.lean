import Outline.Document.Basic
import Outline.Query.RegexToken

/-!
# Hits

A line satisfies a list of tokens when it satisfies each. A token that is not negated leaves the
span of its first occurrence, a negated one leaves nothing, and a malformed pattern is satisfied
by no line, negated or not.
-/
namespace Outline

/-- Some characters of a line. -/
structure Span where
  start : Nat
  length : Nat
  deriving DecidableEq, Repr

/-- A line that satisfies a query, with the spans that its tokens left. -/
structure Hit where
  line : Nat
  spans : List Span
  deriving DecidableEq, Repr

namespace Token

/-- Where the token first occurs in a line: the outer `none` says that its pattern is malformed,
the inner that it does not occur. The length of a plain token is that of its pattern as typed. -/
def locate (t : Token) (text : Text) : Except Abort (Option (Option Span)) :=
  if t.isRegex then do
    match ← RegexToken.compile? t.pattern with
    | none => return none
    | some p => return some ((p.search text).map fun (a, b) => ⟨a, b - a⟩)
  else
    let index :=
      if t.caseSensitive then Text.find? t.pattern text
      else Text.find? t.pattern.lower text.lower
    .ok (some (index.map fun i => ⟨i, t.pattern.length⟩))

/-- The spans that the token leaves on a line, or `none` when the line does not satisfy it. -/
def spans? (t : Token) (text : Text) : Except Abort (Option (List Span)) := do
  match ← t.locate text with
  | none => return none
  | some none => return if t.negate then some [] else none
  | some (some s) => return if t.negate then none else some [s]

end Token

/-- The spans that all tokens leave on a line, or `none` when the line fails one of them. Tokens
after the first that fails are not looked at. -/
def matchSpans (text : Text) : List Token → Except Abort (Option (List Span))
  | [] => .ok (some [])
  | t :: ts => do
    match ← t.spans? text with
    | none => return none
    | some ss =>
      match ← matchSpans text ts with
      | none => return none
      | some rest => return some (ss ++ rest)

/-- The hit of a line, if it satisfies all tokens. -/
def matchLine (line : Nat) (text : Text) (tokens : List Token) : Except Abort (Option Hit) := do
  return (← matchSpans text tokens).map (⟨line, ·⟩)

/-- What can go wrong with a line that comes with a number of its own. -/
inductive NumberedLineError
  | aborted (cause : Abort)
  | negativeLine

/-- The hit of a line under a given number, which must not be negative if the line is a hit. -/
def matchNumbered (line : Int) (text : Text) (tokens : List Token) :
    Except NumberedLineError (Option Hit) :=
  match matchSpans text tokens with
  | .error cause => .error (.aborted cause)
  | .ok none => .ok none
  | .ok (some ss) => if line < 0 then .error .negativeLine else .ok (some ⟨line.toNat, ss⟩)

/-- The hits among numbered lines, in order. -/
def searchLines (tokens : List Token) : List (Int × Text) → Except NumberedLineError (List Hit)
  | [] => .ok []
  | (n, text) :: rest => do
    let hit ← matchNumbered n text tokens
    return hit.toList ++ (← searchLines tokens rest)

/-- The hits among lines numbered from `line` on. -/
def hitsFrom (tokens : List Token) (line : Nat) : List Text → Except Abort (List Hit)
  | [] => .ok []
  | text :: rest => do
    let hit ← matchLine line text tokens
    return hit.toList ++ (← hitsFrom tokens (line + 1) rest)

/-- The hits among the lines of a document, in order. -/
def Document.hits (d : Document) (tokens : List Token) : Except Abort (List Hit) :=
  hitsFrom tokens 0 d.lines

end Outline
