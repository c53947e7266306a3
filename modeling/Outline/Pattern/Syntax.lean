import Outline.Text.Basic

/-!
# Pattern syntax

A pattern is an expression over atoms, which look at one place of the text, and of the ways to put
patterns together. Code points are numbers here, since a pattern may name one that no text holds.
-/
namespace Outline.Pattern

/-- A named class of characters. -/
inductive Category
  | digit
  | blank
  | word
  deriving DecidableEq, Repr

/-- A part of a character set. -/
inductive Member
  | one (code : Nat)
  | span (first last : Nat)
  | class (category : Category) (inside : Bool)
  deriving DecidableEq, Repr

/-- A condition on a place between characters. -/
inductive Anchor
  | lineStart
  | lineEnd
  | textStart
  | textEnd
  | wordEdge
  | noWordEdge
  deriving DecidableEq, Repr

/-- What looks at one place only. -/
inductive Atom
  | literal (code : Nat)
  | except (code : Nat)
  | any
  | set (negated : Bool) (members : List Member)
  | anchor (a : Anchor)
  | backref (group : Nat)
  deriving DecidableEq, Repr

/-- The switches of a pattern or of a group in it. -/
structure Flags where
  ignoreCase : Bool := false
  multiLine : Bool := false
  dotAll : Bool := false
  verbose : Bool := false
  ascii : Bool := false
  unicode : Bool := false
  template : Bool := false
  deriving DecidableEq, Repr

/-- The switches inside a group that turns some on and some off; the two alphabets exclude each
other. -/
def Flags.within (outer on off : Flags) : Flags :=
  let alphabet := on.ascii || on.unicode
  { ignoreCase := (outer.ignoreCase || on.ignoreCase) && !off.ignoreCase
    multiLine := (outer.multiLine || on.multiLine) && !off.multiLine
    dotAll := (outer.dotAll || on.dotAll) && !off.dotAll
    verbose := (outer.verbose || on.verbose) && !off.verbose
    ascii := if alphabet then on.ascii else outer.ascii
    unicode := if alphabet then on.unicode else outer.unicode
    template := outer.template || on.template }

def Flags.union (f g : Flags) : Flags :=
  { ignoreCase := f.ignoreCase || g.ignoreCase
    multiLine := f.multiLine || g.multiLine
    dotAll := f.dotAll || g.dotAll
    verbose := f.verbose || g.verbose
    ascii := f.ascii || g.ascii
    unicode := f.unicode || g.unicode
    template := f.template || g.template }

def Flags.overlap (f g : Flags) : Bool :=
  (f.ignoreCase && g.ignoreCase) || (f.multiLine && g.multiLine) || (f.dotAll && g.dotAll) ||
    (f.verbose && g.verbose) || (f.ascii && g.ascii) || (f.unicode && g.unicode) ||
    (f.template && g.template)

/-- How a repetition weighs more rounds against fewer. -/
inductive Greed
  | greedy
  | lazy
  | possessive
  deriving DecidableEq, Repr

/-- A pattern. A round of a repetition without an upper bound has `none` as its bound; a look
behind carries the number of characters that it goes back. -/
inductive Expr
  | empty
  | atom (a : Atom)
  | seq (p q : Expr)
  | alt (p q : Expr)
  | capture (group : Nat) (body : Expr)
  | scoped (on off : Flags) (body : Expr)
  | atomic (body : Expr)
  | repeated (greed : Greed) (least : Nat) (most : Option Nat) (body : Expr)
  | lookAhead (positive : Bool) (body : Expr)
  | lookBehind (positive : Bool) (back : Nat) (body : Expr)
  | ifGroup (group : Nat) (yes no : Expr)
  deriving DecidableEq, Repr

namespace Expr

def ofSequence : List Expr → Expr
  | [] => .empty
  | [p] => p
  | p :: ps => .seq p (ofSequence ps)

/-- One or the other, earlier ones first. -/
def ofChoices : List Expr → Expr
  | [] => .empty
  | [p] => p
  | p :: ps => .alt p (ofChoices ps)

def hasRepetition : Expr → Bool
  | .empty | .atom _ => false
  | .seq p q | .alt p q | .ifGroup _ p q => p.hasRepetition || q.hasRepetition
  | .capture _ p | .scoped _ _ p | .atomic p | .lookAhead _ p | .lookBehind _ _ p =>
    p.hasRepetition
  | .repeated .. => true

/-! ## Width -/

/-- No width counts beyond this. -/
def maxWidth : Nat := 0x10000000000000000

/-- The least and the greatest number of characters that the pattern can take up, where `groups`
gives those of the groups it refers to. -/
def width (groups : Nat → Nat × Nat) : Expr → Nat × Nat
  | .empty => (0, 0)
  | .atom (.anchor _) => (0, 0)
  | .atom (.backref g) => groups g
  | .atom _ => (1, 1)
  | .seq p q =>
    let (a, b) := p.width groups
    let (c, d) := q.width groups
    (min (a + c) maxWidth, min (b + d) maxWidth)
  | .alt p q =>
    let (a, b) := p.width groups
    let (c, d) := q.width groups
    (min a c, max b d)
  | .ifGroup _ p q =>
    let (a, b) := p.width groups
    let (c, d) := q.width groups
    (min a c, max b d)
  | .capture _ p | .scoped _ _ p | .atomic p => p.width groups
  | .lookAhead .. | .lookBehind .. => (0, 0)
  | .repeated _ least most p =>
    let (a, b) := p.width groups
    let hi := match most with
      | some n => b * n
      | none => if b = 0 then 0 else maxWidth
    (min (a * least) maxWidth, min hi maxWidth)

end Expr

end Outline.Pattern
