import Outline.Pattern.Charset
import Outline.Pattern.Reader

/-!
# Matching patterns

A pattern denotes a matcher: from a state it tries its ways through the text in order and hands
each to a continuation, and the first way that the continuation accepts wins. Searching takes the
first place of the text from which the whole pattern has such a way.
-/
namespace Outline.Pattern

/-- Where a match stands, and where each group last began and ended. -/
structure State where
  pos : Nat
  opened : List (Option Nat)
  closed : List (Option Nat)

abbrev Goal := State → Option State

/-- A way to go on from a state towards a goal. -/
abbrev Matcher := State → Goal → Option State

def State.start (groups pos : Nat) : State :=
  ⟨pos, List.replicate groups none, List.replicate groups none⟩

/-- What a group last matched, as start and end; a group that began again behind its last end has
matched nothing. -/
def State.group? (s : State) (g : Nat) : Option (Nat × Nat) := do
  let a ← (s.opened[g - 1]?).join
  let b ← (s.closed[g - 1]?).join
  if a ≤ b then some (a, b) else none

namespace Matcher

/-- Tries the first way, then the second. -/
def orElse (m m' : Matcher) : Matcher := fun s k =>
  match m s k with
  | some r => some r
  | none => m' s k

/-- Exactly `n` rounds. -/
def times (m : Matcher) : Nat → Matcher
  | 0 => fun s k => k s
  | n + 1 => fun s k => m s fun s' => times m n s' k

/-- Exactly `n` rounds, each of which keeps the first way it finds. -/
def timesFixed (m : Matcher) : Nat → State → Option State
  | 0, s => some s
  | n + 1, s =>
    match m s some with
    | some s' => timesFixed m n s'
    | none => none

/-- As many further rounds as possible first, at most `most`. A round that takes up nothing is the
last one. -/
def greedy (size : Nat) (m : Matcher) (most : Option Nat) (s : State) (k : Goal) : Option State :=
  if most = some 0 then k s
  else
    match m s fun s' =>
        if _h : s.pos < s'.pos ∧ s'.pos ≤ size then greedy size m (most.map (· - 1)) s' k
        else k s' with
    | some r => some r
    | none => k s
termination_by size - s.pos

/-- As few further rounds as possible first, at most `most`. -/
def lazy (size : Nat) (m : Matcher) (most : Option Nat) (s : State) (k : Goal) : Option State :=
  match k s with
  | some r => some r
  | none =>
    if most = some 0 then none
    else
      m s fun s' =>
        if _h : s.pos < s'.pos ∧ s'.pos ≤ size then lazy size m (most.map (· - 1)) s' k
        else k s'
termination_by size - s.pos

/-- As many further rounds as possible, at most `most`, none of which is taken back. -/
def possessive (size : Nat) (m : Matcher) (most : Option Nat) (s : State) : State :=
  if most = some 0 then s
  else
    match m s some with
    | some s' =>
      if _h : s.pos < s'.pos ∧ s'.pos ≤ size then possessive size m (most.map (· - 1)) s' else s'
    | none => s
termination_by size - s.pos

/-- A repetition. -/
def repeated (size : Nat) (greed : Greed) (least : Nat) (most : Option Nat) (m : Matcher) :
    Matcher := fun s k =>
  let rest := most.map (· - least)
  match greed with
  | .greedy => m.times least s fun s' => greedy size m rest s' k
  | .lazy => m.times least s fun s' => lazy size m rest s' k
  | .possessive =>
    match timesFixed m least s with
    | some s' => k (possessive size m rest s')
    | none => none

end Matcher

/-! ## Atoms -/

/-- Whether a word character of the chosen alphabet stands at a place. -/
def wordAt (text : Array Char) (flags : Flags) (i : Nat) : Bool :=
  match text[i]? with
  | some c => Category.word.holds flags.ascii c.toNat
  | none => false

def lineFeedAt (text : Array Char) (i : Nat) : Bool := text[i]? == some '\n'

def wordEdgeAt (text : Array Char) (flags : Flags) (i : Nat) : Bool :=
  wordAt text flags i != (0 < i && wordAt text flags (i - 1))

/-- Whether an anchor holds at a place. No place of an empty text is at the edge of a word, and
none is away from it. -/
def Anchor.holds (text : Array Char) (flags : Flags) (i : Nat) : Anchor → Bool
  | .lineStart => i == 0 || (flags.multiLine && lineFeedAt text (i - 1))
  | .lineEnd =>
    i == text.size ||
      (lineFeedAt text i && (flags.multiLine || i + 1 == text.size))
  | .textStart => i == 0
  | .textEnd => i == text.size
  | .wordEdge => text.size != 0 && wordEdgeAt text flags i
  | .noWordEdge => text.size != 0 && !wordEdgeAt text flags i

def Atom.accepts (flags : Flags) (n : Nat) : Atom → Bool
  | .literal code => literalHolds flags code n
  | .except code => !literalHolds flags code n
  | .any => flags.dotAll || n != 10
  | .set negated members => setHolds flags negated members n
  | .anchor _ | .backref _ => false

/-- Whether the text repeats what stands between `from'` and `to'` at `i`. -/
def repeatsAt (text : Array Char) (flags : Flags) (from' to' i : Nat) : Bool :=
  let f := flags.folding
  (List.range (to' - from')).all fun d =>
    match text[from' + d]?, text[i + d]? with
    | some a, some b => f.lower a.toNat == f.lower b.toNat
    | _, _ => false

/-- The way of an atom, if it has one. -/
def Atom.run (text : Array Char) (flags : Flags) (a : Atom) : Matcher := fun s k =>
  match a with
  | .anchor c => if c.holds text flags s.pos then k s else none
  | .backref g =>
    match s.group? g with
    | some (b, e) =>
      if repeatsAt text flags b e s.pos then k { s with pos := s.pos + (e - b) } else none
    | none => none
  | _ =>
    match text[s.pos]? with
    | some c => if a.accepts flags c.toNat then k { s with pos := s.pos + 1 } else none
    | none => none

/-! ## Patterns -/

def Expr.run (text : Array Char) : Expr → Flags → Matcher
  | .empty, _ => fun s k => k s
  | .atom a, flags => a.run text flags
  | .seq p q, flags => fun s k => p.run text flags s fun s' => q.run text flags s' k
  | .alt p q, flags => Matcher.orElse (p.run text flags) (q.run text flags)
  | .capture g p, flags => fun s k =>
    p.run text flags { s with opened := s.opened.set (g - 1) (some s.pos) } fun s' =>
      k { s' with closed := s'.closed.set (g - 1) (some s'.pos) }
  | .scoped on off p, flags => p.run text (flags.within on off)
  | .atomic p, flags => fun s k =>
    match p.run text flags s some with
    | some s' => k s'
    | none => none
  | .repeated greed least most p, flags =>
    Matcher.repeated text.size greed least most (p.run text flags)
  | .lookAhead positive p, flags => fun s k =>
    match p.run text flags s some with
    | some s' => if positive then k { s' with pos := s.pos } else none
    | none => if positive then none else k s
  | .lookBehind positive back p, flags => fun s k =>
    if back ≤ s.pos then
      match p.run text flags { s with pos := s.pos - back } some with
      | some s' => if positive then k { s' with pos := s.pos } else none
      | none => if positive then none else k s
    else if positive then none else k s
  | .ifGroup g p q, flags => fun s k =>
    match s.group? g with
    | some _ => p.run text flags s k
    | none => q.run text flags s k

namespace Compiled

def matchAt (c : Compiled) (text : Array Char) (start : Nat) : Option Nat :=
  (c.expr.run text c.flags (State.start c.groups start) some).map (·.pos)

/-- The first match from the places `start`, …, `start + n - 1`, as start and end. -/
def searchFrom (c : Compiled) (text : Array Char) (start : Nat) : Nat → Option (Nat × Nat)
  | 0 => none
  | n + 1 =>
    match c.matchAt text start with
    | some stop => some (start, stop)
    | none => c.searchFrom text (start + 1) n

/-- The first match in a text, as start and end. -/
def search (c : Compiled) (text : Text) : Option (Nat × Nat) :=
  c.searchFrom text.toArray 0 (text.length + 1)

end Compiled

end Outline.Pattern
