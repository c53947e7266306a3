import Outline.Pattern.Syntax
import Outline.Text.Blank
import Outline.Text.Class
import Outline.Text.CodeTable

/-!
# Reading patterns

A pattern is read from left to right, one token ahead: a character, or a backslash with the
character behind it. What is wrong with it decides how it fails; the first fault met wins.

Two things are left out. The names of characters are not known here, so the escape that gives a
character by its name, `\N` with the name in braces, is malformed whatever the name. And groups may
be nested to any depth: there is no limit on recursion at which reading, compiling or matching a
pattern would give up.
-/
namespace Outline.Pattern

/-- What keeps a pattern from being read. -/
inductive Fault
  | malformed
  | repetitionTooLarge
  | numberTooLong (digits : Nat)
  | clashingAlphabets
  deriving DecidableEq, Repr

/-- A character, a backslash with its character, or a backslash at the very end. -/
inductive Token
  | char (c : Char)
  | escape (c : Char)
  | dangling
  deriving DecidableEq

def tokens : Text → List Token
  | [] => []
  | '\\' :: [] => [.dangling]
  | '\\' :: c :: cs => .escape c :: tokens cs
  | c :: cs => .char c :: tokens cs

/-- What is known while reading: the tokens ahead, the switches turned on for the whole pattern,
the names and widths of the groups seen so far (a width is missing while its group is open), how
many groups were there when the outermost look behind began, the groups that conditions ask for
by number, and whether some look behind has no fixed width. -/
structure Reader where
  ahead : List Token
  flags : Flags
  names : List (Text × Nat) := []
  widths : List (Option (Nat × Nat)) := []
  lookBehindSince : Option Nat := none
  asked : List Nat := []
  looseLookBehind : Bool := false

abbrev ReadM := StateT Reader (Except Fault)

/-- Repetitions of this many rounds or more are too large. -/
def repetitionLimit : Nat := 4294967295

/-- Group numbers beyond this cannot be asked for. -/
def groupLimit : Nat := 1073741823

namespace ReadM

/-- Gives up: the pattern is malformed. -/
def malformed {α : Type} : ReadM α := throw .malformed

def peek : ReadM (Option Token) := return (← get).ahead.head?

def sees (c : Char) : ReadM Bool := return (← peek) == some (.char c)

/-- Moves past the token ahead; a backslash at the end is met as soon as it comes next. -/
def advance : ReadM Unit := do
  let rest := (← get).ahead.tail
  if rest.head? = some .dangling then malformed
  modify ({ · with ahead := rest })

def next : ReadM (Option Token) := do
  let t ← peek
  advance
  return t

/-- Takes the character if it is ahead. -/
def accept (c : Char) : ReadM Bool := do
  if ← sees c then
    advance
    return true
  return false

/-- Takes at most `n` characters of a class. -/
def takeAtMost (p : Char → Bool) : Nat → ReadM Text
  | 0 => return []
  | n + 1 => do
    match ← peek with
    | some (.char c) =>
      if p c then
        advance
        return c :: (← takeAtMost p n)
      else return []
    | _ => return []

/-- Takes everything up to a closing character, which is taken too; what lies between must not
be empty. -/
def takeUntil (close : Char) : ReadM Text := do
  let ahead := (← get).ahead
  let body := ahead.takeWhile (· ≠ .char close)
  if body.isEmpty ∨ body.length = ahead.length then malformed
  modify ({ · with ahead := ahead.drop body.length })
  advance
  return body.flatMap fun
    | .char c => [c]
    | .escape c => ['\\', c]
    | .dangling => ['\\']

/-- The number of groups opened so far, the whole match counted in. -/
def groupCount : ReadM Nat := return (← get).widths.length + 1

def closedWidth? (group : Nat) : ReadM (Option (Nat × Nat)) := do
  match group with
  | 0 => return none
  | g + 1 => return ((← get).widths[g]?).join

/-- A group referred to inside a look behind must be closed and older than it. -/
def checkLookBehind (group : Nat) : ReadM Unit := do
  match (← get).lookBehindSince with
  | none => return
  | some since =>
    if (← closedWidth? group).isNone ∨ group ≥ since then malformed

/-- Opens a group, which gets the next number; a name must be new. -/
def openGroup (name : Option Text) : ReadM Nat := do
  let g ← groupCount
  modify fun r => { r with widths := r.widths ++ [none] }
  if let some n := name then
    if ((← get).names.lookup n).isSome then malformed
    modify fun r => { r with names := (n, g) :: r.names }
  return g

def closeGroup (group : Nat) (width : Nat × Nat) : ReadM Unit :=
  modify fun r => { r with widths := r.widths.set (group - 1) (some width) }

def widthOf (p : Expr) : ReadM (Nat × Nat) := do
  let widths := (← get).widths
  return p.width fun g => ((widths[g - 1]?).join).getD (0, 0)

end ReadM

open ReadM

/-! ## Escapes -/

def isOctal (c : Char) : Bool := '0' ≤ c && c ≤ '7'

def isHex (c : Char) : Bool := (Text.hexDigit? c).isSome

def octalValue (t : Text) : Nat := t.foldl (fun n c => 8 * n + (c.toNat - 48)) 0

def decimalNumber (t : Text) : Nat := t.foldl (fun n c => 10 * n + (c.toNat - 48)) 0

def controlEscape? : Char → Option Nat
  | 'a' => some 7
  | 'b' => some 8
  | 'f' => some 12
  | 'n' => some 10
  | 'r' => some 13
  | 't' => some 9
  | 'v' => some 11
  | '\\' => some 92
  | _ => none

def classEscape? : Char → Option Member
  | 'd' => some (.class .digit true)
  | 'D' => some (.class .digit false)
  | 's' => some (.class .blank true)
  | 'S' => some (.class .blank false)
  | 'w' => some (.class .word true)
  | 'W' => some (.class .word false)
  | _ => none

def anchorEscape? : Char → Option Anchor
  | 'A' => some .textStart
  | 'b' => some .wordEdge
  | 'B' => some .noWordEdge
  | 'Z' => some .textEnd
  | _ => none

/-- Reads exactly `n` hexadecimal digits. -/
def readHex (n : Nat) : ReadM Nat := do
  let digits ← takeAtMost isHex n
  if digits.length ≠ n then malformed
  return Text.hexValue digits

/-- Reads the code point of an escape that names one by number, after its letter. -/
def readCodePoint (letter : Char) : ReadM (Option Nat) := do
  match letter with
  | 'x' => return some (← readHex 2)
  | 'u' => return some (← readHex 4)
  | 'U' =>
    let n ← readHex 8
    if n > 0x10FFFF then malformed
    return some n
  | _ => return none

/-- What a backslash and a character mean inside a set. A character cannot be given by its name. -/
def readSetEscape (c : Char) : ReadM Member := do
  if let some n := controlEscape? c then return .one n
  if let some m := classEscape? c then return m
  if let some n ← readCodePoint c then return .one n
  if isOctal c then
    let n := octalValue (c :: (← takeAtMost isOctal 2))
    if n > 0o377 then malformed
    return .one n
  if isAsciiDigit c ∨ isAsciiLetter c then malformed
  return .one c.toNat

def readBackref (group : Nat) : ReadM Atom := do
  if (← closedWidth? group).isNone then malformed
  checkLookBehind group
  return .backref group

/-- What a backslash and a character mean outside sets. Three octal digits name a code point,
other digits a group. A character cannot be given by its name. -/
def readEscape (c : Char) : ReadM Atom := do
  if let some m := classEscape? c then return .set false [m]
  if let some a := anchorEscape? c then return .anchor a
  if let some n := controlEscape? c then return .literal n
  if let some n ← readCodePoint c then return .literal n
  if c = '0' then return .literal (octalValue (← takeAtMost isOctal 2))
  if isAsciiDigit c then
    match ← peek with
    | some (.char d) =>
      if isAsciiDigit d then
        advance
        if isOctal c ∧ isOctal d then
          if let some (.char e) ← peek then
            if isOctal e then
              advance
              let n := octalValue [c, d, e]
              if n > 0o377 then malformed
              return .literal n
        readBackref (decimalNumber [c, d])
      else readBackref (decimalNumber [c])
    | _ => readBackref (decimalNumber [c])
  else
    if isAsciiLetter c then malformed
    return .literal c.toNat

/-! ## Sets -/

def readSetItem : Token → ReadM Member
  | .char c => return .one c.toNat
  | .escape c => readSetEscape c
  | .dangling => malformed

/-- Reads the members of a set up to its closing bracket; a bracket in first place is a member.
The members come out last first. -/
def readMembers (acc : List Member) : Nat → ReadM (List Member)
  | 0 => malformed
  | fuel + 1 => do
    let some t ← next | malformed
    if t = .char ']' ∧ !acc.isEmpty then return acc
    let m ← readSetItem t
    if ← accept '-' then
      let some t' ← next | malformed
      if t' = .char ']' then return .one 45 :: m :: acc
      let m' ← readSetItem t'
      match m, m' with
      | .one lo, .one hi =>
        if hi < lo then malformed
        readMembers (.span lo hi :: acc) fuel
      | _, _ => malformed
    else readMembers (m :: acc) fuel

/-- The members in order of first appearance, each once. -/
def distinct (ms : List Member) : List Member :=
  ms.foldl (fun acc m => if acc.contains m then acc else acc ++ [m]) []

/-- Reads a set after its opening bracket. A set of one code point is a literal. -/
def readSet : ReadM Atom := do
  let negated ← accept '^'
  let members := distinct (← readMembers [] ((← get).ahead.length + 1)).reverse
  match members with
  | [.one n] => return if negated then .except n else .literal n
  | _ => return .set negated members

/-! ## Sequences and choices -/

/-- A piece of a sequence: a pattern, or the pieces of a plain group, which join the sequence
when it ends. -/
inductive Piece
  | item (p : Expr)
  | inline (ps : List Expr)

namespace Piece

/-- The pattern that a repetition after the piece repeats. -/
def target : Piece → Expr
  | .item p => p
  | .inline ps => Expr.ofSequence ps

def items : Piece → List Expr
  | .item p => [p]
  | .inline ps => ps

def repeatable : Piece → Bool
  | .item (.atom (.anchor _)) => false
  | .item (.repeated ..) => false
  | _ => true

end Piece

/-- The atom that every choice starts with, and the choices without it. -/
def commonHead? : List (List Expr) → Option (Atom × List (List Expr))
  | [] => none
  | (.atom a :: p) :: rest =>
    match rest.mapM fun
      | .atom b :: q => if a = b then some q else none
      | _ => none with
    | some qs => some (a, p :: qs)
    | none => none
  | _ => none

/-- Moves atoms that all choices start with in front of the choice. -/
def factor : Nat → List (List Expr) → List Expr × List (List Expr)
  | 0, choices => ([], choices)
  | fuel + 1, choices =>
    match commonHead? choices with
    | some (a, rest) =>
      let (heads, tails) := factor fuel rest
      (.atom a :: heads, tails)
    | none => ([], choices)

/-- The members of one set that stands for a choice between single characters. -/
def asMembers? (choices : List (List Expr)) : Option (List Member) := do
  let parts ← choices.mapM fun
    | [.atom (.literal n)] => some [Member.one n]
    | [.atom (.set false ms)] => some ms
    | _ => none
  return distinct parts.flatten

def joinChoices (choices : List (List Expr)) : List Expr :=
  match choices with
  | [only] => only
  | _ =>
    let (heads, tails) := factor choices.flatten.length choices
    match asMembers? tails with
    | some ms => heads ++ [.atom (.set false ms)]
    | none => heads ++ [Expr.ofChoices (tails.map Expr.ofSequence)]

/-! ## Switches -/

def flagOf? : Char → Option Flags
  | 'i' => some { ignoreCase := true }
  | 'm' => some { multiLine := true }
  | 's' => some { dotAll := true }
  | 'x' => some { verbose := true }
  | 'a' => some { ascii := true }
  | 'u' => some { unicode := true }
  | 't' => some { template := true }
  | _ => none

/-- How a run of switches ended: with `)` for the whole pattern, with `-` or with `:`. -/
inductive FlagsEnd
  | whole
  | minus
  | colon

/-- Reads switches to turn on, the letter `c` first. -/
def readFlagsOn (on : Flags) (c : Char) : Nat → ReadM (Flags × FlagsEnd)
  | 0 => malformed
  | fuel + 1 => do
    let some f := flagOf? c | malformed
    let on := on.union f
    if on.ascii ∧ on.unicode then malformed
    match ← next with
    | some (.char ')') => return (on, .whole)
    | some (.char '-') => return (on, .minus)
    | some (.char ':') => return (on, .colon)
    | some (.char d) => readFlagsOn on d fuel
    | _ => malformed

def readFlagsOff (off : Flags) : Nat → ReadM Flags
  | 0 => malformed
  | fuel + 1 => do
    let some (.char c) ← next | malformed
    let some f := flagOf? c | malformed
    if f.ascii ∨ f.unicode then malformed
    let off := off.union f
    if ← accept ':' then return off
    readFlagsOff off fuel

/-- Reads switches after `(?`: `none` when they are for the whole pattern, else those to turn on
and those to turn off in the group. -/
def readFlags (c : Char) : ReadM (Option (Flags × Flags)) := do
  let fuel := (← get).ahead.length + 1
  let (on, ending) ← if c = '-' then pure ({}, .minus) else readFlagsOn {} c fuel
  match ending with
  | .whole =>
    modify fun r => { r with flags := r.flags.union on }
    return none
  | .colon =>
    if on.template then malformed
    return some (on, {})
  | .minus =>
    if on.template then malformed
    let off ← readFlagsOff {} fuel
    if off.template ∨ on.overlap off then malformed
    return some (on, off)

/-! ## Repetitions and groups -/

/-- The bounds of a repetition that starts with the given character, or `none` when an opening
brace is meant literally. -/
def readBounds (c : Char) : ReadM (Option (Nat × Option Nat)) := do
  match c with
  | '?' => return some (0, some 1)
  | '*' => return some (0, none)
  | '+' => return some (1, none)
  | _ =>
    if ← sees '}' then return none
    let ahead := (← get).ahead
    let lo ← takeAtMost isAsciiDigit ahead.length
    let comma ← accept ','
    let hi ← if comma then takeAtMost isAsciiDigit ahead.length else pure lo
    if ← accept '}' then
      if lo.length > Text.digitLimit then throw (.numberTooLong lo.length)
      let least := if lo.isEmpty then 0 else decimalNumber lo
      if least ≥ repetitionLimit then throw .repetitionTooLarge
      if hi.isEmpty then return some (least, none)
      if hi.length > Text.digitLimit then throw (.numberTooLong hi.length)
      let most := decimalNumber hi
      if most ≥ repetitionLimit then throw .repetitionTooLarge
      if most < least then malformed
      return some (least, some most)
    else
      modify ({ · with ahead := ahead })
      return none

def readGreed : ReadM Greed := do
  if ← accept '?' then return .lazy
  if ← accept '+' then return .possessive
  return .greedy

/-- Reads the group that a condition asks for, up to the closing parenthesis. -/
def readCondition : ReadM Nat := do
  let name ← takeUntil ')'
  let g ←
    if name.isIdentifier then
      match (← get).names.lookup name with
      | some g => pure g
      | none => malformed
    else match name.wholeNumber? with
      | some g =>
        if g = 0 ∨ g ≥ groupLimit then malformed
        modify fun r => { r with asked := g :: r.asked }
        pure g
      | none => malformed
  checkLookBehind g
  return g

/-- Skips a comment of the verbose form, to the end of its line. -/
def skipComment : ReadM Unit := do
  let ahead := (← get).ahead
  let body := ahead.takeWhile (· ≠ .char '\n')
  if body.contains .dangling then malformed
  modify ({ · with ahead := ahead.drop body.length })
  advance

def skipCommentGroup : ReadM Unit := do
  let ahead := (← get).ahead
  let body := ahead.takeWhile (· ≠ .char ')')
  if body.length = ahead.length then malformed
  modify ({ · with ahead := ahead.drop body.length })
  advance

/-- White space that the verbose form skips. -/
def isVerboseBlank (c : Char) : Bool := c == ' ' || (9 ≤ c.toNat && c.toNat ≤ 13)

/-- Appends what an atom, a set or a group has become. -/
def push (acc : List Piece) (p : Expr) : List Piece := .item p :: acc

mutual

/-- Reads choices separated by bars, up to a closing parenthesis or the end. -/
def readChoices (top verbose : Bool) (done : List (List Expr)) : Nat → ReadM (List Expr)
  | 0 => malformed
  | fuel + 1 => do
    let seq ← readSequence top verbose (top && done.isEmpty) [] fuel
    let done := seq :: done
    if ← accept '|' then
      let whole := (← get).flags.verbose
      let verbose := if top then whole else verbose
      readChoices top verbose done fuel
    else return joinChoices done.reverse

/-- Reads pieces up to a bar, a closing parenthesis or the end; `acc` holds those already read,
last first. Switches for the whole pattern may stand only in front of everything (`first`). -/
def readSequence (top verbose first : Bool) (acc : List Piece) : Nat → ReadM (List Expr)
  | 0 => malformed
  | fuel + 1 => do
    let finish := acc.reverse.flatMap Piece.items
    match ← peek with
    | none => return finish
    | some (.char '|') | some (.char ')') => return finish
    | some .dangling => malformed
    | some (.escape c) =>
      advance
      readSequence top verbose first (push acc (.atom (← readEscape c))) fuel
    | some (.char c) =>
      advance
      if verbose ∧ isVerboseBlank c then readSequence top verbose first acc fuel
      else if verbose ∧ c = '#' then
        skipComment
        readSequence top verbose first acc fuel
      else match c with
      | '[' => readSequence top verbose first (push acc (.atom (← readSet))) fuel
      | '.' => readSequence top verbose first (push acc (.atom .any)) fuel
      | '^' => readSequence top verbose first (push acc (.atom (.anchor .lineStart))) fuel
      | '$' => readSequence top verbose first (push acc (.atom (.anchor .lineEnd))) fuel
      | '*' | '+' | '?' | '{' =>
        match ← readBounds c with
        | none => readSequence top verbose first (push acc (.atom (.literal c.toNat))) fuel
        | some (least, most) =>
          match acc with
          | [] => malformed
          | piece :: acc =>
            if !piece.repeatable then malformed
            let greed ← readGreed
            readSequence top verbose first
              (push acc (.repeated greed least most piece.target)) fuel
      | '(' =>
        match ← readGroup verbose (first && acc.isEmpty) fuel with
        | none =>
          let verbose := (← get).flags.verbose
          readSequence top verbose first acc fuel
        | some pieces => readSequence top verbose first (pieces ++ acc) fuel
      | _ => readSequence top verbose first (push acc (.atom (.literal c.toNat))) fuel

/-- Reads a group after its opening parenthesis. `none` says that it turned on switches for the
whole pattern, which must be allowed (`mayLead`). -/
def readGroup (verbose mayLead : Bool) : Nat → ReadM (Option (List Piece))
  | 0 => malformed
  | fuel + 1 => do
    if !(← accept '?') then return some (← readCapture verbose none fuel)
    match ← next with
    | some (.char 'P') =>
      if ← accept '<' then
        let name ← takeUntil '>'
        if !name.isIdentifier then malformed
        return some (← readCapture verbose (some name) fuel)
      else if ← accept '=' then
        let name ← takeUntil ')'
        if !name.isIdentifier then malformed
        let some g := (← get).names.lookup name | malformed
        return some [.item (.atom (← readBackref g))]
      else malformed
    | some (.char ':') => return some [.inline (← readBody verbose fuel)]
    | some (.char '#') =>
      skipCommentGroup
      return some []
    | some (.char '=') => return some (← readLookAhead verbose true fuel)
    | some (.char '!') => return some (← readLookAhead verbose false fuel)
    | some (.char '<') =>
      match ← next with
      | some (.char '=') => return some (← readLookBehind verbose true fuel)
      | some (.char '!') => return some (← readLookBehind verbose false fuel)
      | _ => malformed
    | some (.char '(') =>
      let g ← readCondition
      let yes ← readSequence false verbose false [] fuel
      let no ←
        if ← accept '|' then
          let no ← readSequence false verbose false [] fuel
          if ← sees '|' then malformed
          pure no
        else pure []
      if !(← accept ')') then malformed
      return some [.item (.ifGroup g (Expr.ofSequence yes) (Expr.ofSequence no))]
    | some (.char '>') =>
      return some [.item (.atomic (Expr.ofSequence (← readBody verbose fuel)))]
    | some (.char c) =>
      if (flagOf? c).isNone ∧ c ≠ '-' then malformed
      match ← readFlags c with
      | none =>
        if !mayLead then malformed
        return none
      | some (on, off) =>
        let body ← readBody ((verbose || on.verbose) && !off.verbose) fuel
        if on = {} ∧ off = {} then return some [.inline body]
        return some [.item (.scoped on off (Expr.ofSequence body))]
    | _ => malformed

/-- Reads the body of a group and its closing parenthesis. -/
def readBody (verbose : Bool) : Nat → ReadM (List Expr)
  | 0 => malformed
  | fuel + 1 => do
    let body ← readChoices false verbose [] fuel
    if !(← accept ')') then malformed
    return body

def readCapture (verbose : Bool) (name : Option Text) : Nat → ReadM (List Piece)
  | 0 => malformed
  | fuel + 1 => do
    let g ← openGroup name
    let body := Expr.ofSequence (← readBody verbose fuel)
    closeGroup g (← widthOf body)
    return [.item (.capture g body)]

def readLookAhead (verbose positive : Bool) : Nat → ReadM (List Piece)
  | 0 => malformed
  | fuel + 1 => do
    return [.item (.lookAhead positive (Expr.ofSequence (← readBody verbose fuel)))]

/-- Reads a look behind, which remembers how far it goes back. -/
def readLookBehind (verbose positive : Bool) : Nat → ReadM (List Piece)
  | 0 => malformed
  | fuel + 1 => do
    let since := (← get).lookBehindSince
    let count ← groupCount
    modify fun r => { r with lookBehindSince := some (since.getD count) }
    let body := Expr.ofSequence (← readChoices false verbose [] fuel)
    modify fun r => { r with lookBehindSince := since }
    if !(← accept ')') then malformed
    let (lo, hi) ← widthOf body
    if lo ≠ hi ∨ lo > repetitionLimit then
      modify fun r => { r with looseLookBehind := true }
    return [.item (.lookBehind positive lo body)]

end

/-- A pattern that was read, with the switches for all of it and the number of its groups. -/
structure Compiled where
  expr : Expr
  flags : Flags
  groups : Nat
  deriving DecidableEq, Repr

def read (flags : Flags) (pattern : Text) : Except Fault Compiled := do
  let ahead := tokens pattern
  if ahead.head? = some .dangling then throw .malformed
  let (body, r) ← (readChoices true flags.verbose [] (4 * ahead.length + 8)).run
    { ahead := ahead, flags := flags }
  if r.flags.ascii ∧ r.flags.unicode then throw .clashingAlphabets
  if !r.ahead.isEmpty then throw .malformed
  if r.asked.any (· > r.widths.length) then throw .malformed
  let expr := Expr.ofSequence body
  if r.looseLookBehind ∨ (r.flags.template ∧ expr.hasRepetition) then throw .malformed
  return ⟨expr, r.flags, r.widths.length⟩

end Outline.Pattern
