import Outline.Source.ExprReader

/-!
# Reading case patterns

The patterns that the cases of a `match` statement compare with. An outline shows nothing of them,
so reading one only says whether it is well-formed.
-/
namespace Outline.Source.Case

open Read

/-- Takes a name to bind, which is not the wildcard. -/
def captured : Read Unit := do
  if (← name) = ['_'] then failure
  if ← seesAny [".", "(", "="] then failure

/-- Takes a number; says whether it is imaginary. -/
def number : Read Bool := do
  match (← next).lexeme with
  | .number t =>
    match Literal.ofNumber? t with
    | some (.imaginary _) => return true
    | some _ => return false
    | none => failure
  | _ => failure

/-- Takes a number with an optional sign, and an imaginary part if one follows. -/
def signedNumber : Read Unit := do
  let _ ← takes "-"
  let isImaginary ← number
  if ← seesAny ["+", "-"] then
    let _ ← next
    let isPart ← number
    if isImaginary || !isPart then failure

/-- Takes a literal that is a pattern or a key, if one is in front. -/
def literal? (inner : Inner) : Read Bool := do
  match ← peek? with
  | some (.number _) =>
    signedNumber
    return true
  | some (.string _) =>
    let _ ← inner.atom
    return true
  | some (.mark m) =>
    if m = "-" then
      signedNumber
      return true
    else if m = "None" ∨ m = "True" ∨ m = "False" then
      let _ ← next
      return true
    else return false
  | _ => return false

/-- Takes the names behind points; says whether there were any. -/
def dotted : Read Bool := do
  let names ← many do
    if ← takes "." then return some (← name) else return none
  return !names.isEmpty

/-- An item of a sequence pattern: says whether it is starred. -/
def sequenceItem (pattern : Read Unit) : Read Bool := do
  if ← takes "*" then
    let _ ← name
    return true
  else
    pattern
    return false

/-- The items of a sequence pattern, of which one alone must not be starred unless a comma
follows. -/
def openSequence (pattern : Read Unit) : Read Unit := do
  match ← commaList (sequenceItem pattern) with
  | ([true], false) => failure
  | _ => return ()

/-- An entry of a mapping pattern: says whether it takes the rest. -/
def mappingItem (inner : Inner) (pattern : Read Unit) : Read Bool := do
  if ← takes "**" then
    captured
    return true
  else
    if !(← literal? inner) then
      let _ ← name
      if !(← dotted) then failure
    mark ":"
    pattern
    return false

/-- An argument of a class pattern: says whether it is a keyword. -/
def classItem (pattern : Read Unit) : Read Bool := do
  match ← look (·.rest) with
  | ⟨.name _, _, _, _⟩ :: ⟨.mark "=", _, _, _⟩ :: _ =>
    let _ ← next
    let _ ← next
    pattern
    return true
  | _ =>
    pattern
    return false

/-- Whether no flag that is set comes before one that is not. -/
def flagsLast (flags : List Bool) : Bool := (flags.dropWhile (!·)).all id

/-- A pattern without alternatives, which may hold patterns. -/
def closed (inner : Inner) (pattern : Read Unit) : Read Unit := do
  if ← literal? inner then return ()
  else match (← next).lexeme with
    | .name id =>
      if id ≠ ['_'] then
        let _ ← dotted
        if ← takes "(" then
          let flags ← commaItems (classItem pattern)
          mark ")"
          if !flagsLast flags then failure
        else if ← sees ["="] then failure
    | .mark "(" =>
      if !(← takes ")") then
        openSequence pattern
        mark ")"
    | .mark "[" =>
      let _ ← commaItems (sequenceItem pattern)
      mark "]"
    | .mark "\x7b" =>
      let flags ← commaItems (mappingItem inner pattern)
      mark "\x7d"
      if !flags.dropLast.all (!·) then failure
    | _ => failure

/-- A pattern, which patterns at most `n` deep may stand in. -/
def patternUpTo (inner : Inner) : Nat → Read Unit
  | 0 => failure
  | n + 1 => do
    let closed := closed inner (patternUpTo inner n)
    closed
    let _ ← many do
      if ← takes "|" then
        closed
        return some ()
      else return none
    if ← takes "as" then captured

def patterns (inner : Inner) : Read Unit := counted fun n => openSequence (patternUpTo inner n)

end Outline.Source.Case
