import Outline.Source.Block
import Outline.Source.CaseReader

/-!
# Reading blocks

The statements of a module. Whether a statement makes sense where it stands is not asked.
-/
namespace Outline.Source.Statement

open Read

def here : Read (Nat × Nat) := do
  match ← look (·.rest.head?) with
  | some w => return (w.line, w.column)
  | none => failure

/-- The extent from a place to the last word taken. -/
def extentFrom (start : Nat × Nat) : Read Extent := look fun f => ⟨start.1, start.2, f.last⟩

/-! ## Simple statements -/

/-- The operators that change what they assign to. -/
def augmentedMarks : List String :=
  ["+=", "-=", "*=", "@=", "/=", "%=", "&=", "|=", "^=", "<<=", ">>=", "**=", "//="]

/-- What is assigned: says whether it is something that could be assigned to. -/
def assignedValue (inner : Inner) : Read (Expr × Bool) := do
  if ← sees ["yield"] then return (← inner.yieldExpression, false)
  else
    let e ← inner.starExpressions
    return (e, e.isTarget)

/-- The targets of an assignment behind its first; the last value is none. -/
def assignedTargets (inner : Inner) (first : Expr) : Read (List Expr) := do
  let (reversed, _) ← iterate (fun (done, last) => do
    if ← takes "=" then
      match last with
      | (e, true) => return some (e :: done, ← assignedValue inner)
      | _ => failure
    else return none) (([] : List Expr), (first, first.isTarget))
  return reversed.reverse

def ofExpression (inner : Inner) (start : Nat × Nat) : Read Block := do
  let e ← inner.starExpressions
  if ← sees ["="] then
    let targets ← assignedTargets inner e
    return .assignment targets (← extentFrom start) .nil
  else if ← takes ":" then
    if !e.isSingleTarget then failure
    let _ ← inner.expression
    if ← takes "=" then
      let _ ← assignedValue inner
    return .assignment [e] (← extentFrom start) .nil
  else if ← seesAny augmentedMarks then
    if !e.isSingleTarget then failure
    let _ ← next
    let _ ← assignedValue inner
    return .other (← extentFrom start) .nil
  else return .other (← extentFrom start) .nil

def dottedName : Read Unit := do
  let _ ← name
  let _ ← Case.dotted

/-- A new name for something imported, if there is one. -/
def asName : Read Unit := do
  if ← takes "as" then
    let _ ← name

def importedName : Read Unit := do
  let _ ← name
  asName

/-- What follows `from`. -/
def fromImport : Read Unit := do
  let dots ← many do
    if ← seesAny [".", "..."] then return some (← next) else return none
  if dots.isEmpty then dottedName
  else
    let _ ← Read.optional dottedName
  mark "import"
  if ← takes "*" then return ()
  else if ← takes "(" then
    let _ ← commaList importedName
    mark ")"
  else
    let _ ← commaSeparated importedName

def afterKeyword (inner : Inner) (keyword : String) : Read Unit := do
  match keyword with
  | "return" =>
    let _ ← Read.optional inner.starExpressions
  | "raise" =>
    if (← Read.optional inner.expression).isSome then
      if ← takes "from" then
        let _ ← inner.expression
  | "global" | "nonlocal" =>
    let _ ← commaSeparated name
  | "del" =>
    let (targets, _) ← commaList inner.primary
    if !targets.all Expr.isDeletable then failure
  | "assert" =>
    let _ ← inner.expression
    if ← takes "," then
      let _ ← inner.expression
  | "import" =>
    let _ ← commaSeparated do
      dottedName
      asName
  | "from" => fromImport
  | "pass" | "break" | "continue" => return ()
  | _ => failure

def simpleKeywords : List String :=
  ["return", "raise", "global", "nonlocal", "del", "assert", "import", "from", "pass", "break",
    "continue"]

def simple (inner : Inner) : Read Block := do
  let start ← here
  if ← sees ["yield"] then
    let _ ← inner.yieldExpression
    return .other (← extentFrom start) .nil
  else
    match ← peek? with
    | some (.mark m) =>
      if simpleKeywords.contains m then
        let _ ← next
        afterKeyword inner m
        return .other (← extentFrom start) .nil
      else ofExpression inner start
    | _ => ofExpression inner start

/-- Simple statements up to the end of their line, with semicolons between. -/
def simpleLine (inner : Inner) : Read Block := do
  let first ← simple inner
  let rest ← many do
    if ← takes ";" then
      match ← peek? with
      | some .newline => return none
      | _ => return some (← simple inner)
    else return none
  lexeme .newline
  return .flatten (first :: rest)

/-! ## Compound statements -/

/-- The block behind a colon: the rest of the line, or indented lines below. -/
def suite (inner : Inner) (statement : Read Block) : Read Block := do
  mark ":"
  match ← peek? with
  | some .newline =>
    lexeme .newline
    lexeme .indent
    let first ← statement
    let rest ← many do
      match ← peek? with
      | some .dedent => return none
      | _ => return some (← statement)
    lexeme .dedent
    return .flatten (first :: rest)
  | _ => simpleLine inner

/-- The block behind `else`, if there is one. -/
def elseSuite (suite : Read Block) : Read Unit := do
  if ← takes "else" then
    let _ ← suite

/-- What follows `def`. -/
def functionRest (inner : Inner) (suite : Read Block) (start : Nat × Nat) : Read Block := do
  let id ← name
  mark "("
  let params ← inner.parameters true ")"
  mark ")"
  if ← takes "->" then
    let _ ← inner.expression
  let body ← suite
  return .functionDef id params (← extentFrom start) body .nil

def isBase : Expr → Bool
  | .keyword .. => false
  | _ => true

/-- What follows `class`. -/
def classRest (inner : Inner) (suite : Read Block) (start : Nat × Nat) : Read Block := do
  let id ← name
  let arguments ← if ← takes "(" then inner.arguments else pure []
  let body ← suite
  return .classDef id (arguments.filter isBase) (← extentFrom start) body .nil

/-- A function or class, which decorators may precede. -/
def definition (inner : Inner) (suite : Read Block) : Read Block := do
  let _ ← many do
    if ← takes "@" then
      let _ ← inner.namedExpression
      lexeme .newline
      return some ()
    else return none
  let start ← here
  if ← takes "class" then classRest inner suite start
  else
    let _ ← takes "async"
    mark "def"
    functionRest inner suite start

/-- What follows `if`. -/
def ifRest (inner : Inner) (suite : Read Block) : Read Unit := do
  let _ ← inner.namedExpression
  let _ ← suite
  let _ ← many do
    if ← takes "elif" then
      let _ ← inner.namedExpression
      return some (← suite)
    else return none
  elseSuite suite

/-- What follows `while`. -/
def whileRest (inner : Inner) (suite : Read Block) : Read Unit := do
  let _ ← inner.namedExpression
  let _ ← suite
  elseSuite suite

/-- What follows `for`. -/
def forRest (inner : Inner) (suite : Read Block) : Read Unit := do
  let _ ← inner.targets
  mark "in"
  let _ ← inner.starExpressions
  let _ ← suite
  elseSuite suite

/-- Something that is opened, and the name it is given. -/
def withItem (inner : Inner) : Read Unit := do
  let _ ← inner.expression
  if ← takes "as" then
    let isStarred ← takes "*"
    let target ← inner.primary
    if !(if isStarred then Expr.starred target else target).isTarget then failure

/-- What follows `with`: the items may stand in parentheses. -/
def withRest (inner : Inner) (suite : Read Block) : Read Unit := do
  let bracketed : Read Unit := do
    mark "("
    let _ ← commaList (withItem inner)
    mark ")"
    if !(← sees [":"]) then failure
  if (← Read.optional bracketed).isNone then
    let _ ← commaSeparated (withItem inner)
  let _ ← suite

/-- A handler, if there is one: says whether it is for groups. -/
def handler? (inner : Inner) (suite : Read Block) : Read (Option Bool) := do
  if ← takes "except" then
    let isGroup ← takes "*"
    if isGroup || !(← sees [":"]) then
      let _ ← inner.expression
      asName
    let _ ← suite
    return some isGroup
  else return none

/-- What follows `try`: handlers of one sort, or a block to be run in the end, or both. -/
def tryRest (inner : Inner) (suite : Read Block) : Read Unit := do
  let _ ← suite
  let handlers ← many (handler? inner suite)
  if handlers.isEmpty then
    mark "finally"
    let _ ← suite
  else
    if handlers.contains true && handlers.contains false then failure
    elseSuite suite
    if ← takes "finally" then
      let _ ← suite

def subject (inner : Inner) : Read Unit := do
  match ← commaList inner.listItem with
  | ([e], false) => if Inner.isStarred e then failure
  | _ => return ()

/-- Takes a name that is a keyword only here. -/
def softKeyword (word : String) : Read Unit := do
  if (← name) = word.toList then return () else failure

def case (inner : Inner) (suite : Read Block) : Read Unit := do
  softKeyword "case"
  Case.patterns inner
  if ← takes "if" then
    let _ ← inner.namedExpression
  let _ ← suite

def matchStatement (inner : Inner) (suite : Read Block) : Read Unit := do
  softKeyword "match"
  subject inner
  mark ":"
  lexeme .newline
  lexeme .indent
  case inner suite
  let _ ← many do
    match ← peek? with
    | some .dedent => return none
    | _ =>
      case inner suite
      return some ()
  lexeme .dedent

/-- What follows the keyword of a compound statement, if it is one that an outline leaves out. -/
def compoundRest? (inner : Inner) (suite : Read Block) (keyword : String) : Option (Read Unit) :=
  match keyword with
  | "if" => some (ifRest inner suite)
  | "while" => some (whileRest inner suite)
  | "for" => some (forRest inner suite)
  | "with" => some (withRest inner suite)
  | "try" => some (tryRest inner suite)
  | _ => none

/-- A statement that is one of several kinds by the keyword in front. -/
def statement (inner : Inner) (suite : Read Block) : Read Block := do
  let start ← here
  match ← peek? with
  | some (.mark m) =>
    if m = "class" ∨ m = "def" ∨ m = "@" then definition inner suite
    else if ← sees ["async", "def"] then definition inner suite
    else if ← takes "async" then
      if ← takes "for" then forRest inner suite
      else
        mark "with"
        withRest inner suite
      return .other (← extentFrom start) .nil
    else match compoundRest? inner suite m with
      | some rest =>
        let _ ← next
        rest
        return .other (← extentFrom start) .nil
      | none => simpleLine inner
  | some (.name _) =>
    match ← Read.optional (matchStatement inner suite) with
    | some () => return .other (← extentFrom start) .nil
    | none => simpleLine inner
  | _ => simpleLine inner

/-- A statement with blocks nested at most `n` deep. -/
def upTo (inner : Inner) : Nat → Read Block
  | 0 => failure
  | n + 1 => statement inner (suite inner (upTo inner n))

def all (statement : Read Block) : Read Block := do
  let blocks ← Read.many do
    match ← Read.peek? with
    | none => return none
    | some _ => return some (← statement)
  return .flatten blocks

end Statement

/-- Why a text is no module. -/
inductive Malformed
  | nullCharacter
  | grammar
  deriving DecidableEq, Repr

def Malformed.message : Malformed → String
  | nullCharacter => "source code string cannot contain null bytes"
  | grammar => "invalid syntax"

def Block.read (t : Text) : Except Malformed Block :=
  if t.contains '\x00' then .error .nullCharacter
  else
    let depth := t.length + 1
    let module := Statement.all (Statement.upTo (Inner.upTo depth) depth)
    match (lex t).bind fun words => module.step ⟨words, 0⟩ with
    | some (b, ⟨[], _⟩) => .ok b
    | _ => .error .grammar

end Outline.Source
