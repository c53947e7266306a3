import Outline.Source.Formatted
import Outline.Source.Lexer
import Outline.Source.Reading

/-!
# Reading expressions

Each rule is a step that is given the rules which it may hold inside brackets or behind a keyword.
Tying these to the rules themselves takes a depth, which the number of characters of a module
bounds.
-/
namespace Outline.Source

/-- The rules for expressions inside others. -/
structure Inner where
  expression : Read Expr
  disjunction : Read Expr
  operand : Read Expr
  primary : Read Expr

namespace Inner

open Read

/-! ## Lists of expressions -/

/-- Whether a name and `:=` are in front. -/
def seesAssigned : Read Bool := look fun f =>
  match f.rest with
  | ⟨.name _, _, _, _⟩ :: ⟨.mark ":=", _, _, _⟩ :: _ => true
  | _ => false

def namedExpression (inner : Inner) : Read Expr := do
  if ← seesAssigned then
    let id ← name
    mark ":="
    return .assigned (.name id) (← inner.expression)
  else inner.expression

/-- An item that may be starred, or else is read by `plain`. -/
def starItem (inner : Inner) (plain : Read Expr) : Read Expr := do
  if ← takes "*" then return .starred (← inner.operand) else plain

def isStarred : Expr → Bool
  | .starred _ => true
  | _ => false

/-- An item of a list, tuple or set. -/
def listItem (inner : Inner) : Read Expr := inner.starItem inner.namedExpression

/-- One expression or a tuple without brackets. -/
def starExpressions (inner : Inner) : Read Expr := do
  match ← commaList (inner.starItem inner.expression) with
  | ([e], false) => return e
  | (es, _) => return .tuple es

/-- The targets of a loop: one or a tuple of things that can be assigned to. -/
def targets (inner : Inner) : Read Expr := do
  let item := do if ← takes "*" then return .starred (← inner.primary) else inner.primary
  let e ← match ← commaList item with
    | ([e], false) => pure e
    | (es, _) => pure (.tuple es)
  if e.isTarget then return e else failure

def yieldExpression (inner : Inner) : Read Expr := do
  mark "yield"
  if ← takes "from" then return .yieldFrom (← inner.expression)
  else return .yield (← Read.optional inner.starExpressions)

/-! ## Comprehensions -/

def conditions (inner : Inner) : Read (List Expr) := many do
  if ← takes "if" then return some (← inner.disjunction) else return none

/-- A clause of a comprehension, if there is one. -/
def clause? (inner : Inner) : Read (Option Clause) := do
  if ← seesAny ["for", "async"] then
    let isAsync ← takes "async"
    mark "for"
    let target ← inner.targets
    mark "in"
    let source ← inner.disjunction
    return some (.mk isAsync target source (← inner.conditions))
  else return none

/-- The comprehension that clauses make of an element, up to the closing bracket. -/
def comprehension (inner : Inner) (shape : Shape) (element : Expr) (close : String) :
    Read Expr := do
  if isStarred element then failure
  let clauses ← many inner.clause?
  mark close
  return .comprehension shape element clauses

def seesClause : Read Bool := seesAny ["for", "async"]

/-! ## Brackets -/

def parenthesized (inner : Inner) : Read Expr := do
  if ← takes ")" then return .tuple []
  else if ← sees ["yield"] then
    let e ← inner.yieldExpression
    mark ")"
    return e
  else
    let first ← inner.listItem
    if ← seesClause then inner.comprehension .generator first ")"
    else if ← takes "," then
      let rest ← commaItems inner.listItem
      mark ")"
      return .tuple (first :: rest)
    else
      mark ")"
      if isStarred first then failure else return first

/-- What follows an opening square bracket of a list. -/
def listDisplay (inner : Inner) : Read Expr := do
  if ← takes "]" then return .list []
  else
    let first ← inner.listItem
    if ← seesClause then inner.comprehension .list first "]"
    else
      let rest ← if ← takes "," then commaItems inner.listItem else pure []
      mark "]"
      return .list (first :: rest)

def entry (inner : Inner) : Read Expr := do
  if ← takes "**" then return .spread (← inner.operand)
  else
    let key ← inner.expression
    mark ":"
    return .pair key (← inner.expression)

def dictRest (inner : Inner) (first : Expr) : Read Expr := do
  let rest ← if ← takes "," then commaItems inner.entry else pure []
  mark "\x7d"
  return .dict (first :: rest)

def braced (inner : Inner) : Read Expr := do
  if ← takes "\x7d" then return .dict []
  else if ← sees ["**"] then inner.dictRest (← inner.entry)
  else
    let isPlain := !(← seesAssigned)
    let first ← inner.listItem
    let isKey ← if isPlain && !isStarred first then takes ":" else pure false
    if isKey then
      let first := .pair first (← inner.expression)
      if ← seesClause then inner.comprehension .dict first "\x7d" else inner.dictRest first
    else if ← seesClause then inner.comprehension .set first "\x7d"
    else
      let rest ← if ← takes "," then commaItems inner.listItem else pure []
      mark "\x7d"
      return .set (first :: rest)

/-! ## Calls and subscripts -/

/-- The arguments of a call read so far, last first. Positional ones come before keywords, and
nothing but keywords comes behind two stars. -/
structure Arguments where
  positional : List Expr := []
  keywords : List Expr := []
  afterKeyword : Bool := false
  afterSpread : Bool := false

def argument (inner : Inner) (a : Arguments) : Read Arguments := do
  if ← takes "**" then
    let e ← inner.expression
    return { a with keywords := .keyword none e :: a.keywords, afterSpread := true }
  else if ← takes "*" then
    let e ← inner.expression
    if a.afterSpread then failure
    else return { a with positional := .starred e :: a.positional }
  else
    match ← look (·.rest) with
    | ⟨.name id, _, _, _⟩ :: ⟨.mark "=", _, _, _⟩ :: _ => do
      let _ ← next
      let _ ← next
      let e ← inner.expression
      return { a with keywords := .keyword (some id) e :: a.keywords, afterKeyword := true }
    | _ => do
      let e ← inner.namedExpression
      if a.afterKeyword || a.afterSpread then failure
      else return { a with positional := e :: a.positional }

/-- More arguments behind the first, up to the closing parenthesis. -/
def moreArguments (inner : Inner) (a : Arguments) : Read (List Expr) := do
  let a ← iterate (fun a => do
    if ← takes "," then
      if ← sees [")"] then return none else return some (← inner.argument a)
    else return none) a
  mark ")"
  return a.positional.reverse ++ a.keywords.reverse

/-- What follows the opening parenthesis of a list of arguments. -/
def arguments (inner : Inner) : Read (List Expr) := do
  if ← takes ")" then return []
  else inner.moreArguments (← inner.argument {})

/-- What follows the opening parenthesis of a call, whose only argument may be a generator without
parentheses of its own. -/
def callArguments (inner : Inner) : Read (List Expr) := do
  if ← takes ")" then return []
  else
    let a ← inner.argument {}
    match a.positional, ← seesClause with
    | [e], true => return [← inner.comprehension .generator e ")"]
    | _, _ => inner.moreArguments a

/-- A bound of a slice, if there is one. -/
def bound? (inner : Inner) : Read (Option Expr) := do
  if ← seesAny [":", ",", "]"] then return none else return some (← inner.expression)

def sliceRest (inner : Inner) (lower : Option Expr) : Read Expr := do
  let upper ← inner.bound?
  let step ← if ← takes ":" then inner.bound? else pure none
  return .slice lower upper step

def indexItem (inner : Inner) : Read Expr := do
  if ← takes "*" then return .starred (← inner.expression)
  else if ← takes ":" then inner.sliceRest none
  else
    let isPlain := !(← seesAssigned)
    let e ← inner.namedExpression
    let isBound ← if isPlain then takes ":" else pure false
    if isBound then inner.sliceRest (some e) else return e

/-- What follows the opening bracket of a subscript. -/
def index (inner : Inner) : Read Expr := do
  let items ← commaList inner.indexItem
  mark "]"
  match items with
  | ([e], false) => if isStarred e then return .tuple [e] else return e
  | (es, _) => return .tuple es

/-! ## Parameters -/

/-- The parameters read so far, last first. -/
structure Signature where
  params : List Parameter := []
  slash : Bool := false
  star : Bool := false
  bare : Bool := false
  closed : Bool := false

/-- A parameter that comes before a slash takes its value by position only. -/
def byPosition : Parameter → Parameter
  | .mk _ id a d => .mk .positionalOnly id a d

/-- An annotation, if annotations may stand and there is one. -/
def hint? (annotated : Bool) (read : Read Expr) : Read (Option Expr) := do
  if !annotated then return none
  else if ← takes ":" then return some (← read)
  else return none

def parameter (inner : Inner) (annotated : Bool) (s : Signature) : Read Signature := do
  if s.closed then failure
  if ← takes "/" then
    if s.slash || s.star || s.params.isEmpty then failure
    else return { s with params := s.params.map byPosition, slash := true }
  else if ← takes "**" then
    if s.bare then failure
    let id ← name
    let a ← hint? annotated inner.expression
    return { s with params := .mk .keywordRest id a none :: s.params, closed := true }
  else if ← takes "*" then
    if s.star then failure
    else if ← sees [","] then return { s with star := true, bare := true }
    else
      let id ← name
      let a ← hint? annotated (inner.starItem inner.expression)
      return { s with params := .mk .rest id a none :: s.params, star := true }
  else
    let id ← name
    let a ← hint? annotated inner.expression
    let d ← if ← takes "=" then pure (some (← inner.expression)) else pure none
    if s.star then
      return { s with params := .mk .keywordOnly id a d :: s.params, bare := false }
    else if d.isNone && s.params.any (·.hasDefault) then failure
    else return { s with params := .mk .ordinary id a d :: s.params }

/-- The parameters up to a closing mark, which is left in place. -/
def parameters (inner : Inner) (annotated : Bool) (close : String) : Read (List Parameter) := do
  if ← sees [close] then return []
  else
    let first ← inner.parameter annotated {}
    let s ← iterate (fun s => do
      if ← takes "," then
        if ← sees [close] then return none else return some (← inner.parameter annotated s)
      else return none) first
    if s.bare then failure else return s.params.reverse

/-! ## Levels of operators -/

def valueMarks : List (String × Literal) :=
  [("None", .none), ("True", .true), ("False", .false), ("...", .ellipsis)]

/-- A string literal in front, if there is one. -/
def string? : Read (Option Text) := do
  match ← peek? with
  | some (.string t) =>
    let _ ← next
    return some t
  | _ => return none

/-- The expression that a text in a field of a formatted string is. -/
def ofText? (inner : Inner) (t : Text) : Option Expr := do
  let words ← lex ('(' :: t ++ [')'])
  (inner.starExpressions.step ⟨words, 0⟩).map (·.1)

/-- An expression without operators. -/
def atom (inner : Inner) : Read Expr := do
  match ← peek? with
  | some (.name id) =>
    let _ ← next
    return .name id
  | some (.number t) =>
    let _ ← next
    match Literal.ofNumber? t with
    | some l => return .literal l
    | none => failure
  | some (.string _) =>
    let texts ← many string?
    match Formatted.ofStrings? inner.ofText? texts with
    | some e => return e
    | none => failure
  | some (.mark m) =>
    let _ ← next
    match valueMarks.lookup m with
    | some l => return .literal l
    | none =>
      if m = "(" then inner.parenthesized
      else if m = "[" then inner.listDisplay
      else if m = "\x7b" then inner.braced
      else failure
  | _ => failure

/-- An atom with what is called, taken or looked up of it. -/
def primaryOf (inner : Inner) : Read Expr := do
  iterate (fun e => do
    if ← takes "." then return some (.member e (← name))
    else if ← takes "(" then return some (.call e (← inner.callArguments))
    else if ← takes "[" then return some (.subscript e (← inner.index))
    else return none) (← inner.atom)

def awaited (inner : Inner) : Read Expr := do
  if ← takes "await" then return .await (← inner.primaryOf) else inner.primaryOf

def signs : List (String × UnaryOp) := [("+", .plus), ("-", .minus), ("~", .invert)]

/-- The mark in front among those of a table, taken, with its meaning. -/
def oneOf {α : Type} (table : List (String × α)) : Read (Option α) := do
  match ← peek? with
  | some (.mark m) =>
    match table.lookup m with
    | some a =>
      let _ ← next
      return some a
    | none => return none
  | _ => return none

/-- An operand with signs and powers, at most `n` of them. A power binds more than a sign before
it and less than one behind it. -/
def factorUpTo (inner : Inner) : Nat → Read Expr
  | 0 => failure
  | n + 1 => do
    match ← oneOf signs with
    | some op => return .unary op (← factorUpTo inner n)
    | none =>
      let base ← inner.awaited
      if ← takes "**" then return .binary .power base (← factorUpTo inner n) else return base

def factor (inner : Inner) : Read Expr := counted inner.factorUpTo

/-- Operands with operators of one level between, taken from the left. -/
def leftLevel (ops : List (String × BinaryOp)) (operand : Read Expr) : Read Expr := do
  iterate (fun left => do
    match ← oneOf ops with
    | some op => return some (.binary op left (← operand))
    | none => return none) (← operand)

/-- The levels of operators that are taken from the left, the tightest first. -/
def leftLevels : List (List (String × BinaryOp)) :=
  [[("*", .times), ("@", .matrixTimes), ("/", .divide), ("//", .floorDivide), ("%", .modulo)],
    [("+", .plus), ("-", .minus)],
    [("<<", .shiftLeft), (">>", .shiftRight)],
    [("&", .bitAnd)], [("^", .bitXor)], [("|", .bitOr)]]

def operandOf (inner : Inner) : Read Expr :=
  leftLevels.foldl (fun operand ops => leftLevel ops operand) inner.factor

/-- A comparing operator in front, taken. -/
def comparator? : Read (Option Comparator) := do
  if ← sees ["not", "in"] then
    let _ ← next
    let _ ← next
    return some .notMember
  else if ← sees ["is", "not"] then
    let _ ← next
    let _ ← next
    return some .isNot
  else oneOf [("==", .equal), ("!=", .notEqual), ("<", .less), ("<=", .lessEqual),
    (">", .greater), (">=", .greaterEqual), ("is", .is), ("in", .member)]

def comparison (inner : Inner) : Read Expr := do
  let first ← inner.operandOf
  let rest ← many do
    match ← comparator? with
    | some op => return some (op, ← inner.operandOf)
    | none => return none
  if rest.isEmpty then return first
  else return .comparison first (rest.map (·.1)) (rest.map (·.2))

/-- A comparison, which at most `n` negations may precede. -/
def negationUpTo (inner : Inner) : Nat → Read Expr
  | 0 => failure
  | n + 1 => do
    if ← takes "not" then return .unary .not (← negationUpTo inner n) else inner.comparison

/-- A comparison, which negations may precede. -/
def negation (inner : Inner) : Read Expr := counted inner.negationUpTo

/-- Operands with a keyword between, taken as one list. -/
def joined (keyword : String) (make : List Expr → Expr) (operand : Read Expr) : Read Expr := do
  let first ← operand
  let rest ← many do
    if ← takes keyword then return some (← operand) else return none
  if rest.isEmpty then return first else return make (first :: rest)

def disjunctionOf (inner : Inner) : Read Expr :=
  joined "or" .disjunction (joined "and" .conjunction inner.negation)

/-- A function without a name, or an expression that may depend on a condition. -/
def expressionOf (inner : Inner) : Read Expr := do
  if ← takes "lambda" then
    let params ← inner.parameters false ":"
    mark ":"
    return .lambda params (← inner.expression)
  else
    let body ← inner.disjunctionOf
    if ← takes "if" then
      let test ← inner.disjunctionOf
      mark "else"
      return .conditional test body (← inner.expression)
    else return body

/-- The rules for expressions nested at most `n` deep. -/
def upTo : Nat → Inner
  | 0 => ⟨failure, failure, failure, failure⟩
  | n + 1 =>
    let inner := upTo n
    ⟨inner.expressionOf, inner.disjunctionOf, inner.operandOf, inner.primaryOf⟩

end Inner

end Outline.Source
