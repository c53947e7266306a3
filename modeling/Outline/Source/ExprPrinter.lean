import Outline.Decimal.Shortest
import Outline.Source.Expr
import Outline.Text.Quoted

/-!
# Writing expressions

Expressions are written with as few parentheses as their operators ask for: each operand is
written at a level, and what binds less than that level is put into parentheses. Inside the fields
of formatted strings no backslash may stand, and numbers have a limit: an expression that needs such
a backslash or a longer number cannot be written.
-/
namespace Outline.Source

/-- Why an expression cannot be written: one in a field of a formatted string needs a backslash, or
a number has more decimal digits than may be written. -/
inductive Unwritable
  | backslashInField
  | numberTooLong
  deriving DecidableEq, Repr

def Unwritable.message : Unwritable → String
  | backslashInField => "Unable to avoid backslash in f-string expression part"
  | numberTooLong =>
    "Exceeds the limit (4300 digits) for integer string conversion; " ++
      "use sys.set_int_max_str_digits() to increase the limit"

/-! ## Levels -/

namespace Level

def assigned : Nat := 1

/-- A tuple without parentheses. -/
def tuple : Nat := 2

def yield : Nat := 3

/-- A condition or a function without a name; also the level of an expression that stands alone. -/
def test : Nat := 4

def disjunction : Nat := 5

def conjunction : Nat := 6

def negation : Nat := 7

def comparison : Nat := 8

/-- What stands behind a star, and the loosest operator between operands. -/
def operand : Nat := 9

def sign : Nat := 15

def power : Nat := 16

def await : Nat := 17

/-- Whatever needs no parentheses anywhere. -/
def atom : Nat := 18

def above (level : Nat) : Nat := min (level + 1) atom

end Level

namespace BinaryOp

def sign : BinaryOp → String
  | bitOr => "|"
  | bitXor => "^"
  | bitAnd => "&"
  | shiftLeft => "<<"
  | shiftRight => ">>"
  | plus => "+"
  | minus => "-"
  | times => "*"
  | matrixTimes => "@"
  | divide => "/"
  | floorDivide => "//"
  | modulo => "%"
  | power => "**"

def level : BinaryOp → Nat
  | bitOr => Level.operand
  | bitXor => 10
  | bitAnd => 11
  | shiftLeft | shiftRight => 12
  | plus | minus => 13
  | times | matrixTimes | divide | floorDivide | modulo => 14
  | power => Level.power

/-- The levels of the operands: the one on the side from which operators are taken may have the
same operator. -/
def sides (op : BinaryOp) : Nat × Nat :=
  if op = power then (Level.above op.level, op.level) else (op.level, Level.above op.level)

end BinaryOp

def Comparator.sign : Comparator → String
  | equal => "=="
  | notEqual => "!="
  | less => "<"
  | lessEqual => "<="
  | greater => ">"
  | greaterEqual => ">="
  | is => "is"
  | isNot => "is not"
  | member => "in"
  | notMember => "not in"

def UnaryOp.sign : UnaryOp → String
  | plus => "+"
  | minus => "-"
  | invert => "~"
  | not => "not "

/-- The level of an operator in front of its operand. -/
def UnaryOp.level : UnaryOp → Nat
  | not => Level.negation
  | _ => Level.sign

/-! ## Strings with few backslashes -/

/-- The quotes a string may stand in, the preferred ones first. -/
def quoteKinds : List Text :=
  [['\''], ['"'], ['"', '"', '"'], ['\'', '\'', '\'']]

/-- The text of a string with what cannot be printed escaped; line feeds and tabs stay as they are
unless `spaces` says otherwise. -/
def escapeText (spaces : Bool) (codes : List Nat) : Text :=
  codes.flatMap fun n =>
    if !spaces && (n = 10 || n = 9) then [Char.ofNat n]
    else if n = 92 || !Text.showsCode n then Text.escapeCode n
    else [Char.ofNat n]

/-- The text of a string, and which of some quotes it may stand in, the best first. Where none
fits, quotes inside are escaped. -/
def fitQuotes (kinds : List Text) (spaces : Bool) (codes : List Nat) : Text × List Text :=
  let text := escapeText spaces codes
  let fitting := kinds.filter fun q =>
    (q.length = 3 || !text.contains '\n') && !Text.occursIn q text
  match fitting with
  | [] =>
    let quote := Text.quoteFor codes
    (codes.flatMap (Text.quoteCode quote), [(kinds.find? (·.contains quote)).getD [quote]])
  | _ =>
    match text.getLast? with
    | none => (text, fitting)
    | some last =>
      let ends (q : Text) : Bool := q.head? == some last
      let fitting := fitting.filter (!ends ·) ++ fitting.filter ends
      if fitting.head?.any ends then (text.dropLast ++ ['\\', last], fitting) else (text, fitting)

/-- A string in quotes that ask for few backslashes. -/
def fewBackslashes (codes : List Nat) : Text :=
  let (text, kinds) := fitQuotes quoteKinds false codes
  let quote := kinds.head?.getD ['\'']
  quote ++ text ++ quote

/-- The pieces of a formatted string in one sort of quotes. Each piece says whether it is text;
`kinds` are the quotes that fit the pieces before it. -/
def fitPieces (kinds : List Text) : List (List Nat × Bool) → Option (Text × List Text)
  | [] => some ([], kinds)
  | (codes, isText) :: rest =>
    let (text, fitting) := fitQuotes kinds isText codes
    if fitting.any kinds.contains then
      (fitPieces fitting rest).map fun (more, kinds) => (text ++ more, kinds)
    else none

def formattedText (pieces : List (List Nat × Bool)) : Text :=
  match fitPieces quoteKinds pieces with
  | some (text, kinds) =>
    let quote := kinds.head?.getD ['\'']
    'f' :: quote ++ text ++ quote
  | none =>
    let quote := ['\'', '\'', '\'']
    'f' :: quote ++
      (pieces.flatMap fun p => p.1.flatMap (Text.quoteCode '\'')) ++ quote

/-! ## Literals -/

/-- A number with a point or a power; what is too large for one is written as a power beyond all. -/
def writeFloat (dot : Bool) (x : Decimal) : Text :=
  match Binary64.ofDecimal x with
  | .infinite => "1e309".toList
  | .finite m e => let (digits, point) := Binary64.shortest m e; Binary64.write dot digits point

/-- A literal, inside a field of a formatted string or elsewhere. -/
def Literal.write (inField : Bool) : Literal → Except Unwritable Text
  | none => .ok "None".toList
  | true => .ok "True".toList
  | false => .ok "False".toList
  | ellipsis => .ok "...".toList
  | int n =>
    if (Text.ofNat n).length ≤ maxDigits then .ok (Text.ofNat n) else .error .numberTooLong
  | float x => .ok (writeFloat Bool.true x)
  | imaginary x => .ok (writeFloat Bool.false x ++ ['j'])
  | string codes marked =>
    .ok ((if marked then ['u'] else []) ++
      if inField then fewBackslashes codes else Text.quotedCodes codes)
  | bytes values => .ok (Text.quotedBytes values)

namespace Expr

/-! ## Expressions -/

/-- Parentheses around a text that binds with one level where another is asked for. -/
def enclose (own asked : Nat) (t : Text) : Text := if own < asked then '(' :: t ++ [')'] else t

def commas (ts : List Text) : Text := Text.join [',', ' '] ts

/-- Texts with commas between, and one behind a text that is alone. -/
def tupleText : List Text → Text
  | [t] => t ++ [',']
  | ts => commas ts

/-- Whether the expression is a whole number, of which truth values are some. -/
def isWhole : Expr → Bool
  | literal (.int _) | literal .true | literal .false => true
  | _ => false

def isText : Expr → Bool
  | literal _ => true
  | _ => false

def signature (params : List (Role × Text)) : Text :=
  let of (r : Role) : List Text := (params.filter (·.1 == r)).map (·.2)
  let bare := if (of .rest).isEmpty && !(of .keywordOnly).isEmpty then [['*']] else []
  commas (of .positionalOnly ++ (if (of .positionalOnly).isEmpty then [] else [['/']]) ++
    of .ordinary ++ bare ++ (of .rest).map ('*' :: ·) ++ of .keywordOnly ++
    (of .keywordRest).map ('*' :: '*' :: ·))

def bracketsOf : Shape → Char × Char
  | .list => ('[', ']')
  | .set | .dict => ('\x7b', '\x7d')
  | .generator => ('(', ')')

mutual

def write (inField : Bool) (level : Nat) : Expr → Except Unwritable Text
  | name id => .ok id
  | literal l => l.write inField
  | formatted parts => do
    let pieces ← writePieces parts
    if inField then return 'f' :: fewBackslashes pieces.flatten
    else return formattedText (pieces.zip (parts.map isText))
  | field .. => .ok []
  | assigned target value => do
    let t ← write inField Level.atom target
    let v ← write inField Level.atom value
    return enclose Level.assigned level (t ++ " := ".toList ++ v)
  | disjunction operands => do
    let ts ← writeRising inField Level.disjunction operands
    return enclose Level.disjunction level (Text.join " or ".toList ts)
  | conjunction operands => do
    let ts ← writeRising inField Level.conjunction operands
    return enclose Level.conjunction level (Text.join " and ".toList ts)
  | unary op operand => do
    let t ← write inField op.level operand
    return enclose op.level level (op.sign.toList ++ t)
  | binary op left right => do
    let l ← write inField op.sides.1 left
    let r ← write inField op.sides.2 right
    return enclose op.level level (l ++ ' ' :: op.sign.toList ++ ' ' :: r)
  | comparison first ops others => do
    let t ← write inField Level.operand first
    let ts ← writeEach inField Level.operand others
    let rest := (ops.zip ts).flatMap fun (op, t) => ' ' :: op.sign.toList ++ ' ' :: t
    return enclose Level.comparison level (t ++ rest)
  | conditional test body other => do
    let b ← write inField Level.disjunction body
    let t ← write inField Level.disjunction test
    let o ← write inField Level.test other
    return enclose Level.test level (b ++ " if ".toList ++ t ++ " else ".toList ++ o)
  | lambda params body => do
    let ps := signature (← writeParameters inField params)
    let b ← write inField Level.test body
    return enclose Level.test level
      ("lambda".toList ++ (if ps.isEmpty then [] else ' ' :: ps) ++ ": ".toList ++ b)
  | await value => do
    let v ← write inField Level.atom value
    return enclose Level.await level ("await ".toList ++ v)
  | yield none => .ok (enclose Level.yield level "yield".toList)
  | yield (some value) => do
    let v ← write inField Level.atom value
    return enclose Level.yield level ("yield ".toList ++ v)
  | yieldFrom value => do
    let v ← write inField Level.atom value
    return enclose Level.yield level ("yield from ".toList ++ v)
  | call function arguments => do
    let f ← write inField Level.atom function
    let ts ← writeEach inField Level.test arguments
    return f ++ '(' :: commas ts ++ [')']
  | keyword id value => do
    let v ← write inField Level.test value
    match id with
    | some id => return id ++ '=' :: v
    | none => return '*' :: '*' :: v
  | member value id => do
    let v ← write inField Level.atom value
    return v ++ (if isWhole value then [' '] else []) ++ '.' :: id
  | subscript value index => do
    let v ← write inField Level.atom value
    match index with
    | tuple (i :: is) =>
      let first ← write inField Level.test i
      let more ← writeEach inField Level.test is
      return v ++ '[' :: tupleText (first :: more) ++ [']']
    | index =>
      let i ← write inField Level.test index
      return v ++ '[' :: i ++ [']']
  | slice lower upper step => do
    let l ← writeOptional inField lower
    let u ← writeOptional inField upper
    let s ← match step with
      | some step => (write inField Level.test step).map (':' :: ·)
      | none => .ok []
    return l ++ ':' :: u ++ s
  | starred value => do return '*' :: (← write inField Level.operand value)
  | list items => do return '[' :: commas (← writeEach inField Level.test items) ++ [']']
  | tuple items => do
    let t := tupleText (← writeEach inField Level.test items)
    if items.isEmpty then return ['(', ')'] else return enclose Level.tuple level t
  | set items => do
    return '\x7b' :: commas (← writeEach inField Level.test items) ++ ['\x7d']
  | dict items => do
    return '\x7b' :: commas (← writeEach inField Level.test items) ++ ['\x7d']
  | pair key value => do
    let k ← write inField Level.test key
    let v ← write inField Level.test value
    return k ++ ": ".toList ++ v
  | spread value => do return '*' :: '*' :: (← write inField Level.operand value)
  | comprehension shape element clauses => do
    let e ← write inField Level.test element
    let cs ← writeClauses inField clauses
    let (open', close) := bracketsOf shape
    return open' :: e ++ cs ++ [close]

def writeEach (inField : Bool) (level : Nat) : List Expr → Except Unwritable (List Text)
  | [] => .ok []
  | e :: es => do
    let t ← write inField level e
    return t :: (← writeEach inField level es)

/-- Writes the operands of a chain, each a level tighter than the one before. -/
def writeRising (inField : Bool) (level : Nat) : List Expr → Except Unwritable (List Text)
  | [] => .ok []
  | e :: es => do
    let t ← write inField (Level.above level) e
    return t :: (← writeRising inField (Level.above level) es)

def writeOptional (inField : Bool) : Option Expr → Except Unwritable Text
  | none => .ok []
  | some e => write inField Level.test e

/-- Writes the part of a formatted string that a text or a field is, in code points. -/
def writePiece : Expr → Except Unwritable (List Nat)
  | formatted parts => do return (← writePieces parts).flatten
  | literal (.string codes _) =>
    .ok (codes.flatMap fun n => if n = 123 ∨ n = 125 then [n, n] else [n])
  | field value conversion spec => do
    let v ← write true Level.disjunction value
    if v.contains '\\' then throw .backslashInField
    let space := if v.head? = some '\x7b' then [' '] else []
    let conversion := match conversion with
      | some c => ['!', c]
      | none => []
    let spec ← match spec with
      | some s => (writePiece s).map (':'.toNat :: ·)
      | none => .ok []
    return ('\x7b' :: space ++ v ++ conversion).map Char.toNat ++ spec ++ [125]
  | _ => .ok []

def writePieces : List Expr → Except Unwritable (List (List Nat))
  | [] => .ok []
  | e :: es => do
    let p ← writePiece e
    return p :: (← writePieces es)

/-- Writes parameters, each with its role. -/
def writeParameters (inField : Bool) : List Parameter → Except Unwritable (List (Role × Text))
  | [] => .ok []
  | .mk role id hint default :: ps => do
    let a ← match hint with
      | some a => (write inField Level.test a).map (": ".toList ++ ·)
      | none => .ok []
    let d ← match default with
      | some d => (write inField Level.test d).map ('=' :: ·)
      | none => .ok []
    return (role, id ++ a ++ d) :: (← writeParameters inField ps)

/-- Writes the clauses of a comprehension, each with a space in front. -/
def writeClauses (inField : Bool) : List Clause → Except Unwritable Text
  | [] => .ok []
  | .mk isAsync target source conditions :: cs => do
    let t ← write inField Level.tuple target
    let s ← write inField Level.disjunction source
    let ifs ← writeEach inField Level.disjunction conditions
    let word := if isAsync then " async for ".toList else " for ".toList
    return word ++ t ++ " in ".toList ++ s ++
      (ifs.flatMap fun c => " if ".toList ++ c) ++ (← writeClauses inField cs)

end

def print (e : Expr) : Except Unwritable Text := e.write false Level.test

def printParameters (params : List Parameter) : Except Unwritable Text := do
  return signature (← writeParameters false params)

end Expr

end Outline.Source
