import Outline.Source.Expr

/-!
# Formatted strings

The text of a formatted string is literal pieces and fields in braces. A field is an expression,
which may be shown as written, a conversion and a format, which may hold fields itself. Adjacent
strings of which one is formatted make one formatted string.
-/
namespace Outline.Source.Formatted

/-! ## Literal pieces -/

/-- Reads the literal piece in front, `acc` being the characters read so far, last first: the
piece, whether a doubled brace ends it, and what follows. Only at the `top` are braces doubled. -/
def piece (raw top : Bool) : Nat → Text → Text → Option (Text × Bool × Text)
  | 0, acc, _ => some (acc.reverse, false, [])
  | _, acc, [] => some (acc.reverse, false, [])
  | fuel + 1, acc, c :: rest =>
    if c = '\x7b' ∨ c = '\x7d' then brace acc c rest
    else if !raw && c == '\\' then
      match rest with
      | [] => some ((c :: acc).reverse, false, [])
      | 'N' :: '\x7b' :: more =>
        let name := more.takeWhile (· ≠ '\x7d')
        piece raw top fuel
          ((more.take (name.length + 1)).reverse ++ '\x7b' :: 'N' :: '\\' :: acc)
          (more.drop (name.length + 1))
      | d :: more =>
        if d = '\x7b' ∨ d = '\x7d' then brace (c :: acc) d more
        else piece raw top fuel (d :: c :: acc) more
    else piece raw top fuel (c :: acc) rest
where
  /-- What a brace does behind the characters read so far. -/
  brace (acc : Text) (c : Char) (rest : Text) : Option (Text × Bool × Text) :=
    if !top then some (acc.reverse, false, c :: rest)
    else if rest.head? = some c then some ((c :: acc).reverse, true, rest.tail)
    else if c = '\x7d' then none
    else some (acc.reverse, false, c :: rest)

/-! ## Expressions in fields -/

/-- Where a scan of an expression is: inside a string of one or three quotes, and inside
brackets. -/
structure Nest where
  quote : Option (Char × Bool) := none
  brackets : List Char := []

def closing : Char → Char
  | '(' => ')'
  | '[' => ']'
  | _ => '\x7d'

def maxBrackets : Nat := 200

/-- Reads the text of an expression up to what ends it, `acc` being the characters read so far,
last first. The text holds no backslash and no number sign. -/
def expressionText : Nat → Nest → Text → Text → Option (Text × Text)
  | 0, _, _, _ => none
  | _, _, _, [] => none
  | fuel + 1, n, acc, c :: rest =>
    let triple := rest.take 2 == [c, c]
    if c = '\\' then none
    else match n.quote with
      | some (q, long) =>
        if c ≠ q then expressionText fuel n (c :: acc) rest
        else if !long then expressionText fuel { n with quote := none } (c :: acc) rest
        else if triple then
          expressionText fuel { n with quote := none } (c :: c :: c :: acc) (rest.drop 2)
        else expressionText fuel n (c :: acc) rest
      | none =>
        if c = '\'' ∨ c = '"' then
          if triple then
            expressionText fuel { n with quote := some (c, true) } (c :: c :: c :: acc)
              (rest.drop 2)
          else expressionText fuel { n with quote := some (c, false) } (c :: acc) rest
        else if c = '(' ∨ c = '[' ∨ c = '\x7b' then
          if n.brackets.length < maxBrackets then
            expressionText fuel { n with brackets := c :: n.brackets } (c :: acc) rest
          else none
        else if c = '#' then none
        else if n.brackets.isEmpty && ['!', ':', '\x7d', '=', '<', '>'].contains c then
          if rest.head? = some '=' ∧ ['!', '=', '<', '>'].contains c then
            expressionText fuel n ('=' :: c :: acc) rest.tail
          else if c = '<' ∨ c = '>' then expressionText fuel n (c :: acc) rest
          else some (acc.reverse, c :: rest)
        else if c = ')' ∨ c = ']' ∨ c = '\x7d' then
          match n.brackets with
          | o :: os =>
            if closing o = c then expressionText fuel { n with brackets := os } (c :: acc) rest
            else none
          | [] => none
        else expressionText fuel n (c :: acc) rest

/-- White space that the equals sign of a field may have behind it. -/
def isFieldSpace (c : Char) : Bool := c == ' ' || (9 ≤ c.toNat && c.toNat ≤ 13)

def isBlankText (t : Text) : Bool := t.all fun c => [' ', '\t', '\n', '\x0c'].contains c

def text (codes : List Nat) : Expr := .literal (.string codes false)

/-- Reads a field behind its opening brace: the field, with its text in front when that is to be
shown, and what follows. -/
def field (readExpr : Text → Option Expr) (format : Text → Option (List Expr × Text)) (t : Text) :
    Option (List Expr × Text) := do
  let (source, rest) ← expressionText (t.length + 1) {} [] t
  if isBlankText source then none
  let value ← readExpr source
  let (shown, rest) ← match rest with
    | '=' :: more =>
      let space := more.takeWhile isFieldSpace
      if space.length = more.length then none
      else some (some (source ++ '=' :: space), more.drop space.length)
    | rest => some (none, rest)
  let (conversion, rest) ← match rest with
    | '!' :: c :: rest => if ['s', 'r', 'a'].contains c then some (some c, rest) else none
    | ['!'] => none
    | rest => some (none, rest)
  let (spec, rest) ← match rest with
    | ':' :: rest =>
      if rest.isEmpty then none
      else (format rest).map fun (parts, rest) => (some (.formatted parts), rest)
    | rest => some (none, rest)
  match rest with
  | '\x7d' :: rest =>
    let conversion :=
      if shown.isSome && spec.isNone && conversion.isNone then some 'r' else conversion
    let front := match shown with
      | some s => [text (s.map Char.toNat)]
      | none => []
    some (front ++ [.field value conversion spec], rest)
  | _ => none

/-! ## Whole strings -/

/-- Reads pieces and fields in turn: to the end of the text, or below the top to a closing
brace. -/
def parts (raw top : Bool) (field : Text → Option (List Expr × Text)) :
    Nat → Text → Option (List Expr × Text)
  | 0, _ => none
  | fuel + 1, t => do
    let (literal, doubled, rest) ← piece raw top (t.length + 1) [] t
    let codes ← Literal.decodeText? raw literal
    let front := [text codes]
    if doubled then
      let (more, rest) ← parts raw top field fuel rest
      return (front ++ more, rest)
    else match rest with
      | '\x7b' :: rest => do
        let (fields, rest) ← field rest
        let (more, rest) ← parts raw top field fuel rest
        return (front ++ fields ++ more, rest)
      | rest => return (front, rest)

/-- Joins neighbouring texts and drops empty ones. -/
def merge : List Expr → List Expr
  | [] => []
  | .literal (.string codes m) :: rest =>
    match merge rest with
    | .literal (.string more _) :: rest => .literal (.string (codes ++ more) m) :: rest
    | rest => if codes.isEmpty then rest else .literal (.string codes m) :: rest
  | e :: rest => e :: merge rest

/-- The parts of a format, in which fields may hold formats of one more level. -/
def format (readExpr : Text → Option Expr) (raw : Bool) : Nat → Text → Option (List Expr × Text)
  | 0, t => (parts raw false (fun _ => none) (t.length + 1) t).map fun (ps, r) => (merge ps, r)
  | n + 1, t =>
    (parts raw false (field readExpr (format readExpr raw n)) (t.length + 1) t).map
      fun (ps, r) => (merge ps, r)

def ofBody? (readExpr : Text → Option Expr) (raw : Bool) (t : Text) : Option (List Expr) := do
  let (ps, rest) ← parts raw true (field readExpr (format readExpr raw 1)) (t.length + 1) t
  if rest.isEmpty then some ps else none

def ofQuotation? (readExpr : Text → Option Expr) (q : Literal.Quotation) : Option (List Expr) :=
  if q.isFormatted then ofBody? readExpr q.raw q.body
  else (Literal.decodeText? q.raw q.body).map fun codes => [text codes]

/-- The expression that adjacent string literals make. Bytes do not mix with the others. -/
def ofStrings? (readExpr : Text → Option Expr) (texts : List Text) : Option Expr := do
  let qs := texts.map Literal.Quotation.ofText
  if qs.all (·.isBytes) then
    let values ← qs.mapM fun q => Literal.decodeBytes? q.raw q.body
    return .literal (.bytes values.flatten)
  else if qs.any (·.isBytes) then none
  else
    let ps ← qs.mapM (ofQuotation? readExpr)
    if qs.any (·.isFormatted) then return .formatted (merge ps.flatten)
    else
      let codes := ps.flatten.flatMap fun
        | .literal (.string codes _) => codes
        | _ => []
      return .literal (.string codes (qs.head?.any (·.isMarked)))

end Outline.Source.Formatted
