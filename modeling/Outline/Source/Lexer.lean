import Outline.Source.Lexeme
import Outline.Text.Class
import Outline.Text.LineBreak
import Outline.Text.Utf8

/-!
# Cutting a module into lexemes

Lines end at a line feed, with or without a carriage return, or at a carriage return alone. The
indentation of a line counts only outside brackets; a tab takes it to the next multiple of eight,
and a module in which that decides about its structure is refused.
-/
namespace Outline.Source

/-! ## Numbers -/

/-- Whether a name may go on with the character; beyond ASCII this is decided later. -/
def isNameChar (c : Char) : Bool := isAsciiLetter c || isAsciiDigit c || c == '_' || c.toNat ≥ 128

/-- Whether a name may begin with the character; beyond ASCII this is decided later. -/
def isNameStart (c : Char) : Bool := isAsciiLetter c || c == '_' || c.toNat ≥ 128

/-- What follows the digits in front; an underscore must stand before a digit. -/
def afterDigits (isDigit : Char → Bool) : Text → Option Text
  | [] => some []
  | c :: rest =>
    if isDigit c then afterDigits isDigit rest
    else if c = '_' then
      if rest.head?.any isDigit then afterDigits isDigit rest else none
    else some (c :: rest)

/-- The keywords that may stand directly behind a number. -/
def tailKeywords : List String := ["and", "else", "for", "if", "in", "is", "not", "or"]

/-- The text behind a number, unless it is a name that is glued to it. -/
def endNumber (rest : Text) : Option Text :=
  if rest.head?.any isNameChar && !tailKeywords.any (·.toList.isPrefixOf rest) then none
  else some rest

/-- What follows an optional imaginary unit behind a number. -/
def afterUnit : Text → Option Text
  | 'j' :: rest => endNumber rest
  | 'J' :: rest => endNumber rest
  | rest => endNumber rest

/-- What follows a power behind its letter; `whole` is the text with the letter. -/
def afterPower (whole rest : Text) : Option Text :=
  match rest with
  | c :: d :: _ =>
    if c = '+' ∨ c = '-' then
      if isAsciiDigit d then (afterDigits isAsciiDigit rest.tail).bind afterUnit else none
    else if isAsciiDigit c then (afterDigits isAsciiDigit rest).bind afterUnit
    else endNumber whole
  | [c] => if isAsciiDigit c then some [] else endNumber whole
  | [] => endNumber whole

/-- What follows the optional power and imaginary unit of a number. -/
def afterMantissa (rest : Text) : Option Text :=
  match rest with
  | 'e' :: more => afterPower rest more
  | 'E' :: more => afterPower rest more
  | rest => afterUnit rest

/-- What follows the digits behind a point, and the rest of the number. -/
def afterPoint (rest : Text) : Option Text :=
  if rest.head?.any isAsciiDigit then (afterDigits isAsciiDigit rest).bind afterMantissa
  else afterMantissa rest

/-- What follows the whole part of a decimal number. -/
def afterWhole : Text → Option Text
  | '.' :: rest => afterPoint rest
  | rest => afterMantissa rest

def goesOn : Text → Bool
  | c :: _ => ['.', 'e', 'E', 'j', 'J'].contains c
  | [] => false

/-- What follows the digits of a number in another base. -/
def afterRadix (isDigit : Char → Bool) (rest : Text) : Option Text :=
  match rest with
  | c :: _ =>
    if isDigit c || c == '_' then (afterDigits isDigit rest).bind endNumber else none
  | [] => none

/-- What follows the number in front. A whole number does not begin with a zero, zero aside. -/
def afterNumber (t : Text) : Option Text :=
  match t with
  | '.' :: rest => afterPoint rest
  | '0' :: rest =>
    match rest with
    | c :: more =>
      if c = 'x' ∨ c = 'X' then afterRadix (fun d => (Text.hexDigit? d).isSome) more
      else if c = 'o' ∨ c = 'O' then afterRadix (fun d => '0' ≤ d && d ≤ '7') more
      else if c = 'b' ∨ c = 'B' then afterRadix (fun d => d == '0' || d == '1') more
      else do
        let after ← afterDigits isAsciiDigit rest
        let digits := rest.take (rest.length - after.length)
        if digits.all (fun d => d == '0' || d == '_') || goesOn after then afterWhole after
        else none
    | [] => some []
  | t => (afterDigits isAsciiDigit t).bind afterWhole

/-! ## Strings -/

/-- What follows a string behind its opening quotes: `size` is the number of quotes that close it,
`run` how many came just before. -/
def afterString (quote : Char) (size run : Nat) : Text → Option Text
  | [] => none
  | c :: rest =>
    if c = quote then
      if run + 1 = size then some rest else afterString quote size (run + 1) rest
    else if c = '\n' ∧ size = 1 then none
    else if c = '\\' then
      match rest with
      | _ :: rest => afterString quote size 0 rest
      | [] => none
    else afterString quote size 0 rest

/-- What follows the string in front, its prefix left away. -/
def afterQuotes : Text → Option Text
  | a :: b :: c :: rest =>
    if a = b ∧ b = c then afterString a 3 0 rest
    else if a = b then some (c :: rest)
    else afterString a 1 0 (b :: c :: rest)
  | [a, b] => if a = b then some [] else none
  | _ => none

/-- The letters that may stand before a string, in lower case. -/
def stringPrefixes : List String := ["b", "u", "r", "f", "br", "rb", "fr", "rf"]

/-- The length of the prefix of a string in front, if there is a string. -/
def stringPrefix? (t : Text) : Option Nat :=
  let letters := t.takeWhile isAsciiLetter
  match t.drop letters.length with
  | c :: _ =>
    if (c = '"' ∨ c = '\'') ∧
        (letters.isEmpty ∨ stringPrefixes.contains (String.ofList (letters.map Char.toLower))) then
      some letters.length
    else none
  | [] => none

/-! ## Indentation -/

/-- The indentation of a line: its width, its width with tabs counted as one, the width before the
first continuation in it, and how many characters it takes. -/
structure Indentation where
  width : Nat
  narrow : Nat
  kept : Nat
  length : Nat

/-- Measures the indentation in front. A backslash may continue it on the next line. -/
def indentationFrom (i : Indentation) : Text → Option Indentation
  | [] => some i
  | [c] =>
    if c = ' ' ∨ c = '\t' ∨ c = '\x0c' then some { i with length := i.length + 1 }
    else if c = '\\' then none
    else some i
  | c :: d :: rest =>
    if c = ' ' then
      indentationFrom ⟨i.width + 1, i.narrow + 1, i.kept, i.length + 1⟩ (d :: rest)
    else if c = '\t' then
      indentationFrom ⟨(i.width / 8 + 1) * 8, i.narrow + 1, i.kept, i.length + 1⟩ (d :: rest)
    else if c = '\x0c' then indentationFrom ⟨0, 0, i.kept, i.length + 1⟩ (d :: rest)
    else if c = '\\' then
      if d = '\n' ∧ !rest.isEmpty then
        indentationFrom { i with
          kept := if i.kept = 0 then i.width else i.kept
          length := i.length + 2 } rest
      else none
    else some i

/-- The open levels of indentation, the innermost first; the outermost is not listed. -/
abbrev Levels := List (Nat × Nat)

/-- At most this many levels are open. -/
def maxLevels : Nat := 99

/-- Closes the levels that are wider than the line, and counts them. -/
def closeLevels (width : Nat) : Levels → Nat × Levels
  | [] => (0, [])
  | l :: ls => if width < l.1 then ((closeLevels width ls).1 + 1, (closeLevels width ls).2)
    else (0, l :: ls)

/-- The levels after a line with some indentation, and the marks that it leaves. -/
def adjust (width narrow : Nat) (levels : Levels) : Option (List Lexeme × Levels) :=
  let top := levels.head?.getD (0, 0)
  if width = top.1 then if narrow = top.2 then some ([], levels) else none
  else if top.1 < width then
    if levels.length < maxLevels ∧ top.2 < narrow then some ([.indent], (width, narrow) :: levels)
    else none
  else
    let (n, left) := closeLevels width levels
    if left.head?.getD (0, 0) = (width, narrow) then some (List.replicate n .dedent, left)
    else none

/-! ## Lexemes -/

/-- What is left of a module, and where. -/
structure Lexer where
  rest : Text
  line : Nat := 0
  column : Nat := 0
  levels : Levels := []
  brackets : List Char := []
  atStart : Bool := true
  blank : Bool := false

namespace Lexer

def past (l : Lexer) (c : Char) : Lexer :=
  if c = '\n' then { l with rest := l.rest.tail, line := l.line + 1, column := 0 }
  else { l with rest := l.rest.tail, column := l.column + Text.utf8Width c }

/-- Goes past the first `n` characters. -/
def skip (l : Lexer) (n : Nat) : Lexer := (l.rest.take n).foldl past l

/-- A word from here to where `after` is what is left. -/
def cut (l : Lexer) (make : Text → Lexeme) (after : Text) : Word × Lexer :=
  let n := l.rest.length - after.length
  let l' := l.skip n
  (⟨make (l.rest.take n), l.line, l.column, l'.line⟩, l')

def closing : Char → Char
  | '(' => ')'
  | '[' => ']'
  | _ => '\x7d'

def maxBrackets : Nat := 200

def bracketsAfter (op : String) (open' : List Char) : Option (List Char) :=
  match op.toList with
  | [c] =>
    if c = '(' ∨ c = '[' ∨ c = '\x7b' then
      if open'.length < maxBrackets then some (c :: open') else none
    else if c = ')' ∨ c = ']' ∨ c = '\x7d' then
      match open' with
      | o :: os => if closing o = c then some os else none
      | [] => none
    else some open'
  | _ => some open'

/-- The word in front, which is not white space, a comment or a line end. -/
def word (l : Lexer) : Option (Word × Lexer) :=
  match l.rest with
  | [] => none
  | c :: rest =>
    match stringPrefix? l.rest with
    | some n => do
      let after ← afterQuotes (l.rest.drop n)
      return l.cut .string after
    | none =>
      if isNameStart c then
        let id := l.rest.takeWhile isNameChar
        if Text.isIdentifier id then some (l.cut Lexeme.ofName (l.rest.drop id.length)) else none
      else if isAsciiDigit c || (c == '.' && rest.head?.any isAsciiDigit) then do
        let after ← afterNumber l.rest
        return l.cut .number after
      else do
        let op ← Lexeme.operators.find? fun op => op.toList.isPrefixOf l.rest
        let brackets ← bracketsAfter op l.brackets
        let (w, l) := l.cut (fun _ => .mark op) (l.rest.drop op.length)
        return (w, { l with brackets })

/-- Begins a line: measures its indentation and gives the marks that it leaves. -/
def beginLine (l : Lexer) : Option (List Word × Lexer) := do
  let i ← indentationFrom ⟨0, 0, 0, 0⟩ l.rest
  let l := { l.skip i.length with atStart := false }
  let blank := l.rest.head? == some '#' || l.rest.head? == some '\n'
  if blank || !l.brackets.isEmpty then return ([], { l with blank })
  else
    let (width, narrow) := if i.kept = 0 then (i.width, i.narrow) else (i.kept, i.kept)
    let (marks, levels) ← adjust width narrow l.levels
    return (marks.map fun m => ⟨m, l.line, l.column, l.line⟩, { l with levels, blank })

/-- The words of the rest of a module. Each round goes past a character or begins a line. -/
def run : Nat → Lexer → Option (List Word)
  | 0, _ => none
  | fuel + 1, l =>
    if l.atStart then do
      let (marks, l) ← l.beginLine
      return marks ++ (← run fuel l)
    else
      match l.rest with
      | [] => if l.brackets.isEmpty then some [] else none
      | c :: rest =>
        if c = ' ' ∨ c = '\t' ∨ c = '\x0c' then run fuel (l.past c)
        else if c = '#' then run fuel (l.skip (l.rest.takeWhile (· ≠ '\n')).length)
        else if c = '\n' then
          let next := { l.past c with atStart := true, blank := false }
          if l.blank || !l.brackets.isEmpty then run fuel next
          else do return ⟨.newline, l.line, l.column, l.line⟩ :: (← run fuel next)
        else if c = '\\' then
          match rest with
          | '\n' :: _ :: _ => run fuel (l.skip 2)
          | _ => none
        else do
          let (w, l) ← l.word
          return w :: (← run fuel l)

end Lexer

/-- A module text with line feeds only, and one at its end. -/
def unifyModule (t : Text) : Text :=
  let t := Text.unifyLineEnds t
  if t.getLast? = some '\n' then t else t ++ ['\n']

/-- The words of a text, or `none` if it cannot be cut into words. -/
def lex (t : Text) : Option (List Word) :=
  let t := unifyModule t
  Lexer.run (2 * t.length + 2) { rest := t }

end Outline.Source
