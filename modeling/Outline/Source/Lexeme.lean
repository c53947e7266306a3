import Outline.Text.Normal

/-!
# Lexemes

The words of a Python module: names, literals, keywords and operators, and the marks that its
lines and indentation leave. Each knows its line, where it begins on it, counted in bytes, and the
line on which it ends.
-/
namespace Outline.Source

/-- A word of a module. -/
inductive Lexeme
  | name (id : Text)
  | number (text : Text)
  | string (text : Text)
  | mark (text : String)
  | newline
  | indent
  | dedent
  deriving DecidableEq, Repr

/-- A word with its place: lines count from zero, the column counts bytes. -/
structure Word where
  lexeme : Lexeme
  line : Nat
  column : Nat
  lastLine : Nat
  deriving DecidableEq, Repr

namespace Lexeme

def keywords : List String :=
  ["False", "None", "True", "and", "as", "assert", "async", "await", "break", "class", "continue",
    "def", "del", "elif", "else", "except", "finally", "for", "from", "global", "if", "import",
    "in", "is", "lambda", "nonlocal", "not", "or", "pass", "raise", "return", "try", "while",
    "with", "yield"]

/-- The operators, longer ones before those they begin with. -/
def operators : List String :=
  ["**=", "//=", ">>=", "<<=", "...", "!=", "%=", "&=", "**", "*=", "+=", "-=", "->", "//", "/=",
    ":=", "<<", "<=", "<>", "==", ">=", ">>", "@=", "^=", "|=", "(", ")", "[", "]", "\x7b", "\x7d",
    ":", ",", ";", "+", "-", "*", "/", "|", "&", "<", ">", "=", ".", "%", "~", "^", "@"]

/-- A name as a lexeme: a keyword if it is reserved, and its composed compatibility form else. -/
def ofName (t : Text) : Lexeme :=
  match keywords.find? (·.toList == t) with
  | some k => .mark k
  | none => .name (Text.normalize t)

/-- Whether the lexeme is a word and no mark of lines or indentation. -/
def isVisible : Lexeme → Bool
  | .newline | .indent | .dedent => false
  | _ => true

end Lexeme

end Outline.Source
