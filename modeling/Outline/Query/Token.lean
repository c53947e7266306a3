import Outline.Text.Blank
import Outline.Text.Case

/-!
# Query tokens

The words of a query. A word may be negated by an exclamation mark in front and is a pattern when
a slash follows; a capital anywhere in it makes case count.
-/
namespace Outline

/-- One word of a query. The pattern keeps its slashes but not the negation mark. -/
structure Token where
  pattern : Text
  isRegex : Bool := false
  caseSensitive : Bool := false
  negate : Bool := false
  deriving DecidableEq, Repr

namespace Token

def ofWord (word : Text) : Token :=
  let negate := word.head? == some '!'
  let pattern := if negate then word.tail else word
  { pattern
    isRegex := pattern.head? == some '/'
    caseSensitive := word.any isUpper
    negate }

def toWord (t : Token) : Text := if t.negate then '!' :: t.pattern else t.pattern

end Token

/-- The tokens of a query text, in order. -/
def tokenize (text : Text) : List Token := text.words.map Token.ofWord

end Outline
