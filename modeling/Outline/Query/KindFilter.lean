import Outline.Symbol.Kind
import Outline.Text.Blank

/-!
# Kind filters

A kind filter is a sentinel followed by filter letters, each of which selects some kinds and may
stand only once.
-/
namespace Outline

namespace KindFilter

def letters : List (Char × List Kind) :=
  [('f', [.function, .method]),
    ('c', [.class, .property]),
    ('s', [.property, .struct]),
    ('o', [.object]),
    ('e', [.enum, .enumMember]),
    ('t', [.class, .interface, .struct, .typeParameter])]

/-- The kinds that a letter selects; a letter that is no filter letter selects none. -/
def kindsOfLetter (c : Char) : List Kind := (letters.lookup c).getD []

def isLetter (c : Char) : Bool := (letters.lookup c).isSome

/-- The kinds that some letter of the text selects, in the order of their names. -/
def kindsOfLetters (t : Text) : List Kind :=
  Kind.all.filter fun k => t.any fun c => (kindsOfLetter c).contains k

/-- Whether all characters are filter letters and none stands twice. -/
def distinctLetters : Text → Bool
  | [] => true
  | c :: cs => isLetter c && !cs.contains c && distinctLetters cs

/-- Whether a token, white space behind it aside, is the sentinel and distinct filter letters. -/
def isFilter (sentinel token : Text) : Bool :=
  let token := token.trimRight
  match token.dropPrefix? sentinel with
  | some rest => 1 < token.length && distinctLetters rest
  | none => false

def kinds (sentinel token : Text) : List Kind :=
  kindsOfLetters (token.trimRight.drop sentinel.length)

end KindFilter

/-- The text behind the sentinel, or all of it when the sentinel is missing. -/
def stripSentinel (sentinel raw : Text) : Text := (raw.dropPrefix? sentinel).getD raw

end Outline
