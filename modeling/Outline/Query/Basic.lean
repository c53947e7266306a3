import Outline.Query.KindFilter
import Outline.Query.Token

/-!
# Queries

A query as typed is nothing, a kind filter, words, or a kind filter and words. Reading one never
fails: what is no kind filter is words.
-/
namespace Outline

/-- What a query asks for. -/
inductive Query
  | none
  | kinds (kinds : List Kind)
  | tokens (tokens : List Token)
  | kindsAndTokens (kinds : List Kind) (tokens : List Token)
  deriving DecidableEq, Repr

namespace Query

/-- The first word and what follows the white space after it, when the text starts with a word and
more than white space follows. -/
def splitFirst? (raw : Text) : Option (Text × Text) :=
  let word := raw.takeWhile (!isBlank ·)
  let rest := Text.trimLeft (raw.drop word.length)
  if word.isEmpty || rest.isEmpty then Option.none else some (word, rest)

def parse (sentinel raw : Text) : Query :=
  if raw.length ≤ 1 then .none
  else
    match (splitFirst? raw).filter fun p => KindFilter.isFilter sentinel p.1 with
    | some (word, rest) => .kindsAndTokens (KindFilter.kinds sentinel word) (tokenize rest)
    | Option.none =>
      if KindFilter.isFilter sentinel raw then .kinds (KindFilter.kinds sentinel raw)
      else .tokens (tokenize (stripSentinel sentinel raw))

end Query

end Outline
