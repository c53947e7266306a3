import Outline.Query.Basic
import Outline.Search.Mode
import Outline.Tree.Insert
import Outline.Tree.Traversal

/-!
# Searching an outline

A query is applied to an outline as a whole: what the last query left is wiped out, and the
symbols and lines that satisfy the new one are shown. A query with a pattern that cannot even be
refused ends early and leaves everything hidden.
-/
namespace Outline

/-- Whether a query is in force. -/
inductive Status
  | idle
  | filtering
  deriving DecidableEq, Repr

def Status.name : Status → String
  | idle => "idle"
  | filtering => "filtering"

/-- An outline under search. `searched` lists the queries that were applied to it, as typed and in
turn: nothing reads it but what is said of how often a query is applied. -/
structure Search where
  mode : Mode
  sentinel : Text
  tree : Tree
  status : Status := .idle
  memory : Memory := {}
  searched : List Text := []

/-- What came of a query: how it was read, the text with its sentinel, whether that had to be put
in front, and the number of results. -/
structure Outcome where
  query : Query
  text : Text
  completed : Bool
  resultCount : Nat
  deriving DecidableEq, Repr

namespace Search

/-- Whether a query is in force. -/
def queryActive (s : Search) : Bool := s.status == .filtering

/-- The hits of the tokens among symbol names, each name taken for the whole text of the line that
its symbol starts on. -/
def nameHits (tokens : List Token) : List Symbol → Except Abort (List Leaf)
  | [] => .ok []
  | s :: ss => do
    let hit ← matchLine s.startLine s.name tokens
    return (hit.toList.map (⟨Line.whole s.startLine s.name, ·⟩)) ++ (← nameHits tokens ss)

def lineHits (d : Document) (tokens : List Token) : Except Abort (List Leaf) := do
  return (← d.hits tokens).map fun h => ⟨Line.whole h.line ((d.lines[h.line]?).getD []), h⟩

/-- Shows what satisfies the tokens in a cleared outline. -/
def passTokens (mode : Mode) (d : Document) (kinds : Option (List Kind)) (tokens : List Token)
    (t : Tree) : Except Abort Tree := do
  match mode with
  | .text => return t.insertAll ((← lineHits d tokens).map (⟨·, kinds⟩))
  | _ =>
    let hits ← nameHits tokens (t.preorder.filterMap (·.node.symbol?))
    match kinds with
    | none => return t.insertAll (hits.map (⟨·, none⟩))
    | some ks =>
      let lines := hits.map (·.hit.line)
      return t.markWhere fun s => ks.contains s.kind && lines.contains s.startLine

/-- Shows what satisfies a query in a cleared outline. A kind filter alone selects no lines. -/
def pass (mode : Mode) (d : Document) (t : Tree) : Query → Except Abort Tree
  | .none => .ok t
  | .kinds ks => .ok (if mode = .text then t else t.markWhere (ks.contains ·.kind))
  | .tokens ts => passTokens mode d none ts t
  | .kindsAndTokens ks ts => passTokens mode d (some ks) ts t

/-- The outline without a query. Only the search by symbols has such a view. -/
def unfiltered (mode : Mode) (t : Tree) : Tree :=
  if mode = .symbol then t.clearMatches.revealAll else t.clearMatches.hideAll

/-- Takes down a query as typed. -/
def noted (s : Search) (raw : Text) : Search :=
  { s with memory := s.memory.set s.mode raw, searched := s.searched ++ [raw] }

def apply (s : Search) (d : Document) (raw : Text) : Search × Except Abort Outcome :=
  let s := s.noted raw
  let completed := (raw.dropPrefix? s.sentinel).isNone
  let text := if completed then s.sentinel ++ raw else raw
  match Query.parse s.sentinel text with
  | .none =>
    ({ s with tree := unfiltered s.mode s.tree, status := .idle }, .ok ⟨.none, text, completed, 0⟩)
  | query =>
    let cleared := s.tree.hideAll.clearMatches
    match pass s.mode d cleared query with
    | .ok t =>
      ({ s with tree := t, status := .filtering }, .ok ⟨query, text, completed, t.resultCount⟩)
    | .error a => ({ s with tree := cleared }, .error a)

end Search

end Outline
