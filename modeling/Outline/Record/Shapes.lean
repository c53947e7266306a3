import Outline.Query.Token
import Outline.Record.Check
import Outline.Symbol.Forest

/-!
# Records of positions, tokens and symbols

The records in which a host hands over positions, ranges, lines, tokens, hits and symbols, and the
JSON they are written back as.
-/
namespace Outline

namespace Position

/-- Reads a position; the character may be left out. -/
def check : Record.Check Position := Record.record fun j =>
  ((Record.field "line" (Record.intAtLeast 0) j).both
    (Record.fieldOr "character" 0 (Record.intAtLeast 0) j)).map fun (l, c) => ⟨l, c⟩

def ofInts (line character : Int) : Record.Checked Position :=
  check (Json.mkObj [("line", .int line), ("character", .int character)])

def toJson (p : Position) : Json :=
  Json.mkObj [("line", .ofNat p.line), ("character", .ofNat p.character)]

/-- What is wrong with a move, coordinate by coordinate. -/
def OutOfBounds.issues (e : OutOfBounds) : List Record.Issue :=
  (if e.line then [⟨["line".toList], .greaterThanEqual⟩] else []) ++
    if e.character then [⟨["character".toList], .greaterThanEqual⟩] else []

end Position

namespace Range

def check : Record.Check Range := Record.record fun j =>
  ((Record.field "start" Position.check j).both (Record.field "end" Position.check j)).map
    fun (a, b) => ⟨a, b⟩

/-- Checks four coordinates as a range, the start before the end. -/
def ofInts (startLine startChar stopLine stopChar : Int) : Record.Checked Range := do
  let start ← Position.ofInts startLine startChar
  let stop ← Position.ofInts stopLine stopChar
  return ⟨start, stop⟩

def toJson (r : Range) : Json := Json.mkObj [("start", r.start.toJson), ("end", r.stop.toJson)]

end Range

namespace Line

def check : Record.Check Line := Record.record fun j =>
  ((Record.field "line_number" (Record.intAtLeast 0) j).both
    ((Record.field "text" Record.text j).both (Record.field "range" Range.check j))).map
    fun (n, t, r) => ⟨n, t, r⟩

def toJson (l : Line) : Json :=
  Json.mkObj [("line_number", .ofNat l.number), ("text", .str l.text), ("range", l.range.toJson)]

end Line

namespace Token

/-- Reads a token; its switches may be left out. -/
def check : Record.Check Token := Record.record fun j =>
  ((Record.field "pattern" Record.text j).both
    ((Record.fieldOr "is_regex" false Record.bool j).both
      ((Record.fieldOr "case_sensitive" false Record.bool j).both
        (Record.fieldOr "negate" false Record.bool j)))).map
    fun (p, r, c, n) => ⟨p, r, c, n⟩

def toJson (t : Token) : Json :=
  Json.mkObj [("pattern", .str t.pattern), ("is_regex", .bool t.isRegex),
    ("case_sensitive", .bool t.caseSensitive), ("negate", .bool t.negate)]

end Token

/-- A hit as a host writes one: its spans are any pairs of whole numbers. -/
structure HitRecord where
  line : Nat
  ranges : List (Int × Int)

namespace HitRecord

/-- Reads a hit; its spans may be left out. -/
def check : Record.Check HitRecord := Record.record fun j =>
  ((Record.field "line" (Record.intAtLeast 0) j).both
    (Record.fieldOr "ranges" [] (Record.list Record.intPair) j)).map fun (l, rs) => ⟨l, rs⟩

def toJson (h : HitRecord) : Json :=
  Json.mkObj [("line", .ofNat h.line),
    ("ranges", .arr (h.ranges.map fun (a, b) => .arr [.int a, .int b]))]

end HitRecord

namespace Kind

def check : Record.Check Kind
  | .str t => match ofName? t with
    | some k => .ok k
    | none => Record.fail .enum
  | _ => Record.fail .enum

def toJson (k : Kind) : Json := .ofString k.name

end Kind

namespace SymbolForest

/-- Reads a symbol and the symbols below it, at most `depth` levels deep. -/
def checkTree : Nat → Record.Check (Symbol × SymbolForest)
  | 0 => fun _ => Record.fail .modelType
  | depth + 1 => Record.record fun j =>
    ((Record.field "name" Record.text j).both
      ((Record.field "kind" Kind.check j).both
        ((Record.field "range" Range.check j).both
          ((Record.fieldOr "detail" none (Record.optional Record.text) j).both
            (Record.fieldOr "children" [] (Record.list (checkTree depth)) j))))).map
      fun (name, kind, range, detail, children) => ({ name, kind, range, detail }, ofList children)

/-- The deepest level of symbols that a record may have. -/
def maxDepth : Nat := 10000

def check : Record.Check (Symbol × SymbolForest) := checkTree maxDepth

/-- Reads the roots of a forest one by one; the first that is wrong decides. -/
def checkRoots : List Json → Record.Checked SymbolForest
  | [] => .ok nil
  | j :: js => do
    let (s, cs) ← check j
    return cons s cs (← checkRoots js)

def toJsonList : SymbolForest → List Json
  | nil => []
  | cons s cs rest =>
    Json.mkObj [("name", .str s.name), ("kind", s.kind.toJson), ("range", s.range.toJson),
      ("detail", Json.ofOption .str s.detail), ("children", .arr cs.toJsonList)] ::
      rest.toJsonList

end SymbolForest

end Outline
