import Outline.Text.Basic

/-!
# Tables of code points

A property of characters is a sorted array of runs of code points, a simple mapping a sorted array
of runs that share a shift. Both are written as text in hexadecimal and looked up by bisection.
-/
namespace Outline.Text

def hexDigit? (c : Char) : Option Nat :=
  if '0' ≤ c ∧ c ≤ '9' then some (c.toNat - 48)
  else if 'a' ≤ c ∧ c ≤ 'f' then some (c.toNat - 87)
  else if 'A' ≤ c ∧ c ≤ 'F' then some (c.toNat - 55)
  else none

/-- The value of a run of hexadecimal digits; other characters count nothing. -/
def hexValue (cs : List Char) : Nat :=
  cs.foldl (fun n c => match hexDigit? c with
    | some d => 16 * n + d
    | none => n) 0

/-- The least index in `[lo, lo + n)` at which `past` holds, or `lo + n`; `past` is monotone. -/
def bisect (past : Nat → Bool) (lo n : Nat) : Nat :=
  if n = 0 then lo
  else
    let half := n / 2
    if past (lo + half) then bisect past lo half
    else bisect past (lo + half + 1) (n - half - 1)
termination_by n
decreasing_by all_goals omega

/-- The words of a table, which spaces and line feeds separate. -/
def tableWords (s : String) : List (List Char) :=
  (splitAtChar ' ' (s.toList.map fun c => if c = '\n' then ' ' else c)).filter (!·.isEmpty)

/-! ## Sets -/

/-- A set of code points: first and last of each run, in ascending order. -/
abbrev CodeSet := Array (Nat × Nat)

namespace CodeSet

/-- Reads runs such as `41-5A 61`. -/
def ofHex (s : String) : CodeSet :=
  (tableWords s).toArray.filterMap fun word =>
    match splitAtChar '-' word with
    | [one] => some (hexValue one, hexValue one)
    | lo :: hi :: _ => some (hexValue lo, hexValue hi)
    | [] => none

def contains (t : CodeSet) (n : Nat) : Bool :=
  let i := bisect (fun i => match t[i]? with
    | some run => n ≤ run.2
    | none => true) 0 t.size
  match t[i]? with
  | some run => run.1 ≤ n
  | none => false

/-- The first code point of the run that holds `n`. -/
def runStart? (t : CodeSet) (n : Nat) : Option Nat :=
  let i := bisect (fun i => match t[i]? with
    | some run => n ≤ run.2
    | none => true) 0 t.size
  match t[i]? with
  | some run => if run.1 ≤ n then some run.1 else none
  | none => none

end CodeSet

/-! ## Mappings -/

/-- The code points `first`, `first + step`, … up to `last`, each moved by `shift`. -/
structure ShiftRun where
  first : Nat
  last : Nat
  step : Nat
  shift : Int

namespace ShiftRun

/-- Reads one run such as `100-12E/2+1`. -/
def ofWord? (word : List Char) : Option ShiftRun :=
  match splitAtChar '/' word with
  | [span, move] =>
    match splitAtChar '-' span, move with
    | [lo, hi], step :: '+' :: by' =>
      some ⟨hexValue lo, hexValue hi, hexValue [step], hexValue by'⟩
    | [lo, hi], step :: '-' :: by' =>
      some ⟨hexValue lo, hexValue hi, hexValue [step], -(hexValue by' : Int)⟩
    | _, _ => none
  | _ => none

def ofHex (s : String) : Array ShiftRun :=
  (tableWords s).toArray.filterMap ofWord?

/-- Where the mapping takes `n`; a code point outside every run stays. -/
def apply (t : Array ShiftRun) (n : Nat) : Nat :=
  let i := bisect (fun i => match t[i]? with
    | some run => n ≤ run.last
    | none => true) 0 t.size
  match t[i]? with
  | some run =>
    if run.first ≤ n ∧ (n - run.first) % run.step = 0 then (n + run.shift).toNat else n
  | none => n

end ShiftRun

end Outline.Text
