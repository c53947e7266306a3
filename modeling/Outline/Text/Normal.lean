import Outline.Text.Basic
import Outline.Text.NormalTable

/-!
# Compatibility normal form

Identifiers are compared in the composed compatibility form: every character is decomposed in
full, combining marks are put into canonical order, and what composes is composed again.
-/
namespace Outline.Text

/-! ## Hangul -/

def hangulJamo? (n : Nat) : Option (List Nat) :=
  if 0xAC00 ≤ n ∧ n ≤ 0xD7A3 then
    let s := n - 0xAC00
    let lv := [0x1100 + s / 588, 0x1161 + s % 588 / 28]
    some (if s % 28 = 0 then lv else lv ++ [0x11A7 + s % 28])
  else none

/-- The syllable of a leading jamo and a vowel, or of a syllable and a trailing jamo. -/
def hangulSyllable? (a b : Nat) : Option Nat :=
  if 0x1100 ≤ a ∧ a ≤ 0x1112 ∧ 0x1161 ≤ b ∧ b ≤ 0x1175 then
    some (0xAC00 + ((a - 0x1100) * 21 + (b - 0x1161)) * 28)
  else if 0xAC00 ≤ a ∧ a ≤ 0xD7A3 ∧ (a - 0xAC00) % 28 = 0 ∧ 0x11A8 ≤ b ∧ b ≤ 0x11C2 then
    some (a + (b - 0x11A7))
  else none

/-! ## Decomposition -/

/-- The run of `t` that holds `n`. -/
def runOf? (t : Array DecompositionRun) (n : Nat) : Option DecompositionRun :=
  let i := bisect (fun i => match t[i]? with
    | some run => n ≤ run.last
    | none => true) 0 t.size
  match t[i]? with
  | some run => if run.first ≤ n then some run else none
  | none => none

/-- The full compatibility decomposition of one code point. -/
def decompose (n : Nat) : List Nat :=
  match hangulJamo? n with
  | some jamo => jamo
  | none =>
    match runOf? decompositionRuns n with
    | some ⟨first, _, [image]⟩ => [image + (n - first)]
    | some ⟨_, _, image⟩ => image
    | none => [n]

/-- The canonical combining class; zero for a character that starts a cluster. -/
def combiningClass (n : Nat) : Nat :=
  match runOf? combiningRuns n with
  | some ⟨_, _, [k]⟩ => k
  | _ => 0

/-- Puts a mark in front of marks of a higher class only. -/
def insertMark (n : Nat) : List Nat → List Nat
  | [] => [n]
  | m :: ms =>
    if combiningClass m ≠ 0 ∧ combiningClass m < combiningClass n then m :: insertMark n ms
    else n :: m :: ms

/-- Sorts each run of marks by class, equal classes staying in order. -/
def orderMarks : List Nat → List Nat
  | [] => []
  | n :: ns =>
    if combiningClass n = 0 then n :: orderMarks ns else insertMark n (orderMarks ns)

/-! ## Composition -/

def composePair? (a b : Nat) : Option Nat :=
  match hangulSyllable? a b with
  | some s => some s
  | none =>
    let t := compositionPairs
    let i := bisect (fun i => match t[i]? with
      | some p => a < p.first || (a == p.first && b ≤ p.second)
      | none => true) 0 t.size
    match t[i]? with
    | some p => if p.first = a ∧ p.second = b then some p.composed else none
    | none => none

/-- Composes what follows the starter `s`. `kept` are the marks since then that did not compose
(last first), `blocker` is the class of the last of them. -/
def composeFrom (s : Nat) (kept : List Nat) (blocker : Option Nat) : List Nat → List Nat
  | [] => s :: kept.reverse
  | n :: ns =>
    let k := combiningClass n
    let free := match blocker with
      | none => true
      | some b => b < k
    match if free then composePair? s n else none with
    | some c => composeFrom c kept blocker ns
    | none =>
      if k = 0 then s :: kept.reverse ++ composeFrom n [] none ns
      else composeFrom s (n :: kept) (some k) ns

def compose : List Nat → List Nat
  | [] => []
  | n :: ns => if combiningClass n = 0 then composeFrom n [] none ns else n :: compose ns

/-- The composed compatibility form of a text of identifier characters. -/
def normalize (t : Text) : Text :=
  if t.all (·.toNat < 128) then t
  else (compose (orderMarks (t.flatMap fun c => decompose c.toNat))).map Char.ofNat

end Outline.Text
