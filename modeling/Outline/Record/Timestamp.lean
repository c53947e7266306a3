import Outline.Record.Check

/-!
# Time stamps

A time stamp is a date, a date and a time of day, or a count of seconds or milliseconds. Only
whether it can be read counts; the time itself is not kept.
-/
namespace Outline.Record.Timestamp

/-- The value of exactly `n` digits in front, and the rest. -/
def digits? (n : Nat) (t : Text) : Option (Nat × Text) :=
  let ds := t.take n
  if ds.length = n ∧ ds.all isAsciiDigit then
    some (ds.foldl (fun v c => 10 * v + (c.toNat - 48)) 0, t.drop n)
  else none

def daysOfMonth (year month : Nat) : Nat :=
  if month = 2 then
    if year % 4 = 0 ∧ (year % 100 ≠ 0 ∨ year % 400 = 0) then 29 else 28
  else if [4, 6, 9, 11].contains month then 30 else 31

/-- Reads a date in front; gives the rest. -/
def date? (t : Text) : Option Text := do
  let (y, t) ← digits? 4 t
  let '-' :: t := t | none
  let (m, t) ← digits? 2 t
  let '-' :: t := t | none
  let (d, t) ← digits? 2 t
  if 1 ≤ y ∧ 1 ≤ m ∧ m ≤ 12 ∧ 1 ≤ d ∧ d ≤ daysOfMonth y m then some t else none

/-- Reads an offset from universal time to the end. -/
def offset? : Text → Option Unit
  | [] => some ()
  | ['Z'] => some ()
  | ['z'] => some ()
  | c :: t =>
    if c = '+' ∨ c = '-' ∨ c = '−' then do
      let (h, t) ← digits? 2 t
      let t := match t with
        | ':' :: t => t
        | t => t
      let (m, t) ← digits? 2 t
      if h < 24 ∧ m < 60 ∧ t.isEmpty then some () else none
    else none

def time? (t : Text) : Option Unit := do
  let (h, t) ← digits? 2 t
  let ':' :: t := t | none
  let (m, t) ← digits? 2 t
  if h ≥ 24 ∨ m ≥ 60 then none
  else match t with
    | ':' :: t => do
      let (s, t) ← digits? 2 t
      if s ≥ 60 then none
      else match t with
        | c :: t' =>
          if c = '.' ∨ c = ',' then
            let fraction := t'.takeWhile isAsciiDigit
            if fraction.isEmpty then none else offset? (t'.drop fraction.length)
          else offset? t
        | [] => some ()
    | t => offset? t

/-- Counts beyond this are milliseconds. -/
def watershed : Int := 20000000000

/-- Whether a count of seconds or milliseconds lies between the years 1600 and 9999. -/
def countInRange (n : Int) : Bool :=
  let seconds := if n.natAbs > watershed.natAbs then n / 1000 else n
  seconds ≥ -11676096000 && seconds ≤ 253402300799

/-- A count written in digits, a fraction left away. -/
def count? (t : Text) : Option Int := do
  let (negative, ds) := match t with
    | '-' :: ds => (true, ds)
    | '+' :: ds => (false, ds)
    | ds => (false, ds)
  let whole := ds.takeWhile isAsciiDigit
  let rest := ds.drop whole.length
  let fraction ← match rest with
    | [] => some []
    | '.' :: f => some f
    | _ => none
  if whole.isEmpty || !fraction.all isAsciiDigit then none
  else
    let n : Int := whole.foldl (fun v c => 10 * v + (c.toNat - 48)) (0 : Nat)
    some (if negative then -n else n)

def readable (t : Text) : Bool :=
  match date? t with
  | some [] => true
  | some (c :: rest) => ['T', 't', ' ', '_'].contains c && (time? rest).isSome
  | none => (count? t).any countInRange

def check : Check Unit
  | .str t => if readable t then .ok () else fail .datetimeFromDateParsing
  | .int n => if countInRange n then .ok () else fail .datetimeParsing
  | .float negative x =>
    match Binary64.ofDecimal x with
    | .finite m e =>
      let n : Int := (Binary64.scaled m 1 (-e)).1 / (Binary64.scaled m 1 (-e)).2
      if countInRange (if negative then -n else n) then .ok () else fail .datetimeParsing
    | .infinite => fail .datetimeParsing
  | .notANumber | .infinity _ => fail .datetimeParsing
  | _ => fail .datetimeType

end Outline.Record.Timestamp
