import Outline.Source.Lexeme

/-!
# Reading words

The steps from which the grammar of modules is put together. A step takes words from the front or
fails, and a failed step can be tried another way from where it began. That a step does no more than
take words from the front is part of what a step is.
-/
namespace Outline.Source

/-- What is left to read, and the line on which the last visible word ended. -/
structure Feed where
  rest : List Word
  last : Nat := 0

/-- Whether one feed becomes another by words that are taken from its front. -/
inductive Feed.Leads : Feed → Feed → Prop
  | refl (f : Feed) : Leads f f
  | word (w : Word) {rest : List Word} {last : Nat} {f : Feed} :
    Leads ⟨rest, if w.lexeme.isVisible then w.lastLine else last⟩ f → Leads ⟨w :: rest, last⟩ f

theorem Feed.Leads.trans {f g h : Feed} (hfg : f.Leads g) (hgh : g.Leads h) : f.Leads h := by
  induction hfg with
  | refl => exact hgh
  | word w _ ih => exact .word w (ih hgh)

/-- A step of reading. -/
structure Read (α : Type) where
  step : Feed → Option (α × Feed)
  leads : ∀ {f f' : Feed} {a : α}, step f = some (a, f') → f.Leads f'

namespace Read

instance : Monad Read where
  pure a := ⟨fun f => some (a, f), fun h => by cases h; exact .refl _⟩
  bind p k :=
    ⟨fun f => (p.step f).bind fun (a, f) => (k a).step f, fun h => by
      obtain ⟨⟨a, g⟩, hp, hk⟩ := Option.bind_eq_some_iff.mp h
      exact (p.leads hp).trans ((k a).leads hk)⟩

instance : Alternative Read where
  failure := ⟨fun _ => none, nofun⟩
  orElse p q :=
    ⟨fun f => (p.step f).or ((q ()).step f), fun h => by
      rcases Option.or_eq_some_iff.mp h with h | ⟨-, h⟩
      · exact p.leads h
      · exact (q ()).leads h⟩

def look {α : Type} (view : Feed → α) : Read α :=
  ⟨fun f => some (view f, f), fun h => by cases h; exact .refl _⟩

def counted {α : Type} (step : Nat → Read α) : Read α :=
  ⟨fun f => (step (f.rest.length + 1)).step f, fun h => (step _).leads h⟩

/-- The word in front, left in place. -/
def peek? : Read (Option Lexeme) := look fun f => (f.rest.head?).map (·.lexeme)

def next : Read Word where
  step f :=
    match f.rest with
    | w :: rest => some (w, ⟨rest, if w.lexeme.isVisible then w.lastLine else f.last⟩)
    | [] => none
  leads {f f' a} h := by
    obtain ⟨_ | ⟨w, rest⟩, last⟩ := f
    · cases h
    · cases h
      exact .word _ (.refl _)

def sees (marks : List String) : Read Bool :=
  look fun f => marks.map Lexeme.mark == (f.rest.take marks.length).map (·.lexeme)

/-- Whether the word in front is one of some marks. -/
def seesAny (marks : List String) : Read Bool := do
  match ← peek? with
  | some (.mark m) => return marks.contains m
  | _ => return false

/-- Takes a mark if it is in front, and says whether it was. -/
def takes (mark : String) : Read Bool := do
  if ← sees [mark] then
    let _ ← next
    return true
  else return false

/-- Takes a mark, which must be in front. -/
def mark (m : String) : Read Unit := do
  if ← takes m then return () else failure

/-- Takes a lexeme, which must be in front. -/
def lexeme (l : Lexeme) : Read Unit := do
  if (← next).lexeme == l then return () else failure

def name : Read Text := do
  match (← next).lexeme with
  | .name id => return id
  | _ => failure

/-- Tries a step; where it fails nothing is taken. -/
def optional {α : Type} (p : Read α) : Read (Option α) where
  step f :=
    match p.step f with
    | some (a, f) => some (some a, f)
    | none => some (none, f)
  leads {f f' a} h := by
    split at h
    · rename_i hp
      cases h
      exact p.leads hp
    · cases h
      exact .refl _

/-- Takes steps as long as they give a new value, at most `n` of them. -/
def iterateUpTo {α : Type} (step : α → Read (Option α)) : Nat → α → Read α
  | 0, a => pure a
  | n + 1, a => do
    match ← step a with
    | some a => iterateUpTo step n a
    | none => return a

/-- Takes steps, each of which takes a word, as long as they give a new value. -/
def iterate {α : Type} (step : α → Read (Option α)) (a : α) : Read α :=
  counted fun n => iterateUpTo step n a

/-- A result for each of several steps, as long as they give one. -/
def many {α : Type} (step : Read (Option α)) : Read (List α) := do
  let reversed ← iterate (fun done => do return (← step).map (· :: done)) []
  return reversed.reverse

/-- One item or more with commas between, none at the end. -/
def commaSeparated {α : Type} (item : Read α) : Read (List α) := do
  let first ← item
  let rest ← many do
    if ← takes "," then return some (← item) else return none
  return first :: rest

/-- One item or more with commas between, and whether a comma stands at the end. -/
def commaList {α : Type} (item : Read α) : Read (List α × Bool) := do
  let first ← item
  let (reversed, trailing) ← iterate (fun (done, trailing) => do
    if trailing then return none
    else if ← takes "," then
      match ← optional item with
      | some a => return some (a :: done, false)
      | none => return some (done, true)
    else return none) ([first], false)
  return (reversed.reverse, trailing)

/-- The items of `commaList`, if there are any. -/
def commaItems {α : Type} (item : Read α) : Read (List α) := do
  return ((← optional (commaList item)).map (·.1)).getD []

end Read

end Outline.Source
