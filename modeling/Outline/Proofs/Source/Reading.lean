import Mathlib.Data.List.Basic
import Outline.Source.ExprReader

/-!
# Steps of reading

What a step of reading did, from its parts: a sequence of two (`bind_eq_some`), a mark that may be
taken (`takes_eq_some`), steps as long as they give something (`Chain`). A feed is opened by a
visible word (`Feed.Opens`) where that word is the first that a step takes; every expression is read
by such a step (`opening_upTo`).
-/
namespace Outline.Source

/-- The first word taken between two feeds is a visible one. -/
structure Feed.Opens (f : Feed) (w : Word) (g : Feed) : Prop where
  front : f.rest.head? = some w
  visible : w.lexeme.isVisible = true
  leads : Feed.Leads ⟨f.rest.tail, w.lastLine⟩ g

namespace Feed.Opens

variable {f g h : Feed} {w : Word}

theorem trans (hfg : f.Opens w g) (hgh : g.Leads h) : f.Opens w h :=
  ⟨hfg.front, hfg.visible, hfg.leads.trans hgh⟩

theorem toLeads (ho : f.Opens w g) : f.Leads g := by
  obtain ⟨rest, last⟩ := f
  obtain ⟨tail, hrest⟩ := List.head?_eq_some_iff.mp ho.front
  obtain rfl : rest = w :: tail := hrest
  have hleads := ho.leads
  refine .word w ?_
  rw [if_pos ho.visible]
  exact hleads

end Feed.Opens

namespace Read

theorem bind_eq_some {α β : Type} {p : Read α} {k : α → Read β} {f h : Feed} {b : β} :
    (p >>= k).step f = some (b, h) ↔
      ∃ a g, p.step f = some (a, g) ∧ (k a).step g = some (b, h) := by
  show (p.step f).bind _ = _ ↔ _
  rw [Option.bind_eq_some_iff, Prod.exists]

/-! ## One word -/

theorem next_eq_some {f g : Feed} {w : Word} (h : next.step f = some (w, g)) :
    f.rest.head? = some w ∧ (w.lexeme.isVisible = true → f.Opens w g) := by
  obtain ⟨_ | ⟨v, rest⟩, last⟩ := f
  · cases h
  · cases h
    refine ⟨rfl, fun hv => ⟨rfl, hv, ?_⟩⟩
    rw [if_pos hv]
    exact .refl _

theorem head?_of_peek? {f g : Feed} {l : Lexeme} (h : peek?.step f = some (some l, g)) :
    g = f ∧ ∃ w, f.rest.head? = some w ∧ w.lexeme = l := by
  obtain ⟨hl, hg⟩ := Prod.mk.inj (Option.some.inj h)
  obtain ⟨w, hw, hl⟩ := Option.map_eq_some_iff.mp hl
  exact ⟨hg.symm, w, hw, hl⟩

/-- The word that was looked at is the one taken. -/
theorem opens_of_peek? {f f' g : Feed} {w : Word} {l : Lexeme}
    (hl : peek?.step f = some (some l, f')) (hv : l.isVisible = true)
    (h : next.step f' = some (w, g)) : f.Opens w g ∧ w.lexeme = l := by
  obtain ⟨rfl, v, hfront, rfl⟩ := head?_of_peek? hl
  obtain ⟨hw, hopens⟩ := next_eq_some h
  obtain rfl : v = w := Option.some.inj (hfront.symm.trans hw)
  exact ⟨hopens hv, rfl⟩

theorem takes_eq_some {m : String} {f g : Feed} {a : Bool} (h : (takes m).step f = some (a, g)) :
    (a = true ∧ ∃ w, f.Opens w g ∧ w.lexeme = .mark m) ∨ (a = false ∧ g = f) := by
  obtain ⟨isFront, f', hsees, h⟩ := bind_eq_some.mp h
  obtain ⟨hfront, rfl⟩ := Prod.mk.inj (Option.some.inj hsees)
  dsimp only at hfront
  cases isFront with
  | false =>
    cases h
    exact .inr ⟨rfl, rfl⟩
  | true =>
    obtain ⟨w, g', hnext, h⟩ := bind_eq_some.mp h
    cases h
    obtain ⟨hw, hopens⟩ := next_eq_some hnext
    obtain ⟨rest, hrest⟩ := List.head?_eq_some_iff.mp hw
    have hl : w.lexeme = .mark m := by
      rw [hrest] at hfront
      exact (List.cons.inj (eq_of_beq hfront)).1.symm
    exact .inl ⟨rfl, w, hopens (by rw [hl]; rfl), hl⟩

theorem mark_eq_some {m : String} {f g : Feed} {a : Unit} (h : (mark m).step f = some (a, g)) :
    ∃ w, f.Opens w g ∧ w.lexeme = .mark m := by
  obtain ⟨isTaken, f', htakes, h⟩ := bind_eq_some.mp h
  obtain ⟨rfl, w, hw, hl⟩ | ⟨rfl, -⟩ := takes_eq_some htakes
  · cases h
    exact ⟨w, hw, hl⟩
  · cases h

theorem oneOf_eq_some {α : Type} {table : List (String × α)} {f g : Feed} {a : Option α}
    (h : (Inner.oneOf table).step f = some (a, g)) :
    (∃ w, f.Opens w g) ∨ (a = none ∧ g = f) := by
  obtain ⟨l, f', hpeek, h⟩ := bind_eq_some.mp h
  have hf' : f' = f := (Prod.mk.inj (Option.some.inj hpeek)).2.symm
  match l with
  | some (.mark m) =>
    dsimp only at h
    split at h
    · obtain ⟨w, g', hnext, h⟩ := bind_eq_some.mp h
      cases h
      exact .inl ⟨w, (opens_of_peek? hpeek rfl hnext).1⟩
    · cases h
      exact .inr ⟨rfl, hf'⟩
  | none | some (.name _) | some (.number _) | some (.string _) | some .newline | some .indent
  | some .dedent =>
    cases h
    exact .inr ⟨rfl, hf'⟩

/-! ## One step after the other -/

/-- Steps that gave some values, one after the other. -/
inductive Chain {α : Type} (step : Read (Option α)) : Feed → List α → Feed → Prop
  | nil {f g : Feed} (h : f.Leads g) : Chain step f [] g
  | cons {f g h : Feed} {a : α} {as : List α} (ha : step.step f = some (some a, g))
    (hs : Chain step g as h) : Chain step f (a :: as) h

theorem iterateUpTo_eq_some {α : Type} {step : Read (Option α)} (n : Nat) (done : List α)
    {all : List α} {f g : Feed}
    (h : (iterateUpTo (fun done => do return (← step).map (· :: done)) n done).step f =
      some (all, g)) : ∃ as, all = as.reverse ++ done ∧ Chain step f as g := by
  induction n generalizing done f with
  | zero =>
    cases h
    exact ⟨[], rfl, .nil (.refl _)⟩
  | succ n ih =>
    obtain ⟨o, f', ho, h⟩ := bind_eq_some.mp h
    obtain ⟨o', f'', hstep, ho⟩ := bind_eq_some.mp ho
    cases ho
    cases o' with
    | none =>
      cases h
      exact ⟨[], rfl, .nil (step.leads hstep)⟩
    | some a =>
      obtain ⟨as, rfl, hs⟩ := ih _ h
      exact ⟨a :: as, by simp, .cons hstep hs⟩

theorem many_eq_some {α : Type} {step : Read (Option α)} {as : List α} {f g : Feed}
    (h : (many step).step f = some (as, g)) : Chain step f as g := by
  obtain ⟨reversed, g', hrev, h⟩ := bind_eq_some.mp h
  cases h
  obtain ⟨as, rfl, hs⟩ := iterateUpTo_eq_some (f.rest.length + 1) [] hrev
  simpa using hs

theorem Chain.leads {α : Type} {step : Read (Option α)} {as : List α} {f g : Feed}
    (h : Chain step f as g) : f.Leads g := by
  induction h with
  | nil h => exact h
  | cons ha _ ih => exact (step.leads ha).trans ih

/-- Where the first step gives something, the others go on behind it. -/
theorem leads_of_many {α : Type} {step : Read (Option α)} {a : α} {as : List α} {f f' g : Feed}
    (ha : step.step f = some (some a, f')) (h : (many step).step f = some (as, g)) :
    f'.Leads g := by
  obtain ⟨reversed, g', hrev, h⟩ := bind_eq_some.mp h
  cases h
  have hrun : (iterateUpTo (fun done => do return (← step).map (· :: done)) (f.rest.length + 1)
      []).step f = some (reversed, g) := hrev
  obtain ⟨o, f₁, ho, hlater⟩ := bind_eq_some.mp hrun
  obtain ⟨o', f₂, hstep, ho⟩ := bind_eq_some.mp ho
  cases ho
  rw [ha] at hstep
  cases hstep
  exact (iterateUpTo _ _ _).leads hlater

/-! ## Expressions begin with a visible word -/

/-- A step that takes a word first, and a visible one. -/
def Opening {α : Type} (p : Read α) : Prop := ∀ f a g, p.step f = some (a, g) → ∃ w, f.Opens w g

section

variable {α β : Type}

theorem Opening.bind {p : Read α} {k : α → Read β} (hp : p.Opening) : (p >>= k).Opening := by
  intro f b g h
  obtain ⟨a, f', ha, hk⟩ := bind_eq_some.mp h
  obtain ⟨w, hw⟩ := hp f a f' ha
  exact ⟨w, hw.trans ((k a).leads hk)⟩

theorem opening_failure : (failure : Read α).Opening := fun _ _ _ h => by cases h

/-- A mark that is taken opens, and where it is not taken what follows does. -/
theorem opening_takes {m : String} {k : Bool → Read α} (hk : (k false).Opening) :
    (takes m >>= k).Opening := by
  intro f b g h
  obtain ⟨a, f', ha, hlater⟩ := bind_eq_some.mp h
  obtain ⟨rfl, w, hw, -⟩ | ⟨rfl, rfl⟩ := takes_eq_some ha
  · exact ⟨w, hw.trans ((k true).leads hlater)⟩
  · exact hk _ _ _ hlater

theorem opening_oneOf {γ : Type} {table : List (String × γ)} {k : Option γ → Read α}
    (hk : (k none).Opening) : (Inner.oneOf table >>= k).Opening := by
  intro f b g h
  obtain ⟨a, f', ha, hlater⟩ := bind_eq_some.mp h
  obtain ⟨w, hw⟩ | ⟨rfl, rfl⟩ := oneOf_eq_some ha
  · exact ⟨w, hw.trans ((k a).leads hlater)⟩
  · exact hk _ _ _ hlater

theorem Opening.counted {p : Nat → Read α} (h : ∀ n, (p n).Opening) : (counted p).Opening :=
  fun f a g hp => h _ f a g hp

theorem Opening.commaList {item : Read α} (h : item.Opening) : (commaList item).Opening := h.bind

end

end Read

namespace Inner

open Read

variable (inner : Inner)

/-- A string in front is taken. -/
theorem string?_of_peek? {f f' : Feed} {t : Text}
    (h : peek?.step f = some (some (.string t), f')) :
    ∃ w g, f.Opens w g ∧ string?.step f = some (some t, g) := by
  obtain ⟨rfl, w, hw, hl⟩ := head?_of_peek? h
  obtain ⟨rest, hrest⟩ := List.head?_eq_some_iff.mp hw
  have hnext : next.step f' = some (w, ⟨rest, w.lastLine⟩) := by
    rw [next]
    dsimp only
    rw [hrest]
    simp [hl, Lexeme.isVisible]
  refine ⟨w, _, (opens_of_peek? h rfl hnext).1, ?_⟩
  exact bind_eq_some.mpr ⟨_, _, h, bind_eq_some.mpr ⟨_, _, hnext, rfl⟩⟩

theorem opening_atom : inner.atom.Opening := by
  intro f e g h
  obtain ⟨l, f', hpeek, h⟩ := bind_eq_some.mp h
  split at h
  · obtain ⟨w, f'', hnext, h⟩ := bind_eq_some.mp h
    cases h
    exact ⟨w, (opens_of_peek? hpeek rfl hnext).1⟩
  · obtain ⟨w, f'', hnext, h⟩ := bind_eq_some.mp h
    exact ⟨w, (opens_of_peek? hpeek rfl hnext).1.trans (Read.leads _ h)⟩
  · rename_i t
    obtain ⟨texts, f'', htexts, h⟩ := bind_eq_some.mp h
    have hf' : f' = f := (head?_of_peek? hpeek).1
    obtain ⟨w, f₁, hopens, hstring⟩ := string?_of_peek? hpeek
    rw [hf'] at htexts
    exact ⟨w, hopens.trans ((leads_of_many hstring htexts).trans (Read.leads _ h))⟩
  · obtain ⟨w, f'', hnext, h⟩ := bind_eq_some.mp h
    exact ⟨w, (opens_of_peek? hpeek rfl hnext).1.trans (Read.leads _ h)⟩
  · cases h

theorem opening_primaryOf : inner.primaryOf.Opening := (opening_atom inner).bind

theorem opening_awaited : inner.awaited.Opening := opening_takes (opening_primaryOf inner)

theorem opening_factor : inner.factor.Opening := by
  refine Opening.counted fun n => ?_
  cases n with
  | zero => exact opening_failure
  | succ n => exact opening_oneOf (opening_awaited inner).bind

theorem opening_operandOf : inner.operandOf.Opening := by
  have hlevel : ∀ (ops : List (String × BinaryOp)) {operand : Read Expr}, operand.Opening →
      (leftLevel ops operand).Opening := fun _ _ h => h.bind
  have hfold : ∀ (levels : List (List (String × BinaryOp))) {operand : Read Expr},
      operand.Opening →
      (levels.foldl (fun operand ops => leftLevel ops operand) operand).Opening := by
    intro levels
    induction levels with
    | nil => exact fun h => h
    | cons ops levels ih => exact fun h => ih (hlevel ops h)
  exact hfold leftLevels (opening_factor inner)

theorem opening_comparison : inner.comparison.Opening := (opening_operandOf inner).bind

theorem opening_negation : inner.negation.Opening := by
  refine Opening.counted fun n => ?_
  cases n with
  | zero => exact opening_failure
  | succ n => exact opening_takes (opening_comparison inner)

theorem opening_joined (keyword : String) (make : List Expr → Expr) {operand : Read Expr}
    (h : operand.Opening) : (joined keyword make operand).Opening := h.bind

theorem opening_disjunctionOf : inner.disjunctionOf.Opening :=
  opening_joined _ _ (opening_joined _ _ (opening_negation inner))

theorem opening_expressionOf : inner.expressionOf.Opening :=
  opening_takes (opening_disjunctionOf inner).bind

/-- The expressions of every depth begin with a visible word. -/
theorem opening_upTo (n : Nat) : (upTo n).expression.Opening := by
  cases n with
  | zero => exact opening_failure
  | succ n => exact opening_expressionOf (upTo n)

theorem opening_starExpressions {inner : Inner} (h : inner.expression.Opening) :
    inner.starExpressions.Opening := by
  have hitem : (inner.starItem inner.expression).Opening := opening_takes h
  exact hitem.commaList.bind

end Inner

end Outline.Source
