import Outline.Proofs.Source.Reading
import Outline.Source.BlockReader

/-!
# How statements are read

`Block.Spans` says how a block comes about between two feeds, one constructor for each statement
that an outline tells apart: where its first word stands, which word that is, and that it ends with
the last word taken. Every step that gives a block gives one that spans what it took (`reads_upTo`),
so a whole module does (`spans_read`); what is proved of the statements of a module is proved by
induction on `Block.Spans`.
-/
namespace Outline.Source

namespace Block

/-- A block is what the words between two feeds say. -/
inductive Spans : Block → Feed → Feed → Prop
  | skip {f g : Feed} (h : f.Leads g) : Spans nil f g
  | classDef {name : Text} {bases : List Expr} {body : Block} {f f' g : Feed} {w : Word}
    (hw : f.Opens w f') (hkey : w.lexeme = .mark "class") (hb : Spans body f' g) :
    Spans (classDef name bases ⟨w.line, w.column, g.last⟩ body nil) f g
  | functionDef {name : Text} {params : List Parameter} {body : Block} {f f' g : Feed} {w : Word}
    (hw : f.Opens w f') (hkey : w.lexeme = .mark "async" ∨ w.lexeme = .mark "def")
    (hb : Spans body f' g) :
    Spans (functionDef name params ⟨w.line, w.column, g.last⟩ body nil) f g
  | assignment {targets : List Expr} {f g : Feed} {w : Word} (hw : f.Opens w g) :
    Spans (assignment targets ⟨w.line, w.column, g.last⟩ nil) f g
  | other {f g : Feed} {w : Word} (hw : f.rest.head? = some w) (h : f.Leads g) :
    Spans (other ⟨w.line, w.column, g.last⟩ nil) f g
  | append {a b : Block} {f g h : Feed} (ha : Spans a f g) (hb : Spans b g h) :
    Spans (a.append b) f h

theorem append_nil (b : Block) : b.append nil = b := by
  induction b with
  | nil => rfl
  | classDef name bases x body rest _ ih => exact congrArg (classDef name bases x body) ih
  | functionDef name params x body rest _ ih => exact congrArg (functionDef name params x body) ih
  | assignment targets x rest ih => exact congrArg (assignment targets x) ih
  | other x rest ih => exact congrArg (other x) ih

namespace Spans

variable {b : Block} {f g h : Feed}

theorem behind (hfg : f.Leads g) (hb : b.Spans g h) : b.Spans f h := (skip hfg).append hb

theorem before (hb : b.Spans f g) (hgh : g.Leads h) : b.Spans f h := by
  have hboth := hb.append (skip hgh)
  rw [append_nil] at hboth
  exact hboth

theorem leads (hb : b.Spans f g) : f.Leads g := by
  induction hb with
  | skip h => exact h
  | classDef hw _ _ ih => exact hw.toLeads.trans ih
  | functionDef hw _ _ ih => exact hw.toLeads.trans ih
  | assignment hw => exact hw.toLeads
  | other _ h => exact h
  | append _ _ iha ihb => exact iha.trans ihb

end Spans

end Block

namespace Read

/-- A step whose block spans what it took. -/
def Reads (p : Read Block) : Prop := ∀ f g b, p.step f = some (b, g) → b.Spans f g

/-- A step whose block, if it gives one, spans what it took. -/
def ReadsEach (p : Read (Option Block)) : Prop :=
  ∀ f g b, p.step f = some (some b, g) → b.Spans f g

/-- A step whose block spans what it took if the given word was in front. -/
def ReadsAt (w : Word) (p : Read Block) : Prop :=
  ∀ f g b, f.rest.head? = some w → p.step f = some (b, g) → b.Spans f g

/-- A step that goes on with a statement, or the first of several, which the given word began. -/
def GoesOn (w : Word) (p : Read Block) : Prop :=
  ∀ f f' g b, f.rest.head? = some w → f.Leads f' → p.step f' = some (b, g) → b.Spans f g

/-- A step that ends a statement, which an outline leaves out, at the last word taken. -/
def Leaves (start : Nat × Nat) (p : Read Block) : Prop :=
  ∀ f g b, p.step f = some (b, g) → b = .other ⟨start.1, start.2, g.last⟩ .nil

section

variable {α : Type} {p : Read α} {w : Word}

theorem Reads.bind {k : α → Read Block} (h : ∀ a, (k a).Reads) : (p >>= k).Reads := by
  intro f g b hb
  obtain ⟨a, f', hp, hk⟩ := bind_eq_some.mp hb
  exact .behind (p.leads hp) (h a f' g b hk)

theorem ReadsEach.bind {k : α → Read (Option Block)} (h : ∀ a, (k a).ReadsEach) :
    (p >>= k).ReadsEach := by
  intro f g b hb
  obtain ⟨a, f', hp, hk⟩ := bind_eq_some.mp hb
  exact .behind (p.leads hp) (h a f' g b hk)

theorem readsEach_none : (pure none : Read (Option Block)).ReadsEach := by
  intro f g b h
  cases h

theorem Reads.some {q : Read Block} (h : q.Reads) : (do return some (← q)).ReadsEach := by
  intro f g b hb
  obtain ⟨a, f', hq, hb⟩ := bind_eq_some.mp hb
  cases hb
  exact h _ _ _ hq

theorem Reads.at {q : Read Block} (h : q.Reads) : q.ReadsAt w := fun f g b _ hq => h f g b hq

theorem ReadsAt.look {view : Feed → α} {k : α → Read Block} (h : ∀ a, (k a).ReadsAt w) :
    (look view >>= k).ReadsAt w := by
  intro f g b hw hb
  obtain ⟨a, f', hlook, hk⟩ := bind_eq_some.mp hb
  cases hlook
  exact h _ _ g b hw hk

theorem ReadsAt.takes {m : String} {k : Bool → Read Block} (h : (k false).ReadsAt w)
    (ht : ∀ f f' g b, f.Opens w f' → w.lexeme = .mark m → (k true).step f' = some (b, g) →
      b.Spans f g) : (takes m >>= k).ReadsAt w := by
  intro f g b hw hb
  obtain ⟨a, f', htakes, hk⟩ := bind_eq_some.mp hb
  obtain ⟨rfl, v, hopens, hl⟩ | ⟨rfl, rfl⟩ := takes_eq_some htakes
  · obtain rfl : w = v := Option.some.inj (hw.symm.trans hopens.front)
    exact ht f f' g b hopens hl hk
  · exact h _ g b hw hk

theorem Leaves.bind {start : Nat × Nat} {k : α → Read Block} (h : ∀ a, (k a).Leaves start) :
    (p >>= k).Leaves start := by
  intro f g b hb
  obtain ⟨a, f', -, hk⟩ := bind_eq_some.mp hb
  exact h a f' g b hk

theorem GoesOn.bind {k : α → Read Block} (h : ∀ a, (k a).GoesOn w) : (p >>= k).GoesOn w := by
  intro f f' g b hw hleads hb
  obtain ⟨a, f'', hp, hk⟩ := bind_eq_some.mp hb
  exact h a f f'' g b hw (hleads.trans (p.leads hp)) hk

theorem GoesOn.at {q : Read Block} (h : q.GoesOn w) : q.ReadsAt w := fun f g b hw hq =>
  h f f g b hw (.refl f) hq

theorem Reads.goesOn {q : Read Block} (h : q.Reads) : q.GoesOn w := fun _ f' g b _ hleads hq =>
  .behind hleads (h f' g b hq)

theorem Leaves.goesOn {q : Read Block} (h : q.Leaves (w.line, w.column)) : q.GoesOn w := by
  intro f f' g b hw hleads hq
  rw [h f' g b hq]
  exact .other hw (hleads.trans (q.leads hq))

end

/-! ## One block after the other -/

theorem Chain.spans {step : Read (Option Block)} (hstep : step.ReadsEach) {bs : List Block}
    {f g : Feed} (h : Chain step f bs g) : (Block.flatten bs).Spans f g := by
  induction h with
  | nil h => exact .skip h
  | cons ha _ ih => exact .append (hstep _ _ _ ha) ih

/-- A block and what follows it. -/
theorem reads_sequence {first : Read Block} (hfirst : first.Reads) {more : Read (Option Block)}
    (hmore : more.ReadsEach) (close : Read Unit) :
    (do
      let a ← first
      let rest ← many more
      close
      return .flatten (a :: rest) : Read Block).Reads := by
  intro f g b h
  obtain ⟨a, f', ha, h⟩ := bind_eq_some.mp h
  obtain ⟨rest, f'', hrest, h⟩ := bind_eq_some.mp h
  obtain ⟨⟨⟩, g, hclose, h⟩ := bind_eq_some.mp h
  cases h
  have hrest := (many_eq_some hrest).spans hmore
  exact ((hfirst f f' a ha).append hrest).before (close.leads hclose)

end Read

namespace Statement

open Read

/-! ## Statements -/

/-- A statement that begins at the word in front. -/
theorem reads_here {k : Nat × Nat → Read Block} (h : ∀ w : Word, (k (w.line, w.column)).ReadsAt w) :
    (here >>= k).Reads := by
  intro f g b hb
  obtain ⟨start, f', hhere, hk⟩ := bind_eq_some.mp hb
  obtain ⟨w?, f'', hlook, hhere⟩ := bind_eq_some.mp hhere
  cases hlook
  dsimp only at hhere
  cases hw : f.rest.head? with
  | none =>
    rw [hw] at hhere
    cases hhere
  | some w =>
    rw [hw] at hhere
    cases hhere
    exact h w f g b hw hk

theorem leaves_other (start : Nat × Nat) :
    (do return .other (← extentFrom start) .nil : Read Block).Leaves start := by
  intro f g b h
  cases h
  rfl

/-- The end of a statement that holds a block. -/
theorem suite_eq_some {start : Nat × Nat} {suite : Read Block} (hs : suite.Reads)
    (make : Extent → Block → Block) {f g : Feed} {b : Block}
    (h : (do
      let body ← suite
      return make (← extentFrom start) body : Read Block).step f = some (b, g)) :
    ∃ body, body.Spans f g ∧ b = make ⟨start.1, start.2, g.last⟩ body := by
  obtain ⟨body, f', hbody, h⟩ := bind_eq_some.mp h
  cases h
  exact ⟨body, hs f _ body hbody, rfl⟩

section

variable {inner : Inner}

/-- A statement that begins with an expression is an assignment or is left out. -/
theorem ofExpression_eq_some {start : Nat × Nat} {f g : Feed} {b : Block}
    (h : (ofExpression inner start).step f = some (b, g)) :
    b = .other ⟨start.1, start.2, g.last⟩ .nil ∨
      ∃ targets, b = .assignment targets ⟨start.1, start.2, g.last⟩ .nil := by
  unfold ofExpression at h
  obtain ⟨e, f', -, h⟩ := bind_eq_some.mp h
  obtain ⟨isAssigned, f', -, h⟩ := bind_eq_some.mp h
  split at h
  · obtain ⟨targets, f', -, h⟩ := bind_eq_some.mp h
    cases h
    exact .inr ⟨targets, rfl⟩
  · obtain ⟨isAnnotated, f', -, h⟩ := bind_eq_some.mp h
    split at h
    · dsimp only at h
      split at h
      · cases h
      · obtain ⟨_, f', -, h⟩ := bind_eq_some.mp h
        obtain ⟨isGiven, f', -, h⟩ := bind_eq_some.mp h
        split at h
        · obtain ⟨_, f', -, h⟩ := bind_eq_some.mp h
          cases h
          exact .inr ⟨[e], rfl⟩
        · cases h
          exact .inr ⟨[e], rfl⟩
    · obtain ⟨isChanged, f', -, h⟩ := bind_eq_some.mp h
      split at h
      · dsimp only at h
        split at h
        · cases h
        · obtain ⟨_, f', -, h⟩ := bind_eq_some.mp h
          obtain ⟨_, f', -, h⟩ := bind_eq_some.mp h
          cases h
          exact .inl rfl
      · cases h
        exact .inl rfl

theorem readsAt_ofExpression (hi : inner.expression.Opening) (w : Word) :
    (ofExpression inner (w.line, w.column)).ReadsAt w := by
  intro f g b hw h
  obtain ⟨v, hopens⟩ : ∃ v, f.Opens v g := (Inner.opening_starExpressions hi).bind f b g h
  obtain rfl : w = v := Option.some.inj (hw.symm.trans hopens.front)
  obtain rfl | ⟨targets, rfl⟩ := ofExpression_eq_some h
  · exact .other hw hopens.toLeads
  · exact .assignment hopens

theorem functionRest_eq_some {suite : Read Block} (hs : suite.Reads) {start : Nat × Nat}
    {f g : Feed} {b : Block} (h : (functionRest inner suite start).step f = some (b, g)) :
    ∃ name params body, body.Spans f g ∧
      b = .functionDef name params ⟨start.1, start.2, g.last⟩ body .nil := by
  unfold functionRest at h
  obtain ⟨name, f₁, hname, h⟩ := bind_eq_some.mp h
  obtain ⟨_, f₂, hopen, h⟩ := bind_eq_some.mp h
  obtain ⟨params, f₃, hparams, h⟩ := bind_eq_some.mp h
  obtain ⟨_, f₄, hclose, h⟩ := bind_eq_some.mp h
  obtain ⟨hasResult, f₅, harrow, h⟩ := bind_eq_some.mp h
  have hleads : f.Leads f₅ :=
    ((((Read.leads _ hname).trans (Read.leads _ hopen)).trans (Read.leads _ hparams)).trans
      (Read.leads _ hclose)).trans (Read.leads _ harrow)
  dsimp only at h
  split at h
  · obtain ⟨_, f₆, hresult, h⟩ := bind_eq_some.mp h
    obtain ⟨body, hbody, rfl⟩ := suite_eq_some hs
      (fun x body => .functionDef name params x body .nil) h
    exact ⟨name, params, body, .behind (hleads.trans (Read.leads _ hresult)) hbody, rfl⟩
  · obtain ⟨body, hbody, rfl⟩ := suite_eq_some hs
      (fun x body => .functionDef name params x body .nil) h
    exact ⟨name, params, body, .behind hleads hbody, rfl⟩

theorem classRest_eq_some {suite : Read Block} (hs : suite.Reads) {start : Nat × Nat}
    {f g : Feed} {b : Block} (h : (classRest inner suite start).step f = some (b, g)) :
    ∃ name bases body, body.Spans f g ∧
      b = .classDef name bases ⟨start.1, start.2, g.last⟩ body .nil := by
  unfold classRest at h
  obtain ⟨name, f₁, hname, h⟩ := bind_eq_some.mp h
  obtain ⟨hasArguments, f₂, hopen, h⟩ := bind_eq_some.mp h
  have hleads : f.Leads f₂ := (Read.leads _ hname).trans (Read.leads _ hopen)
  have hend : ∀ {arguments : List Expr} {f₃ : Feed}, f₂.Leads f₃ → (do
      let body ← suite
      return .classDef name (arguments.filter isBase) (← extentFrom start) body .nil
        : Read Block).step f₃ = some (b, g) → ∃ name bases body, body.Spans f g ∧
          b = .classDef name bases ⟨start.1, start.2, g.last⟩ body .nil := by
    intro arguments f₃ harguments h
    obtain ⟨body, hbody, rfl⟩ := suite_eq_some hs
      (fun x body => .classDef name (arguments.filter isBase) x body .nil) h
    exact ⟨name, arguments.filter isBase, body, .behind (hleads.trans harguments) hbody, rfl⟩
  dsimp only at h
  split at h
  · obtain ⟨arguments, f₃, harguments, h⟩ := bind_eq_some.mp h
    exact hend (Read.leads _ harguments) h
  · obtain ⟨arguments, f₃, harguments, h⟩ := bind_eq_some.mp h
    exact hend (Read.leads _ harguments) h

theorem reads_definition {suite : Read Block} (hs : suite.Reads) :
    (definition inner suite).Reads := by
  unfold definition
  refine .bind fun _ => reads_here fun w => .takes ?_ ?_
  · intro f g b hw h
    obtain ⟨isAsync, f₁, hasync, h⟩ := bind_eq_some.mp h
    obtain ⟨_, f₂, hdef, h⟩ := bind_eq_some.mp h
    obtain ⟨name, params, body, hbody, rfl⟩ := functionRest_eq_some hs h
    obtain ⟨v', hopens', hl'⟩ := mark_eq_some hdef
    obtain ⟨rfl, v, hopens, hl⟩ | ⟨rfl, rfl⟩ := takes_eq_some hasync
    · obtain rfl : w = v := Option.some.inj (hw.symm.trans hopens.front)
      exact .functionDef (hopens.trans hopens'.toLeads) (.inl hl) hbody
    · obtain rfl : w = v' := Option.some.inj (hw.symm.trans hopens'.front)
      exact .functionDef hopens' (.inr hl') hbody
  · intro f f' g b hopens hl h
    obtain ⟨name, bases, body, hbody, rfl⟩ := classRest_eq_some hs h
    exact .classDef hopens hl hbody

theorem reads_simple (hi : inner.expression.Opening) : (simple inner).Reads := by
  unfold simple
  refine reads_here fun w => .look fun isYield => ?_
  have hother : ∀ {α : Type} (p : Read α), (do
      let _ ← p
      return .other (← extentFrom (w.line, w.column)) .nil : Read Block).Leaves
        (w.line, w.column) := fun _ => .bind fun _ => leaves_other _
  split
  · exact (hother _).goesOn.at
  · refine .look fun front => ?_
    split
    · split
      · exact (Leaves.bind fun _ => hother _).goesOn.at
      · exact readsAt_ofExpression hi w
    · exact readsAt_ofExpression hi w

theorem reads_simpleLine (hi : inner.expression.Opening) : (simpleLine inner).Reads := by
  refine reads_sequence (reads_simple hi) ?_ (lexeme .newline)
  refine .bind fun isMore => ?_
  split
  · refine .bind fun front => ?_
    split
    · exact readsEach_none
    · exact (reads_simple hi).some
  · exact readsEach_none

theorem reads_suite (hi : inner.expression.Opening) {statement : Read Block}
    (hs : statement.Reads) : (suite inner statement).Reads := by
  unfold suite
  refine .bind fun _ => .bind fun front => ?_
  split
  · refine .bind fun _ => .bind fun _ => reads_sequence hs ?_ (lexeme .dedent)
    refine .bind fun front => ?_
    split
    · exact readsEach_none
    · exact hs.some
  · exact reads_simpleLine hi

theorem reads_statement (hi : inner.expression.Opening) {suite : Read Block} (hs : suite.Reads) :
    (statement inner suite).Reads := by
  unfold statement
  refine reads_here fun w => GoesOn.at (.bind fun front => ?_)
  have hother := leaves_other (w.line, w.column)
  split
  · split
    · exact (reads_definition hs).goesOn
    · refine .bind fun isAsyncDef => ?_
      split
      · exact (reads_definition hs).goesOn
      · refine .bind fun isAsync => ?_
        split
        · refine .bind fun isFor => ?_
          dsimp only
          split
          · exact .bind fun _ => hother.goesOn
          · exact .bind fun _ => .bind fun _ => hother.goesOn
        · split
          · exact .bind fun _ => .bind fun _ => hother.goesOn
          · exact (reads_simpleLine hi).goesOn
  · refine .bind fun matched => ?_
    split
    · exact hother.goesOn
    · exact (reads_simpleLine hi).goesOn
  · exact (reads_simpleLine hi).goesOn

/-- Statements are read so, however deep their blocks are. -/
theorem reads_upTo (hi : inner.expression.Opening) (n : Nat) : (upTo inner n).Reads := by
  induction n with
  | zero => exact fun _ _ _ h => by cases h
  | succ n ih => exact reads_statement hi (reads_suite hi ih)

theorem reads_all {statement : Read Block} (hs : statement.Reads) : (all statement).Reads := by
  intro f g b h
  obtain ⟨blocks, f', hblocks, h⟩ := bind_eq_some.mp h
  cases h
  refine (many_eq_some hblocks).spans (.bind fun front => ?_)
  split
  · exact readsEach_none
  · exact hs.some

end

end Statement

/-- A module that can be read spans all its words. -/
theorem spans_read {t : Text} {b : Block} (h : Block.read t = .ok b) :
    ∃ words last, lex t = some words ∧ b.Spans ⟨words, 0⟩ ⟨[], last⟩ := by
  unfold Block.read at h
  split at h
  · cases h
  · dsimp only at h
    split at h
    · rename_i b' last hread
      cases h
      obtain ⟨words, hlex, hread⟩ := Option.bind_eq_some_iff.mp hread
      have hall := Statement.reads_all
        (Statement.reads_upTo (Inner.opening_upTo (t.length + 1)) (t.length + 1))
      exact ⟨words, last, hlex, hall _ _ _ hread⟩
    · cases h

end Outline.Source
