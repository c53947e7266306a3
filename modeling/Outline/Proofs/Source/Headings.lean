import Outline.Proofs.Source.Nesting
import Outline.Proofs.Source.Symbols
import Outline.Proofs.Symbol.Forest

/-!
# What the statements of symbols begin with

Every symbol stands for a statement of the module that declares its name: a class or function, which
its keyword begins, or an assignment (`exists_declaration`). The statement starts where its first
word does, and ends no earlier than that word (`exists_word_of_read`).
-/
namespace Outline.Source

/-- What a statement begins with that is shown. -/
inductive Heading
  | classKeyword
  | functionKeyword
  | expression
  deriving DecidableEq, Repr

/-- Whether a statement may begin with the word. -/
def Heading.Fits : Heading → Lexeme → Prop
  | classKeyword, l => l = .mark "class"
  | functionKeyword, l => l = .mark "async" ∨ l = .mark "def"
  | expression, l => l.isVisible = true

/-- What the statements of symbols of a kind begin with. -/
def kindHeading : Kind → Heading
  | .class | .enum => .classKeyword
  | .function | .method | .constructor => .functionKeyword
  | _ => .expression

/-- A statement that is shown: what it begins with, the names that it declares, and its place. -/
structure Declaration where
  heading : Heading
  names : List Text
  extent : Extent

/-- The classes, functions and assignments on all levels of a block. -/
def Block.declarations : Block → List Declaration
  | nil => []
  | classDef name _ x body rest =>
    ⟨.classKeyword, [name], x⟩ :: (body.declarations ++ rest.declarations)
  | functionDef name _ x body rest =>
    ⟨.functionKeyword, [name], x⟩ :: (body.declarations ++ rest.declarations)
  | assignment targets x rest =>
    ⟨.expression, targets.flatMap Expr.assignedNames, x⟩ :: rest.declarations
  | other _ rest => rest.declarations

/-- A symbol shows a declaration: its name is declared, as its kind says, in its range. -/
structure Declaration.Shows (p : Declaration) (d : Document) (s : Symbol) : Prop where
  heading : p.heading = kindHeading s.kind
  name : s.name ∈ p.names
  range : p.extent.range d = .ok s.range

/-! ## Statements and words -/

/-- A statement starts with a word, and ends no earlier than it. -/
structure Extent.BeginsWith (x : Extent) (w : Word) : Prop where
  visible : w.lexeme.isVisible = true
  line : x.line = w.line
  column : x.column = w.column
  lastLine : w.lastLine ≤ x.lastLine

namespace Block

theorem declarations_append (a b : Block) :
    (a.append b).declarations = a.declarations ++ b.declarations := by
  induction a with
  | nil => rfl
  | classDef | functionDef | assignment | other => simp_all [append, declarations]

end Block

/-- A declaration begins with a word that is still to come. -/
def Feed.Heads (f : Feed) (p : Declaration) : Prop :=
  ∃ w ∈ f.rest, p.heading.Fits w.lexeme ∧ p.extent.BeginsWith w

theorem Feed.Heads.widen {f g : Feed} {p : Declaration} (h : g.Heads p) (hfg : f.Leads g) :
    f.Heads p := by
  obtain ⟨w, hw, hfits⟩ := h
  exact ⟨w, hfg.suffix.mem hw, hfits⟩

/-- The first word of a statement was taken, and so ends no later than the last one taken. -/
theorem Feed.Opens.heads {f g h : Feed} {w : Word} (hw : f.Opens w g) (hgh : g.Leads h)
    (hf : f.Sound) (heading : Heading) (hfits : heading.Fits w.lexeme) (names : List Text) :
    f.Heads ⟨heading, names, ⟨w.line, w.column, h.last⟩⟩ := by
  obtain ⟨rest, hrest⟩ := List.head?_eq_some_iff.mp hw.front
  have hafter : Feed.Sound ⟨f.rest.tail, w.lastLine⟩ := by
    have hpair := hf.inOrder
    rw [hrest] at hpair ⊢
    obtain ⟨hfirst, hlater⟩ := List.pairwise_cons.mp hpair
    exact ⟨hlater, fun v hv => (hfirst v hv).lastLine⟩
  have hlast := ((hw.leads.trans hgh).sound hafter).2
  exact ⟨w, List.mem_of_head? hw.front, hfits, hw.visible, rfl, rfl, hlast⟩

theorem Block.Spans.heads {b : Block} {f g : Feed} (h : b.Spans f g) (hf : f.Sound) :
    ∀ p ∈ b.declarations, f.Heads p := by
  induction h with
  | skip => exact nofun
  | classDef hw hkey hb ih =>
    rw [Block.declarations, Block.declarations, List.append_nil]
    refine List.forall_mem_cons.mpr ⟨hw.heads hb.leads hf .classKeyword hkey _, fun p hp => ?_⟩
    exact (ih (hw.toLeads.sound hf).1 p hp).widen hw.toLeads
  | functionDef hw hkey hb ih =>
    rw [Block.declarations, Block.declarations, List.append_nil]
    refine List.forall_mem_cons.mpr ⟨hw.heads hb.leads hf .functionKeyword hkey _, fun p hp => ?_⟩
    exact (ih (hw.toLeads.sound hf).1 p hp).widen hw.toLeads
  | assignment hw =>
    exact List.forall_mem_singleton.mpr (hw.heads (.refl _) hf .expression hw.visible _)
  | other => exact nofun
  | append ha hb iha ihb =>
    rw [declarations_append]
    refine List.forall_mem_append.mpr ⟨iha hf, fun p hp => ?_⟩
    exact (ihb (ha.leads.sound hf).1 p hp).widen ha.leads

/-- Every statement that is shown starts with a word of its module. -/
theorem exists_word_of_read {t : Text} {b : Block} (h : Block.read t = .ok b) :
    ∃ words, lex t = some words ∧
      ∀ p ∈ b.declarations, ∃ w ∈ words, p.heading.Fits w.lexeme ∧ p.extent.BeginsWith w := by
  obtain ⟨words, last, hlex, hspans⟩ := spans_read h
  exact ⟨words, hlex, hspans.heads (sound_lex hlex)⟩

/-! ## Statements and symbols -/

theorem preorder_ofList_append {own : List (Symbol × SymbolForest)} (hown : ∀ p ∈ own, p.2 = .nil)
    (F : SymbolForest) :
    (SymbolForest.ofList own ++ F).preorder = own.map (·.1) ++ F.preorder := by
  induction own with
  | nil => rfl
  | cons p own ih =>
    obtain ⟨s, cs⟩ := p
    obtain ⟨hp, hlater⟩ := List.forall_mem_cons.mp hown
    obtain rfl : cs = .nil := hp
    exact congrArg (s :: ·) (ih hlater)

theorem kindHeading_classKind (bases : List Expr) :
    kindHeading (classKind bases) = .classKeyword := by
  unfold classKind
  split <;> rfl

theorem kindHeading_functionKind (c : Container) (name : Text) :
    kindHeading (c.functionKind name) = .functionKeyword := by
  unfold Container.functionKind
  split
  · split <;> rfl
  · split <;> rfl
  · rfl

theorem kindHeading_assignmentKind (c : Container) (name : Text) :
    kindHeading (c.assignmentKind name) = .expression := by
  unfold Container.assignmentKind
  split
  · rfl
  · rfl
  · split <;> rfl

theorem mem_assignedNames {c : Container} {targets : List Expr} {name : Text}
    (h : name ∈ c.shownNames targets) : name ∈ targets.flatMap Expr.assignedNames := by
  unfold Container.shownNames at h
  split at h
  · cases h
  · exact h

/-- Every symbol shows a declaration of its block. -/
theorem exists_declaration {d : Document} {c : Container} {b : Block} {F : SymbolForest}
    (h : b.symbols d c = .ok F) : ∀ s ∈ F.preorder, ∃ p ∈ b.declarations, p.Shows d s := by
  have hlater : ∀ {F : SymbolForest} {own later : List Declaration}, own ⊆ later →
      (∀ s ∈ F.preorder, ∃ p ∈ own, p.Shows d s) → ∀ s ∈ F.preorder, ∃ p ∈ later, p.Shows d s := by
    intro F own later hsub hown s hs
    obtain ⟨p, hp, hshows⟩ := hown s hs
    exact ⟨p, hsub hp, hshows⟩
  induction b generalizing c F with
  | nil =>
    cases h
    exact nofun
  | classDef name bases x body rest ihb ihr =>
    obtain ⟨detail, r, children, siblings, -, hr, hchildren, hsiblings, rfl⟩ :=
      Block.symbols_classDef.mp h
    refine List.forall_mem_cons.mpr ⟨⟨_, List.mem_cons_self .., ?_, List.mem_cons_self .., hr⟩, ?_⟩
    · exact (kindHeading_classKind bases).symm
    · refine List.forall_mem_append.mpr ⟨hlater ?_ (ihb hchildren), hlater ?_ (ihr hsiblings)⟩
      · exact List.subset_cons_of_subset _ (List.subset_append_left ..)
      · exact List.subset_cons_of_subset _ (List.subset_append_right ..)
  | functionDef name params x body rest ihb ihr =>
    obtain ⟨r, detail, children, siblings, hr, -, hchildren, hsiblings, rfl⟩ :=
      Block.symbols_functionDef.mp h
    refine List.forall_mem_cons.mpr ⟨⟨_, List.mem_cons_self .., ?_, List.mem_cons_self .., hr⟩, ?_⟩
    · exact (kindHeading_functionKind c name).symm
    · refine List.forall_mem_append.mpr ⟨hlater ?_ (ihb hchildren), hlater ?_ (ihr hsiblings)⟩
      · exact List.subset_cons_of_subset _ (List.subset_append_left ..)
      · exact List.subset_cons_of_subset _ (List.subset_append_right ..)
  | assignment targets x rest ihr =>
    obtain ⟨r, siblings, hr, hsiblings, rfl⟩ := Block.symbols_assignment.mp h
    have hleaf : ∀ p ∈ (c.shownNames targets).map (c.assigned r), p.2 = .nil := by
      intro p hp
      obtain ⟨name, -, rfl⟩ := List.mem_map.mp hp
      rfl
    rw [preorder_ofList_append hleaf]
    refine List.forall_mem_append.mpr ⟨fun s hs => ?_, ?_⟩
    · obtain ⟨p, hp, rfl⟩ := List.mem_map.mp hs
      obtain ⟨name, hname, rfl⟩ := List.mem_map.mp hp
      refine ⟨_, List.mem_cons_self .., ?_, mem_assignedNames hname, hr (List.ne_nil_of_mem hname)⟩
      exact (kindHeading_assignmentKind c name).symm
    · exact hlater (List.subset_cons_self ..) (ihr hsiblings)
  | other x rest ihr => exact ihr h

end Outline.Source
