import Mathlib.Data.List.Forall2
import Outline.Proofs.Search.Apply
import Outline.Proofs.Source.Symbols
import Outline.Proofs.Symbol.Forest

/-!
# Kinds of symbols follow the nesting

The kind of a symbol depends on what its statement is and on the kind of the symbol above it. A
`Level` is a block of a module together with the symbols it gives, and is reached from the module by
going to the body of a class or function and to what is below the symbol with the same number among
those that stand for one. What holds on one level (`Shown`) is read off the equations of
`Block.symbols`; that every level is the symbols of its block carries it through the module
(`kinds_follow_nesting`).
-/
namespace Outline

def Kind.isDefinition : Kind → Bool
  | .class | .enum | .function | .method | .constructor => true
  | _ => false

/-- The kinds that may stand directly below a kind, or at the top of a module. -/
def Kind.below : Option Kind → List Kind
  | none => [.class, .enum, .function, .constant, .variable]
  | some .class => [.class, .enum, .method, .constructor, .property]
  | some .enum => [.class, .enum, .method, .constructor, .enumMember]
  | some .function | some .method | some .constructor => [.class, .enum, .function]
  | _ => []

namespace SymbolForest

/-- The roots that stand for classes and functions, each with the forest below it. -/
def definitions (F : SymbolForest) : List (Symbol × SymbolForest) :=
  F.toList.filter (·.1.kind.isDefinition)

theorem toList_append (F G : SymbolForest) : (F ++ G).toList = F.toList ++ G.toList := by
  induction F with
  | nil => rfl
  | cons s cs rest _ ihr => exact congrArg ((s, cs) :: ·) ihr

theorem toList_ofList (ts : List (Symbol × SymbolForest)) : (ofList ts).toList = ts := by
  induction ts with
  | nil => rfl
  | cons t ts ih => exact congrArg (t :: ·) ih

end SymbolForest

namespace Source

/-- A class or function with the block it holds. -/
structure Definition where
  isClass : Bool
  name : Text
  extent : Extent
  body : Block

/-- The classes and functions that stand directly in a block, in the order of the source. -/
def Block.definitions : Block → List Definition
  | nil => []
  | classDef name _ x body rest => ⟨true, name, x, body⟩ :: rest.definitions
  | functionDef name _ x body rest => ⟨false, name, x, body⟩ :: rest.definitions
  | assignment _ _ rest | other _ rest => rest.definitions

/-- A block in a module with the kind of the symbol whose body it is, if any, and the symbols that
stand for it. -/
inductive Level (b : Block) (F : SymbolForest) : Option Kind → Block → SymbolForest → Prop
  | module : Level b F none b F
  | body {above : Option Kind} {b' : Block} {F' : SymbolForest} (h : Level b F above b' F')
    {D : Definition} {s : Symbol} {cs : SymbolForest}
    (hD : (D, s, cs) ∈ b'.definitions.zip F'.definitions) : Level b F (some s.kind) D.body cs

/-- A symbol stands for a class or function that is directly below the given kind. -/
structure Definition.StandsAs (d : Document) (above : Option Kind) (D : Definition) (s : Symbol) :
    Prop where
  name : s.name = D.name
  range : D.extent.range d = .ok s.range
  isClass : D.isClass = true ↔ s.kind = .class ∨ s.kind = .enum
  isConstructor : s.kind = .constructor ↔
    D.isClass = false ∧ D.name = "__init__".toList ∧ (above = some .class ∨ above = some .enum)

/-- What symbols stand for a block directly below the given kind. -/
structure Block.Shown (d : Document) (above : Option Kind) (b : Block) (F : SymbolForest) :
    Prop where
  kinds : ∀ p ∈ F.toList, p.1.kind ∈ Kind.below above
  leaves : ∀ p ∈ F.toList, p.1.kind.isDefinition = false → p.2 = .nil
  definitions : List.Forall₂ (fun D p => D.StandsAs d above p.1) b.definitions F.definitions

/-! ## One level -/

/-- What the symbols below a kind stand directly in. -/
def Container.under : Option Kind → Container
  | none => .module
  | some .class => .plainClass
  | some .enum => .enum
  | some _ => .function

/-- Whether there may be a body below a kind; there is one at the top of a module. -/
def HoldsBody (above : Option Kind) : Prop := ∀ k ∈ above, k.isDefinition = true

section

variable {d : Document} {above : Option Kind}

/-- The kinds below anything that has a body include classes, enumerations and functions. -/
theorem HoldsBody.mem_below (h : HoldsBody above) {k : Kind}
    (hk : k = .class ∨ k = .enum ∨
      k = if above = some .class ∨ above = some .enum then .method else .function) :
    k ∈ Kind.below above := by
  rcases above with _ | a
  · rcases hk with rfl | rfl | rfl <;> decide
  · have ha := h a rfl
    rcases hk with rfl | rfl | rfl <;> revert ha <;> cases a <;> decide

/-! ### Classes -/

theorem under_classKind (bases : List Expr) :
    Container.under (some (classKind bases)) = classContainer bases := by
  unfold classKind classContainer
  split <;> rfl

theorem classKind_cases (bases : List Expr) :
    classKind bases = .class ∨ classKind bases = .enum := by
  unfold classKind
  split
  · exact .inr rfl
  · exact .inl rfl

theorem isDefinition_classKind (bases : List Expr) : (classKind bases).isDefinition = true := by
  rcases classKind_cases bases with h | h <;> rw [h] <;> rfl

/-! ### Functions -/

theorem functionKind_under (above : Option Kind) (name : Text) :
    (Container.under above).functionKind name =
      if above = some .class ∨ above = some .enum then
        if name = "__init__".toList then .constructor else .method
      else .function := by
  rcases above with _ | k
  · rfl
  · cases k <;> rfl

/-- Below the symbol of a function stands what is in a function. -/
theorem under_functionKind (above : Option Kind) (name : Text) :
    Container.under (some ((Container.under above).functionKind name)) = .function := by
  rw [functionKind_under]
  split
  · split <;> rfl
  · rfl

theorem isDefinition_functionKind (above : Option Kind) (name : Text) :
    ((Container.under above).functionKind name).isDefinition = true := by
  rw [functionKind_under]
  split
  · split <;> rfl
  · rfl

theorem functionKind_mem_below (h : HoldsBody above) (name : Text) :
    (Container.under above).functionKind name ∈ Kind.below above := by
  rw [functionKind_under]
  split
  · rename_i hclass
    split
    · rcases hclass with rfl | rfl <;> decide
    · exact h.mem_below (.inr (.inr (if_pos hclass).symm))
  · rename_i hclass
    exact h.mem_below (.inr (.inr (if_neg hclass).symm))

theorem functionKind_eq_constructor_iff (name : Text) :
    (Container.under above).functionKind name = .constructor ↔
      name = "__init__".toList ∧ (above = some .class ∨ above = some .enum) := by
  rw [functionKind_under]
  by_cases hclass : above = some .class ∨ above = some .enum
  · rw [if_pos hclass]
    by_cases hname : name = "__init__".toList
    · rw [if_pos hname]
      exact iff_of_true rfl ⟨hname, hclass⟩
    · rw [if_neg hname]
      exact iff_of_false nofun fun h => hname h.1
  · rw [if_neg hclass]
    exact iff_of_false nofun fun h => hclass h.2

theorem functionKind_ne_class (name : Text) :
    ¬((Container.under above).functionKind name = .class ∨
      (Container.under above).functionKind name = .enum) := by
  rw [functionKind_under]
  split
  · split <;> simp
  · simp

/-! ### Assigned names -/

/-- A name is shown where the kinds below include its own, and no class or function has that. -/
theorem assignmentKind_under (h : HoldsBody above) {targets : List Expr} {name : Text}
    (hname : name ∈ (Container.under above).shownNames targets) :
    (Container.under above).assignmentKind name ∈ Kind.below above ∧
      ((Container.under above).assignmentKind name).isDefinition = false := by
  rcases above with _ | a
  · show (if name.isAllUpper then Kind.constant else .variable) ∈ Kind.below none ∧ _
    unfold Container.under Container.assignmentKind
    dsimp only
    split <;> decide
  · by_cases hfunction : Container.under (some a) = .function
    · rw [Container.shownNames, if_pos hfunction] at hname
      cases hname
    · have ha := h a rfl
      cases a with
      | «class» => exact ⟨(by decide : Kind.property ∈ Kind.below (some .class)), rfl⟩
      | enum => exact ⟨(by decide : Kind.enumMember ∈ Kind.below (some .enum)), rfl⟩
      | function | method | constructor => exact absurd rfl hfunction
      | _ => exact absurd ha (by decide)

/-! ### The symbols of a block -/

theorem definitions_cons {s : Symbol} (hs : s.kind.isDefinition = true) (cs F : SymbolForest) :
    (SymbolForest.cons s cs F).definitions = (s, cs) :: F.definitions :=
  List.filter_cons_of_pos hs

theorem definitions_names {own : List (Symbol × SymbolForest)}
    (hown : ∀ p ∈ own, p.1.kind.isDefinition = false) (F : SymbolForest) :
    (SymbolForest.ofList own ++ F).definitions = F.definitions := by
  have hnone : own.filter (·.1.kind.isDefinition) = [] := by
    refine List.filter_eq_nil_iff.mpr fun p hp => ?_
    rw [hown p hp]
    exact Bool.false_ne_true
  rw [SymbolForest.definitions, SymbolForest.toList_append, SymbolForest.toList_ofList,
    List.filter_append, hnone]
  rfl

theorem kinds_symbols (habove : HoldsBody above) {b : Block} {F : SymbolForest}
    (h : b.symbols d (.under above) = .ok F) :
    ∀ p ∈ F.toList, p.1.kind ∈ Kind.below above ∧ (p.1.kind.isDefinition = false → p.2 = .nil) := by
  induction b generalizing F with
  | nil =>
    cases h
    exact nofun
  | classDef name bases x body rest _ ihr =>
    obtain ⟨detail, r, children, siblings, -, -, -, hsiblings, rfl⟩ := Block.symbols_classDef.mp h
    have hkind := habove.mem_below ((classKind_cases bases).imp_right .inl)
    refine List.forall_mem_cons.mpr ⟨⟨hkind, fun hno => ?_⟩, ihr hsiblings⟩
    rw [isDefinition_classKind] at hno
    cases hno
  | functionDef name params x body rest _ ihr =>
    obtain ⟨r, detail, children, siblings, -, -, -, hsiblings, rfl⟩ :=
      Block.symbols_functionDef.mp h
    have hkind := functionKind_mem_below habove name
    refine List.forall_mem_cons.mpr ⟨⟨hkind, fun hno => ?_⟩, ihr hsiblings⟩
    rw [isDefinition_functionKind] at hno
    cases hno
  | assignment targets x rest ihr =>
    obtain ⟨r, siblings, -, hsiblings, rfl⟩ := Block.symbols_assignment.mp h
    intro p hp
    rw [SymbolForest.toList_append, SymbolForest.toList_ofList, List.mem_append] at hp
    rcases hp with hp | hp
    · obtain ⟨name, hname, rfl⟩ := List.mem_map.mp hp
      exact ⟨(assignmentKind_under habove hname).1, fun _ => rfl⟩
    · exact ihr hsiblings p hp
  | other x rest ihr => exact ihr h

/-- The classes and functions of a block and their symbols, with the symbols of their bodies below
them. -/
theorem definitions_symbols (habove : HoldsBody above) {b : Block} {F : SymbolForest}
    (h : b.symbols d (.under above) = .ok F) :
    List.Forall₂
      (fun D p => D.StandsAs d above p.1 ∧ D.body.symbols d (.under (some p.1.kind)) = .ok p.2)
      b.definitions F.definitions := by
  induction b generalizing F with
  | nil =>
    cases h
    exact .nil
  | classDef name bases x body rest _ ihr =>
    obtain ⟨detail, r, children, siblings, -, hr, hchildren, hsiblings, rfl⟩ :=
      Block.symbols_classDef.mp h
    have hkind := classKind_cases bases
    have hconstructor : classKind bases ≠ .constructor := by
      rcases hkind with hkind | hkind <;> rw [hkind] <;> decide
    rw [definitions_cons (isDefinition_classKind bases)]
    refine .cons ⟨⟨rfl, hr, iff_of_true rfl hkind, ?_⟩, ?_⟩ (ihr hsiblings)
    · exact iff_of_false hconstructor fun h => absurd h.1 (by simp)
    · rw [under_classKind]
      exact hchildren
  | functionDef name params x body rest _ ihr =>
    obtain ⟨r, detail, children, siblings, hr, -, hchildren, hsiblings, rfl⟩ :=
      Block.symbols_functionDef.mp h
    rw [definitions_cons (isDefinition_functionKind above name)]
    refine .cons ⟨⟨rfl, hr, ?_, ?_⟩, ?_⟩ (ihr hsiblings)
    · exact iff_of_false Bool.false_ne_true (functionKind_ne_class name)
    · rw [functionKind_eq_constructor_iff]
      exact (and_iff_right rfl).symm
    · rw [under_functionKind]
      exact hchildren
  | assignment targets x rest ihr =>
    obtain ⟨r, siblings, -, hsiblings, rfl⟩ := Block.symbols_assignment.mp h
    rw [definitions_names]
    · exact ihr hsiblings
    · intro p hp
      obtain ⟨name, hname, rfl⟩ := List.mem_map.mp hp
      exact (assignmentKind_under habove hname).2
  | other x rest ihr => exact ihr h

theorem shown_symbols (habove : HoldsBody above) {b : Block} {F : SymbolForest}
    (h : b.symbols d (.under above) = .ok F) : b.Shown d above F where
  kinds p hp := (kinds_symbols habove h p hp).1
  leaves p hp := (kinds_symbols habove h p hp).2
  definitions := (definitions_symbols habove h).imp fun _ _ h => h.1

end

/-! ## All levels -/

section

variable {d : Document} {b : Block} {F : SymbolForest}

/-- A level is a block with its symbols, in the place that its kind stands for. -/
theorem Level.symbols (h : b.symbols d .module = .ok F) {above : Option Kind} {b' : Block}
    {F' : SymbolForest} (hl : Level b F above b' F') :
    HoldsBody above ∧ b'.symbols d (.under above) = .ok F' := by
  induction hl with
  | module => exact ⟨nofun, h⟩
  | @body above b' F' _ D s cs hD ih =>
    obtain ⟨habove, hsymbols⟩ := ih
    have hbody := List.forall₂_zip (definitions_symbols habove hsymbols) hD
    have hs : s.kind.isDefinition = true :=
      (List.mem_filter.mp (List.of_mem_zip hD).2).2
    refine ⟨fun k hk => ?_, hbody.2⟩
    cases hk
    exact hs

/-- Every symbol is on some level, together with its siblings. -/
theorem exists_level (h : b.symbols d .module = .ok F) {s : Symbol} (hs : s ∈ F.preorder) :
    ∃ above b' F' cs, Level b F above b' F' ∧ (s, cs) ∈ F'.toList := by
  -- the symbols looked at are some of those on a level already reached
  suffices hgo : ∀ (G : SymbolForest) {above : Option Kind} {b' : Block} {F' : SymbolForest},
      Level b F above b' F' → G.toList ⊆ F'.toList → s ∈ G.preorder →
      ∃ above b' F' cs, Level b F above b' F' ∧ (s, cs) ∈ F'.toList from
    hgo F .module (List.Subset.refl _) hs
  intro G
  induction G with
  | nil =>
    intro above b' F' _ _ hG
    cases hG
  | cons t cs rest ihc ihr =>
    intro above b' F' hl hsub hG
    have ht : (t, cs) ∈ F'.toList := hsub (List.mem_cons_self ..)
    rcases List.mem_cons.mp hG with rfl | hG
    · exact ⟨above, b', F', cs, hl, ht⟩
    rcases List.mem_append.mp hG with hG | hG
    · obtain ⟨habove, hsymbols⟩ := hl.symbols h
      cases hkind : t.kind.isDefinition with
      | false =>
        have hnil : cs = .nil := (kinds_symbols habove hsymbols _ ht).2 hkind
        rw [hnil] at hG
        cases hG
      | true =>
        have hdefinition : (t, cs) ∈ F'.definitions := List.mem_filter.mpr ⟨ht, hkind⟩
        have hlength := (definitions_symbols habove hsymbols).length_eq
        obtain ⟨i, hi, hget⟩ := List.mem_iff_getElem.mp hdefinition
        have hzip : i < (b'.definitions.zip F'.definitions).length := by
          rw [List.length_zip]
          omega
        have hD := List.getElem_mem hzip
        rw [List.getElem_zip, hget] at hD
        exact ihc (hl.body hD) (List.Subset.refl _) hG
    · exact ihr hl (fun p hp => hsub (List.mem_cons_of_mem _ hp)) hG

end

/-- **Kinds of symbols.** In every module that gives symbols, the symbols on each level have the
kinds that may stand below the one above them and stand one by one, in the order of the source, for
the classes and functions of its body; those that stand for none are leaves. -/
theorem kinds_follow_nesting {d : Document} {F : SymbolForest} (h : symbols d = .ok F) :
    ∃ b, Block.read d.text = .ok b ∧
      (∀ above b' F', Level b F above b' F' → b'.Shown d above F') ∧
      ∀ s ∈ F.preorder, ∃ above b' F' cs, Level b F above b' F' ∧ (s, cs) ∈ F'.toList := by
  unfold symbols at h
  split at h
  · cases h
  · rename_i b hread
    refine ⟨b, hread, fun above b' F' hl => ?_, fun s hs => exists_level h hs⟩
    obtain ⟨habove, hsymbols⟩ := hl.symbols h
    exact shown_symbols habove hsymbols

/-- The one root of the sample outline is a class, which may stand at the top. -/
theorem kinds_follow_nesting_sample :
    symbols Search.sampleDocument = .ok Search.sampleForest ∧
      ∃ b, Block.read Search.sampleDocument.text = .ok b ∧
        b.Shown Search.sampleDocument none Search.sampleForest := by
  have h : symbols Search.sampleDocument = .ok Search.sampleForest :=
    toOption_eq_some.mp (by decide +kernel)
  obtain ⟨b, hread, hlevels, -⟩ := kinds_follow_nesting h
  exact ⟨h, b, hread, hlevels _ _ _ .module⟩

end Source

end Outline
