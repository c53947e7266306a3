import Outline.Proofs.Except
import Outline.Source.Symbols

/-!
# The symbols of a block

What the symbols of a block are, by its first statement: a class or a function gives one symbol with
those of its body below it (`symbols_classDef`, `symbols_functionDef`), an assignment one for each
name that is shown (`symbols_assignment`), and any other statement none. A range goes from the first
word of a statement to the end of the line on which its last word ends (`range_eq_ok`).
-/
namespace Outline.Source

variable {d : Document} {c : Container} {F : SymbolForest}

theorem Extent.range_eq_ok {x : Extent} {r : Range} (h : x.range d = .ok r) :
    ∃ text, d.lines[x.lastLine]? = some text ∧
      r = ⟨⟨x.line, x.column⟩, ⟨x.lastLine, text.length⟩⟩ := by
  unfold range at h
  split at h
  · rename_i line hline
    cases h
    exact ⟨line.text, (Document.lineAt_eq_ok.mp hline).1, rfl⟩
  · cases h

def classContainer (bases : List Expr) : Container :=
  if bases.any Expr.isEnumBase then .enum else .plainClass

def classKind (bases : List Expr) : Kind := if bases.any Expr.isEnumBase then .enum else .class

/-- The names that an assignment shows; none are shown in a function. -/
def Container.shownNames (c : Container) (targets : List Expr) : List Text :=
  if c = .function then [] else targets.flatMap Expr.assignedNames

def Container.assigned (c : Container) (r : Range) (name : Text) : Symbol × SymbolForest :=
  ({ name, kind := c.assignmentKind name, range := r }, .nil)

namespace Block

theorem symbols_classDef {name : Text} {bases : List Expr} {x : Extent} {body rest : Block} :
    (classDef name bases x body rest).symbols d c = .ok F ↔
      ∃ detail r children siblings, basesDetail bases = .ok detail ∧ x.range d = .ok r ∧
        body.symbols d (classContainer bases) = .ok children ∧ rest.symbols d c = .ok siblings ∧
        F = .cons { name, kind := classKind bases, range := r, detail } children siblings := by
  constructor
  · intro h
    obtain ⟨detail, hdetail, h⟩ := bind_eq_ok.mp h
    obtain ⟨r, hr, h⟩ := bind_eq_ok.mp h
    obtain ⟨children, hchildren, h⟩ := bind_eq_ok.mp h
    obtain ⟨siblings, hsiblings, h⟩ := bind_eq_ok.mp h
    cases h
    exact ⟨detail, r, children, siblings, hdetail, hr, hchildren, hsiblings, rfl⟩
  · rintro ⟨detail, r, children, siblings, hdetail, hr, hchildren, hsiblings, rfl⟩
    refine bind_eq_ok.mpr ⟨detail, hdetail, bind_eq_ok.mpr ⟨r, hr, ?_⟩⟩
    exact bind_eq_ok.mpr ⟨children, hchildren, bind_eq_ok.mpr ⟨siblings, hsiblings, rfl⟩⟩

theorem symbols_functionDef {name : Text} {params : List Parameter} {x : Extent}
    {body rest : Block} :
    (functionDef name params x body rest).symbols d c = .ok F ↔
      ∃ r detail children siblings, x.range d = .ok r ∧
        written (Expr.printParameters params) = .ok detail ∧
        body.symbols d .function = .ok children ∧ rest.symbols d c = .ok siblings ∧
        F = .cons
          { name, kind := c.functionKind name, range := r, detail := some ('(' :: detail ++ [')']) }
          children siblings := by
  constructor
  · intro h
    obtain ⟨r, hr, h⟩ := bind_eq_ok.mp h
    obtain ⟨detail, hdetail, h⟩ := bind_eq_ok.mp h
    obtain ⟨children, hchildren, h⟩ := bind_eq_ok.mp h
    obtain ⟨siblings, hsiblings, h⟩ := bind_eq_ok.mp h
    cases h
    exact ⟨r, detail, children, siblings, hr, hdetail, hchildren, hsiblings, rfl⟩
  · rintro ⟨r, detail, children, siblings, hr, hdetail, hchildren, hsiblings, rfl⟩
    refine bind_eq_ok.mpr ⟨r, hr, bind_eq_ok.mpr ⟨detail, hdetail, ?_⟩⟩
    exact bind_eq_ok.mpr ⟨children, hchildren, bind_eq_ok.mpr ⟨siblings, hsiblings, rfl⟩⟩

/-- The names that are shown share the range of their statement. -/
theorem symbols_assignment {targets : List Expr} {x : Extent} {rest : Block} :
    (assignment targets x rest).symbols d c = .ok F ↔
      ∃ r siblings, (c.shownNames targets ≠ [] → x.range d = .ok r) ∧
        rest.symbols d c = .ok siblings ∧
        F = .ofList ((c.shownNames targets).map (c.assigned r)) ++ siblings := by
  have hnames : (assignment targets x rest).symbols d c =
      (((c.shownNames targets).mapM fun name => do
        return c.assigned (← x.range d) name) >>= fun own => do
          let siblings ← rest.symbols d c
          return SymbolForest.ofList own ++ siblings) := rfl
  rw [hnames]
  constructor
  · intro h
    obtain ⟨own, hown, h⟩ := bind_eq_ok.mp h
    obtain ⟨siblings, hsiblings, h⟩ := bind_eq_ok.mp h
    cases h
    obtain ⟨r, hr, rfl⟩ := (mapM_same_eq_ok ⟨⟨0, 0⟩, ⟨0, 0⟩⟩).mp hown
    exact ⟨r, siblings, hr, hsiblings, rfl⟩
  · rintro ⟨r, siblings, hr, hsiblings, rfl⟩
    exact bind_eq_ok.mpr ⟨_, (mapM_same_eq_ok r).mpr ⟨r, hr, rfl⟩,
      bind_eq_ok.mpr ⟨siblings, hsiblings, rfl⟩⟩

end Block

end Outline.Source
