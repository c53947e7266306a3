import Outline.Text.LineBreak

/-!
# Lines

A text is cut at its first line boundary (`lines_append`). The boundaries beyond ASCII are the next
line character and the line and paragraph separators.
-/
namespace Outline.Text

def isWideBreak (c : Char) : Bool := c == '\u0085' || c == '\u2028' || c == '\u2029'

theorem isWideBreak_iff {c : Char} :
    isWideBreak c = true ↔ isLineBoundary c = true ∧ 32 ≤ c.toNat := by
  have hne : ∀ d : Char, c = d ↔ c.toNat = d.toNat := fun d => Char.toNat_inj.symm
  simp only [isWideBreak, isLineBoundary, Bool.or_eq_true, beq_iff_eq, Bool.and_eq_true,
    decide_eq_true_eq, hne]
  have h85 : '\u0085'.toNat = 0x85 := rfl
  have h2028 : '\u2028'.toNat = 0x2028 := rfl
  have h2029 : '\u2029'.toNat = 0x2029 := rfl
  rw [h85, h2028, h2029]
  omega

/-- Whether a text has a line boundary beyond ASCII. -/
def BreaksLines (t : Text) : Prop := ∃ c ∈ t, isWideBreak c = true

instance (t : Text) : Decidable t.BreaksLines :=
  decidable_of_iff (t.any isWideBreak = true) List.any_eq_true

def isOneLine (t : Text) : Bool := t.all fun c => !isLineBoundary c

theorem isOneLine_iff {t : Text} :
    isOneLine t = true ↔ ∀ c ∈ t, isLineBoundary c = false := by
  simp [isOneLine]

theorem linesFrom_cons {c : Char} (hc : c ≠ '\r') (pending cs : Text) :
    linesFrom pending (c :: cs) =
      if isLineBoundary c then pending.reverse :: linesFrom [] cs
      else linesFrom (c :: pending) cs := by
  rw [linesFrom]
  rintro cs' rfl
  exact absurd rfl hc

theorem linesFrom_append {t : Text} (ht : ∀ c ∈ t, isLineBoundary c = false) {b : Char}
    (hb : isLineBoundary b = true) (hr : b ≠ '\r') (pending rest : Text) :
    linesFrom pending (t ++ b :: rest) = (pending.reverse ++ t) :: linesFrom [] rest := by
  induction t generalizing pending with
  | nil => rw [List.nil_append, linesFrom_cons hr, if_pos hb, List.append_nil]
  | cons c cs ih =>
    obtain ⟨hc, hcs⟩ := List.forall_mem_cons.mp ht
    have hcr : c ≠ '\r' := by
      rintro rfl
      exact absurd hc (by decide)
    rw [List.cons_append, linesFrom_cons hcr, if_neg (by simp [hc]), ih hcs]
    simp

/-- What is before the first line boundary is the first line. -/
theorem lines_append {t : Text} (ht : ∀ c ∈ t, isLineBoundary c = false) {b : Char}
    (hb : isLineBoundary b = true) (hr : b ≠ '\r') (rest : Text) :
    lines (t ++ b :: rest) = t :: lines rest :=
  linesFrom_append ht hb hr [] rest

/-- A text without carriage returns has no line ends to unify. -/
theorem unifyLineEnds_of_not_mem {t : Text} (ht : '\r' ∉ t) : unifyLineEnds t = t := by
  induction t with
  | nil => rfl
  | cons c cs ih =>
    rw [List.mem_cons, not_or] at ht
    obtain ⟨hc, hcs⟩ := ht
    rw [unifyLineEnds, if_neg (Ne.symm hc), ih hcs]
    rintro cs' rfl
    exact absurd rfl hc

end Outline.Text
