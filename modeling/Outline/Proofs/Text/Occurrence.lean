import Outline.Text.Case

/-!
# Where a text occurs

What is looked for in a text is found at its first occurrence, if there is any
(`occursFirst_of_find?`, `not_infix_of_find?`), which cuts the text in three
(`exists_cut_of_find?`). Letter case set aside, the text is looked for in the lower-case form, which
is longer than what was typed by one character for every capital I with a dot above
(`length_lower`).
-/
namespace Outline.Text

theorem exists_cut_of_find? {needle hay : Text} {i : Nat} (h : find? needle hay = some i) :
    ∃ before after, hay = before ++ needle ++ after ∧ before.length = i := by
  induction hay generalizing i with
  | nil =>
    rw [find?] at h
    split at h
    · rename_i hempty
      cases h
      exact ⟨[], [], by simp [List.isEmpty_iff.mp hempty], rfl⟩
    · cases h
  | cons c cs ih =>
    rw [find?] at h
    split at h
    · rename_i hprefix
      cases h
      obtain ⟨after, hafter⟩ := List.isPrefixOf_iff_prefix.mp hprefix
      exact ⟨[], after, hafter.symm, rfl⟩
    · obtain ⟨j, hj, rfl⟩ := Option.map_eq_some_iff.mp h
      obtain ⟨before, after, rfl, rfl⟩ := ih hj
      exact ⟨c :: before, after, rfl, rfl⟩

/-- An occurrence lies in the text. -/
theorem add_length_le_of_find? {needle hay : Text} {i : Nat} (h : find? needle hay = some i) :
    i + needle.length ≤ hay.length := by
  obtain ⟨before, after, rfl, rfl⟩ := exists_cut_of_find? h
  simp

/-- A text stands at an index of another, and at no earlier one. -/
structure OccursFirst (needle hay : Text) (i : Nat) : Prop where
  here : needle <+: hay.drop i
  first : ∀ j, j < i → ¬needle <+: hay.drop j

theorem OccursFirst.occurs {needle hay : Text} {i : Nat} (h : OccursFirst needle hay i) :
    needle <:+: hay :=
  h.here.isInfix.trans (List.drop_suffix i hay).isInfix

theorem occursFirst_of_find? {needle hay : Text} {i : Nat} (h : find? needle hay = some i) :
    OccursFirst needle hay i := by
  induction hay generalizing i with
  | nil =>
    rw [find?] at h
    split at h
    · rename_i hempty
      cases h
      exact ⟨by simp [List.isEmpty_iff.mp hempty], fun j hj => absurd hj (Nat.not_lt_zero j)⟩
    · cases h
  | cons c cs ih =>
    rw [find?] at h
    split at h
    · rename_i hprefix
      cases h
      exact ⟨List.isPrefixOf_iff_prefix.mp hprefix, fun j hj => absurd hj (Nat.not_lt_zero j)⟩
    · rename_i hprefix
      obtain ⟨k, hk, rfl⟩ := Option.map_eq_some_iff.mp h
      have hrest := ih hk
      refine ⟨hrest.here, fun j hj => ?_⟩
      cases j with
      | zero => exact fun hpre => hprefix (List.isPrefixOf_iff_prefix.mpr hpre)
      | succ j => exact hrest.first j (Nat.lt_of_succ_lt_succ hj)

theorem not_infix_of_find? {needle hay : Text} (h : find? needle hay = none) :
    ¬needle <:+: hay := by
  induction hay with
  | nil =>
    rw [find?] at h
    intro hin
    rw [List.infix_nil.mp hin] at h
    cases h
  | cons c cs ih =>
    rw [find?] at h
    split at h
    · cases h
    · rename_i hprefix
      rw [List.infix_cons_iff, not_or]
      exact ⟨fun hpre => hprefix (List.isPrefixOf_iff_prefix.mpr hpre),
        ih (Option.map_eq_none_iff.mp h)⟩

/-! ## Lower-case forms -/

/-- The capital I with a dot above, whose lower-case form alone is of two characters. -/
def dottedCapital : Char := '\u0130'

theorem length_lowerChar (c : Char) :
    (lowerChar c).length = if c = dottedCapital then 2 else 1 := by
  have hdotted : c = dottedCapital ↔ c.toNat = 0x130 := Char.toNat_inj.symm
  unfold lowerChar
  simp only [hdotted]
  split <;> rfl

theorem length_lowerAfter (before t : Text) :
    (lowerAfter before t).length = t.length + t.count dottedCapital := by
  induction t generalizing before with
  | nil => rfl
  | cons c cs ih =>
    rw [lowerAfter, List.count_cons, List.length_cons]
    split
    · rename_i hsigma
      have hc : c ≠ dottedCapital := fun e => by
        rw [e] at hsigma
        cases hsigma
      simp only [List.length_cons, ih, beq_iff_eq, hc, if_false]
      omega
    · rw [List.length_append, length_lowerChar, ih]
      by_cases hc : c = dottedCapital
      · simp only [hc, beq_self_eq_true, if_true]
        omega
      · simp only [hc, beq_iff_eq, if_false]
        omega

theorem length_lower (t : Text) : t.lower.length = t.length + t.count dottedCapital :=
  length_lowerAfter [] t

end Outline.Text
