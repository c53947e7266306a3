import Outline.Proofs.Json.RoundTrip
import Outline.Proofs.Text.LineBreak

/-!
# Renderings on one line

Control characters are escaped, so the only line boundaries in a rendering are those beyond ASCII
that stand in a text of the value or in the name of a field (`mem_write_iff`).
-/
namespace Outline.Json

open Text

/-- A character stands in a text of a value, or in the name of a field. -/
inductive InTexts (c : Char) : Json → Prop
  | str {t : Text} (h : c ∈ t) : InTexts c (.str t)
  | item {items : List Json} {j : Json} (hj : j ∈ items) (h : InTexts c j) : InTexts c (.arr items)
  | name {fields : List (Text × Json)} {f : Text × Json} (hf : f ∈ fields) (h : c ∈ f.1) :
    InTexts c (.obj fields)
  | value {fields : List (Text × Json)} {f : Text × Json} (hf : f ∈ fields) (h : InTexts c f.2) :
    InTexts c (.obj fields)

section

variable {c : Char}

theorem inTexts_str_iff {t : Text} : InTexts c (.str t) ↔ c ∈ t := by
  constructor
  · rintro ⟨h⟩
    exact h
  · exact .str

theorem inTexts_arr_iff {items : List Json} :
    InTexts c (.arr items) ↔ ∃ j ∈ items, InTexts c j := by
  constructor
  · intro h
    cases h with
    | item hj h => exact ⟨_, hj, h⟩
  · rintro ⟨j, hj, h⟩
    exact .item hj h

theorem inTexts_obj_iff {fields : List (Text × Json)} :
    InTexts c (.obj fields) ↔ ∃ f ∈ fields, c ∈ f.1 ∨ InTexts c f.2 := by
  constructor
  · intro h
    cases h with
    | name hf h => exact ⟨_, hf, Or.inl h⟩
    | value hf h => exact ⟨_, hf, Or.inr h⟩
  · rintro ⟨f, hf, h | h⟩
    · exact .name hf h
    · exact .value hf h

theorem not_inTexts_null : ¬InTexts c .null := nofun

theorem not_inTexts_bool {b : Bool} : ¬InTexts c (.bool b) := nofun

theorem not_inTexts_int {i : Int} : ¬InTexts c (.int i) := nofun

end

theorem notBoundary_of_isAsciiDigit {c : Char} (h : isAsciiDigit c = true) :
    isLineBoundary c = false := by
  rw [isAsciiDigit, Bool.and_eq_true, decide_eq_true_eq, decide_eq_true_eq] at h
  have hlow : 48 ≤ c.toNat := h.1
  have hhigh : c.toNat ≤ 57 := h.2
  rw [← Bool.not_eq_true, isLineBoundary]
  simp only [Bool.or_eq_true, Bool.and_eq_true, decide_eq_true_eq, beq_iff_eq]
  omega

section

variable {c : Char} (hc : isLineBoundary c = true)

include hc

theorem not_mem_of_isOneLine {t : Text} (ht : isOneLine t = true) : c ∉ t :=
  fun h => absurd hc (by simp [isOneLine_iff.mp ht c h])

theorem ne_of_boundary {x : Char} (hx : isLineBoundary x = false) : c ≠ x := by
  rintro rfl
  exact absurd hc (by simp [hx])

/-- A character that is escaped leaves no line boundary. -/
theorem mem_escape_iff {x : Char} {e : Text} (he : isOneLine e = true)
    (hx : x.toNat < 128) : c ∈ e ↔ c = x ∧ isWideBreak c = true := by
  refine iff_of_false (not_mem_of_isOneLine hc he) ?_
  rintro ⟨rfl, hwide⟩
  simp only [isWideBreak, Bool.or_eq_true, beq_iff_eq] at hwide
  rcases hwide with (rfl | rfl) | rfl <;> exact absurd hx (by decide)

theorem mem_writeChar_iff (x : Char) : c ∈ writeChar false x ↔ c = x ∧ isWideBreak c = true := by
  have hunit : ∀ n < 32, isOneLine (unitEscape n) = true := by decide +kernel
  unfold writeChar
  split
  case h_8 =>
    dsimp only
    split
    · rename_i hctl
      exact mem_escape_iff hc (hunit _ hctl) (by omega)
    · rename_i hctl
      have hplain : (!false || decide (x.toNat < 127)) = true := rfl
      rw [if_pos hplain, List.mem_singleton]
      constructor
      · rintro rfl
        exact ⟨rfl, isWideBreak_iff.mpr ⟨hc, by omega⟩⟩
      · exact And.left
  all_goals exact mem_escape_iff hc (by decide) (by decide)

theorem mem_writeText_iff (t : Text) : c ∈ writeText false t ↔ isWideBreak c = true ∧ c ∈ t := by
  have hquote : c ≠ '"' := ne_of_boundary hc rfl
  rw [writeText, List.mem_append, List.mem_cons, List.mem_singleton, List.mem_flatMap]
  simp only [mem_writeChar_iff hc, hquote, false_or, or_false]
  constructor
  · rintro ⟨x, hx, rfl, hwide⟩
    exact ⟨hwide, hx⟩
  · rintro ⟨hwide, hx⟩
    exact ⟨c, hx, rfl, hwide⟩

theorem mem_writeItems_iff (vs : List Json) :
    c ∈ writeItems false vs ↔ ∃ v ∈ vs, c ∈ write false v := by
  have hcomma : c ∉ [',', ' '] := not_mem_of_isOneLine hc (by decide)
  induction vs with
  | nil => simp [writeItems]
  | cons v vs ih =>
    cases vs with
    | nil => simp [writeItems]
    | cons w vs =>
      have hrest : c ∈ writeItems false (w :: vs) ↔ ∃ v ∈ w :: vs, c ∈ write false v := ih
      rw [writeItems, List.mem_append, List.mem_append, hrest]
      simp only [hcomma, or_false, List.mem_cons, exists_eq_or_imp]

theorem mem_writeFields_iff (fs : List (Text × Json)) :
    c ∈ writeFields false fs ↔ ∃ f ∈ fs, c ∈ writeText false f.1 ∨ c ∈ write false f.2 := by
  have hcomma : c ∉ [',', ' '] := not_mem_of_isOneLine hc (by decide)
  have hcolon : c ∉ [':', ' '] := not_mem_of_isOneLine hc (by decide)
  induction fs with
  | nil => simp [writeFields]
  | cons f fs ih =>
    cases fs with
    | nil =>
      rw [writeFields, List.mem_append, List.mem_append]
      simp only [hcolon, or_false, List.mem_singleton, exists_eq_left]
    | cons g fs =>
      have hrest : c ∈ writeFields false (g :: fs) ↔
          ∃ f ∈ g :: fs, c ∈ writeText false f.1 ∨ c ∈ write false f.2 := ih
      rw [writeFields, List.mem_append, List.mem_append, List.mem_append, List.mem_append, hrest]
      simp only [hcomma, hcolon, or_false, List.mem_cons, exists_eq_or_imp]

/-- A line boundary in a written value. -/
theorem mem_write_iff {depth : Nat} {j : Json} (h : Writable depth j) :
    c ∈ write false j ↔ isWideBreak c = true ∧ InTexts c j := by
  induction h with
  | null =>
    exact iff_of_false (not_mem_of_isOneLine hc (by decide)) fun h => not_inTexts_null h.2
  | bool b =>
    exact iff_of_false (not_mem_of_isOneLine hc (by cases b <;> decide))
      fun h => not_inTexts_bool h.2
  | int i h =>
    refine iff_of_false (not_mem_of_isOneLine hc ?_) fun h => not_inTexts_int h.2
    rw [isOneLine_iff]
    intro x hx
    rw [write, Text.ofInt] at hx
    split at hx
    · rcases List.mem_cons.mp hx with rfl | hx
      · rfl
      · exact notBoundary_of_isAsciiDigit (Text.isAsciiDigit_of_mem_ofNat hx)
    · exact notBoundary_of_isAsciiDigit (Text.isAsciiDigit_of_mem_ofNat hx)
  | str t => rw [write, mem_writeText_iff hc, inTexts_str_iff]
  | arr h ih =>
    have hopen : c ≠ '[' := ne_of_boundary hc rfl
    have hclose : c ∉ [']'] := not_mem_of_isOneLine hc (by decide)
    rw [write, List.cons_append, List.mem_cons, List.mem_append, mem_writeItems_iff hc,
      inTexts_arr_iff]
    simp only [hopen, hclose, false_or, or_false]
    constructor
    · rintro ⟨v, hv, hmem⟩
      obtain ⟨hwide, hin⟩ := (ih v hv).mp hmem
      exact ⟨hwide, v, hv, hin⟩
    · rintro ⟨hwide, v, hv, hin⟩
      exact ⟨v, hv, (ih v hv).mpr ⟨hwide, hin⟩⟩
  | obj hk h ih =>
    have hopen : c ≠ '\x7b' := ne_of_boundary hc rfl
    have hclose : c ∉ ['\x7d'] := not_mem_of_isOneLine hc (by decide)
    rw [write, List.cons_append, List.mem_cons, List.mem_append, mem_writeFields_iff hc,
      inTexts_obj_iff]
    simp only [hopen, hclose, false_or, or_false, mem_writeText_iff hc]
    constructor
    · rintro ⟨f, hf, ⟨hwide, hname⟩ | hvalue⟩
      · exact ⟨hwide, f, hf, Or.inl hname⟩
      · obtain ⟨hwide, hin⟩ := (ih f hf).mp hvalue
        exact ⟨hwide, f, hf, Or.inr hin⟩
    · rintro ⟨hwide, f, hf, hname | hin⟩
      · exact ⟨f, hf, Or.inl ⟨hwide, hname⟩⟩
      · exact ⟨f, hf, Or.inr ((ih f hf).mpr ⟨hwide, hin⟩)⟩

end

end Outline.Json
