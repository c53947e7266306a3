import Mathlib.Data.List.TakeWhile
import Outline.Proofs.Text.LineBreak
import Outline.Record.Timestamp

/-!
# The characters of a time stamp

A text that can be read as a time stamp is made of digits and of signs between them, so it breaks no
lines (`not_breaksLines_of_readable`).
-/
namespace Outline.Record.Timestamp

open Text

/-- Texts without a line boundary beyond ASCII. -/
def Plain (t : Text) : Prop := ∀ c ∈ t, isWideBreak c = false

theorem not_isWideBreak_of_isAsciiDigit {c : Char} (h : isAsciiDigit c = true) :
    isWideBreak c = false := by
  rw [← Bool.not_eq_true]
  intro hwide
  simp only [isWideBreak, Bool.or_eq_true, beq_iff_eq] at hwide
  rcases hwide with (rfl | rfl) | rfl <;> exact absurd h (by decide)

theorem plain_digits {t : Text} (h : t.all isAsciiDigit = true) : Plain t := fun c hc =>
  not_isWideBreak_of_isAsciiDigit (List.all_eq_true.mp h c hc)

theorem Plain.append {t u : Text} (h : Plain t) (h' : Plain u) : Plain (t ++ u) := by
  intro c hc
  exact (List.mem_append.mp hc).elim (h c) (h' c)

theorem Plain.cons {c : Char} {t : Text} (hc : isWideBreak c = false) (h : Plain t) :
    Plain (c :: t) :=
  List.forall_mem_cons.mpr ⟨hc, h⟩

/-- Digits in front, cut off by their number. -/
theorem plain_split {t : Text} (h : Plain (t.drop (t.takeWhile isAsciiDigit).length)) :
    Plain t := by
  have hwhole : Plain (t.takeWhile isAsciiDigit) :=
    plain_digits (List.all_eq_true.mpr fun _ hc => List.mem_takeWhile_imp hc)
  have hparts : t.takeWhile isAsciiDigit ++ t.drop (t.takeWhile isAsciiDigit).length = t :=
    List.prefix_iff_eq_append.mp (List.takeWhile_prefix _)
  rw [← hparts]
  exact hwhole.append h

theorem plain_of_digits? {n v : Nat} {t rest : Text} (h : digits? n t = some (v, rest))
    (hr : Plain rest) : Plain t := by
  unfold digits? at h
  dsimp only at h
  split at h
  · rename_i hds
    cases h
    rw [← List.take_append_drop n t]
    exact (plain_digits hds.2).append hr
  · cases h

theorem plain_of_date? {t rest : Text} (h : date? t = some rest) (hr : Plain rest) : Plain t := by
  unfold date? at h
  simp only [Option.bind_eq_bind, Option.bind_eq_some_iff] at h
  obtain ⟨⟨y, t₁⟩, hy, h⟩ := h
  refine plain_of_digits? hy ?_
  dsimp only at h
  split at h
  · simp only [Option.bind_eq_some_iff] at h
    obtain ⟨⟨m, t₂⟩, hm, h⟩ := h
    refine .cons rfl (plain_of_digits? hm ?_)
    dsimp only at h
    split at h
    · simp only [Option.bind_eq_some_iff] at h
      obtain ⟨⟨d, t₃⟩, hd, h⟩ := h
      refine .cons rfl (plain_of_digits? hd ?_)
      split at h
      · cases h
        exact hr
      · cases h
    · cases h
  · cases h

theorem plain_of_offset? {t : Text} (h : offset? t = some ()) : Plain t := by
  unfold offset? at h
  split at h
  · exact nofun
  · exact .cons rfl nofun
  · exact .cons rfl nofun
  · rename_i c t _ _
    split at h
    · rename_i hsign
      simp only [Option.bind_eq_bind, Option.bind_eq_some_iff] at h
      obtain ⟨⟨hours, t₁⟩, hh, ⟨minutes, t₂⟩, hm, h⟩ := h
      split at h
      · rename_i hend
        have hnil : t₂ = [] := List.isEmpty_iff.mp hend.2.2
        subst hnil
        have hminutes := plain_of_digits? hm nofun
        refine .cons (by rcases hsign with rfl | rfl | rfl <;> rfl) (plain_of_digits? hh ?_)
        dsimp only at hminutes
        split at hminutes
        · exact .cons rfl hminutes
        · exact hminutes
      · cases h
    · cases h

theorem plain_of_time? {t : Text} (h : time? t = some ()) : Plain t := by
  unfold time? at h
  simp only [Option.bind_eq_bind, Option.bind_eq_some_iff] at h
  obtain ⟨⟨hours, t₁⟩, hh, h⟩ := h
  refine plain_of_digits? hh ?_
  dsimp only at h
  split at h
  · simp only [Option.bind_eq_some_iff] at h
    obtain ⟨⟨minutes, t₂⟩, hm, h⟩ := h
    refine .cons rfl (plain_of_digits? hm ?_)
    dsimp only at h
    split at h
    · cases h
    · split at h
      · simp only [Option.bind_eq_some_iff] at h
        obtain ⟨⟨seconds, t₃⟩, hs, h⟩ := h
        refine .cons rfl (plain_of_digits? hs ?_)
        dsimp only at h
        split at h
        · cases h
        · split at h
          · rename_i c t₄
            split at h
            · rename_i hpoint
              split at h
              · cases h
              · have hsplit := plain_split (plain_of_offset? h)
                exact .cons (by rcases hpoint with rfl | rfl <;> rfl) hsplit
            · exact plain_of_offset? h
          · exact nofun
      · exact plain_of_offset? h
  · cases h

theorem plain_of_count? {t : Text} {n : Int} (h : count? t = some n) : Plain t := by
  unfold count? at h
  simp only [Option.bind_eq_bind] at h
  split at h
  · rename_i hrest
    have hall : ∀ ds, ds.drop (ds.takeWhile isAsciiDigit).length = [] → Plain ds := fun ds hds =>
      plain_split (by rw [hds]; exact nofun)
    split at hrest
    · exact .cons rfl (hall _ hrest)
    · exact .cons rfl (hall _ hrest)
    · exact hall _ hrest
  · rename_i fraction hrest
    have hdigits : fraction.all isAsciiDigit = true := by
      cases hf : fraction.all isAsciiDigit with
      | true => rfl
      | false =>
        simp only [Option.bind_some, hf, Bool.not_false, Bool.or_true, if_true] at h
        cases h
    have hall : ∀ ds, ds.drop (ds.takeWhile isAsciiDigit).length = '.' :: fraction → Plain ds := by
      intro ds hds
      refine plain_split ?_
      rw [hds]
      exact .cons rfl (plain_digits hdigits)
    split at hrest
    · exact .cons rfl (hall _ hrest)
    · exact .cons rfl (hall _ hrest)
    · exact hall _ hrest
  · cases h

theorem not_breaksLines_of_readable {t : Text} (h : readable t = true) : ¬t.BreaksLines := by
  have hplain : Plain t := by
    rw [readable] at h
    split at h
    · rename_i hdate
      exact plain_of_date? hdate nofun
    · rename_i c rest hdate
      rw [Bool.and_eq_true, Option.isSome_iff_exists] at h
      obtain ⟨hc, ⟨⟩, htime⟩ := h
      refine plain_of_date? hdate (.cons ?_ (plain_of_time? htime))
      have hsep : (['T', 't', ' ', '_'].all fun x => !isWideBreak x) = true := by decide
      simpa using List.all_eq_true.mp hsep c (List.contains_iff_mem.mp hc)
    · obtain ⟨n, hcount, -⟩ := Option.any_eq_true _ _ |>.mp h
      exact plain_of_count? hcount
  rintro ⟨c, hc, hwide⟩
  exact absurd hwide (by simp [hplain c hc])

end Outline.Record.Timestamp
