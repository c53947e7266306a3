/-!
# Computations that can fail

What a computation of several steps gives, or how it fails, in terms of its steps.
-/
namespace Outline

variable {ε α β : Type}

theorem bind_eq_ok {x : Except ε α} {f : α → Except ε β} {b : β} :
    (x >>= f) = .ok b ↔ ∃ a, x = .ok a ∧ f a = .ok b := by
  cases x <;> simp [bind, Except.bind]

theorem bind_eq_error {x : Except ε α} {f : α → Except ε β} {e : ε} :
    (x >>= f) = .error e ↔ x = .error e ∨ ∃ a, x = .ok a ∧ f a = .error e := by
  cases x <;> simp [bind, Except.bind]

/-- A computation over a list fails as one of its elements does. -/
theorem exists_of_mapM_error {f : α → Except ε β} {as : List α} {e : ε}
    (h : as.mapM f = .error e) : ∃ a ∈ as, f a = .error e := by
  induction as with
  | nil => cases h
  | cons a as ih =>
    rw [List.mapM_cons] at h
    rcases bind_eq_error.mp h with ha | ⟨b, -, h⟩
    · exact ⟨a, List.mem_cons_self .., ha⟩
    · rcases bind_eq_error.mp h with has | ⟨bs, -, h⟩
      · obtain ⟨a', ha', hf⟩ := ih has
        exact ⟨a', List.mem_cons_of_mem _ ha', hf⟩
      · cases h

/-- A computation over a list gives something only if it does for each element. -/
theorem exists_of_mapM_ok {f : α → Except ε β} {as : List α} {bs : List β}
    (h : as.mapM f = .ok bs) : ∀ a ∈ as, ∃ b, f a = .ok b := by
  induction as generalizing bs with
  | nil => exact nofun
  | cons a as ih =>
    rw [List.mapM_cons] at h
    obtain ⟨b, hb, h⟩ := bind_eq_ok.mp h
    obtain ⟨later, hlater, -⟩ := bind_eq_ok.mp h
    exact List.forall_mem_cons.mpr ⟨⟨b, hb⟩, ih hlater⟩

/-- A computation over a list whose elements all need one and the same result. -/
theorem mapM_same_eq_ok {γ : Type} {x : Except ε γ} {f : γ → α → β} {as : List α} {bs : List β}
    (default : γ) :
    (as.mapM fun a => do return f (← x) a) = .ok bs ↔
      ∃ c, (as ≠ [] → x = .ok c) ∧ bs = as.map (f c) := by
  induction as generalizing bs with
  | nil =>
    constructor
    · intro h
      cases h
      exact ⟨default, fun h => absurd rfl h, rfl⟩
    · rintro ⟨-, -, rfl⟩
      rfl
  | cons a as ih =>
    rw [List.mapM_cons]
    constructor
    · intro h
      obtain ⟨b, hb, h⟩ := bind_eq_ok.mp h
      obtain ⟨later, hlater, h⟩ := bind_eq_ok.mp h
      obtain ⟨c, hc, hb⟩ := bind_eq_ok.mp hb
      obtain ⟨c', hc', rfl⟩ := ih.mp hlater
      cases hb
      cases h
      refine ⟨c, fun _ => hc, ?_⟩
      cases as with
      | nil => rfl
      | cons =>
        rw [hc' (List.cons_ne_nil _ _)] at hc
        cases hc
        rfl
    · rintro ⟨c, hc, rfl⟩
      have hx := hc (List.cons_ne_nil _ _)
      exact bind_eq_ok.mpr ⟨f c a, bind_eq_ok.mpr ⟨c, hx, rfl⟩,
        bind_eq_ok.mpr ⟨as.map (f c), ih.mpr ⟨c, fun _ => hx, rfl⟩, rfl⟩⟩

theorem toOption_eq_some {x : Except ε α} {a : α} : x.toOption = some a ↔ x = .ok a := by
  cases x <;> simp [Except.toOption]

end Outline
