import Outline.Pattern.Matcher

/-!
# Where matches lie

A matcher hands on no state that stands before the one it started from or behind the text
(`Expr.advances_run`): an atom takes up a character that is there, a look around comes back to its
place, and every other pattern only puts such ways together. So a match found by searching ends in
the text and not before it begins (`Compiled.search_bounds`).
-/
namespace Outline.Pattern

/-- The second state stands in a text of the given size, and not before the first. -/
def State.Onward (size : Nat) (s s' : State) : Prop := s.pos ≤ s'.pos ∧ s'.pos ≤ size

theorem State.Onward.refl {size : Nat} {s : State} (h : s.pos ≤ size) : s.Onward size s :=
  ⟨Nat.le_refl _, h⟩

theorem State.Onward.trans {size : Nat} {s₁ s₂ s₃ : State} (h : s₁.Onward size s₂)
    (h' : s₂.Onward size s₃) : s₁.Onward size s₃ :=
  ⟨Nat.le_trans h.1 h'.1, h'.2⟩

namespace Matcher

variable {size : Nat} {m m' : Matcher}

/-- From a place in the text the matcher hands on only states further on in it. -/
def Advances (size : Nat) (m : Matcher) : Prop :=
  ∀ ⦃s : State⦄ ⦃k : Goal⦄ ⦃r : State⦄, s.pos ≤ size → m s k = some r →
    ∃ s', s.Onward size s' ∧ k s' = some r

/-- A state that is handed on to no further goal is what the matcher gives. -/
theorem Advances.onward (hm : Advances size m) {s s' : State} (hs : s.pos ≤ size)
    (h : m s some = some s') : s.Onward size s' := by
  obtain ⟨s'', hon, heq⟩ := hm hs h
  cases heq
  exact hon

theorem advances_stay : Advances size fun s k => k s := fun s _ _ hs h => ⟨s, .refl hs, h⟩

theorem Advances.seq (hm : Advances size m) (hm' : Advances size m') :
    Advances size fun s k => m s fun s' => m' s' k := by
  intro s k r hs h
  obtain ⟨s₁, hon, h⟩ := hm hs h
  obtain ⟨s₂, hon', h⟩ := hm' hon.2 h
  exact ⟨s₂, hon.trans hon', h⟩

theorem Advances.orElse (hm : Advances size m) (hm' : Advances size m') :
    Advances size (orElse m m') := by
  intro s k r hs h
  unfold Matcher.orElse at h
  split at h
  · rename_i hfirst
    cases h
    exact hm hs hfirst
  · exact hm' hs h

/-! ## Repetitions -/

theorem Advances.times (hm : Advances size m) (n : Nat) : Advances size (times m n) := by
  induction n with
  | zero => exact advances_stay
  | succ n ih => exact hm.seq ih

theorem Advances.timesFixed (hm : Advances size m) {n : Nat} {s s' : State} (hs : s.pos ≤ size)
    (h : timesFixed m n s = some s') : s.Onward size s' := by
  induction n generalizing s with
  | zero =>
    cases h
    exact .refl hs
  | succ n ih =>
    rw [Matcher.timesFixed] at h
    split at h
    · rename_i s₁ hround
      have hon := hm.onward hs hround
      exact hon.trans (ih hon.2 h)
    · cases h

theorem Advances.greedy (hm : Advances size m) (most : Option Nat) :
    Advances size (greedy size m most) := by
  intro s k r hs h
  rw [Matcher.greedy] at h
  split at h
  · exact ⟨s, .refl hs, h⟩
  · split at h
    · rename_i hround
      cases h
      obtain ⟨s₁, hon, hnext⟩ := hm hs hround
      split at hnext
      · obtain ⟨s₂, hon', hk⟩ := hm.greedy _ hon.2 hnext
        exact ⟨s₂, hon.trans hon', hk⟩
      · exact ⟨s₁, hon, hnext⟩
    · exact ⟨s, .refl hs, h⟩
termination_by s => size - s.pos
decreasing_by omega

theorem Advances.lazy (hm : Advances size m) (most : Option Nat) :
    Advances size (lazy size m most) := by
  intro s k r hs h
  rw [Matcher.lazy] at h
  split at h
  · rename_i hdone
    cases h
    exact ⟨s, .refl hs, hdone⟩
  · split at h
    · cases h
    · obtain ⟨s₁, hon, hnext⟩ := hm hs h
      split at hnext
      · obtain ⟨s₂, hon', hk⟩ := hm.lazy _ hon.2 hnext
        exact ⟨s₂, hon.trans hon', hk⟩
      · exact ⟨s₁, hon, hnext⟩
termination_by s => size - s.pos
decreasing_by omega

theorem Advances.possessive (hm : Advances size m) (most : Option Nat) {s : State}
    (hs : s.pos ≤ size) : s.Onward size (possessive size m most s) := by
  rw [Matcher.possessive]
  split
  · exact .refl hs
  · split
    · rename_i s₁ hround
      have hon := hm.onward hs hround
      split
      · exact hon.trans (hm.possessive _ hon.2)
      · exact hon
    · exact .refl hs
termination_by size - s.pos
decreasing_by omega

theorem Advances.repeated (hm : Advances size m) (greed : Greed) (least : Nat)
    (most : Option Nat) : Advances size (repeated size greed least most m) := by
  cases greed with
  | greedy => exact (hm.times least).seq (hm.greedy _)
  | lazy => exact (hm.times least).seq (hm.lazy _)
  | possessive =>
    intro s k r hs h
    dsimp only [Matcher.repeated] at h
    split at h
    · rename_i s₁ hleast
      have hon := hm.timesFixed hs hleast
      exact ⟨_, hon.trans (hm.possessive _ hon.2), h⟩
    · cases h

end Matcher

/-! ## Patterns -/

variable {text : Array Char}

/-- What is repeated lies in the text. -/
theorem le_size_of_repeatsAt {flags : Flags} {a b i : Nat} (hi : i ≤ text.size)
    (h : repeatsAt text flags a b i = true) : i + (b - a) ≤ text.size := by
  by_cases hab : b - a = 0
  · omega
  · -- the last of the characters that are compared is there
    have hlast := List.all_eq_true.mp h (b - a - 1) (List.mem_range.mpr (by omega))
    split at hlast
    · rename_i hthere
      have := (Array.getElem?_eq_some_iff.mp hthere).1
      omega
    · cases hlast

theorem Atom.advances_run (flags : Flags) (a : Atom) : (a.run text flags).Advances text.size := by
  intro s k r hs h
  unfold Atom.run at h
  split at h
  · split at h
    · exact ⟨s, .refl hs, h⟩
    · cases h
  · split at h
    · split at h
      · rename_i hrepeats
        exact ⟨_, ⟨Nat.le_add_right .., le_size_of_repeatsAt hs hrepeats⟩, h⟩
      · cases h
    · cases h
  · split at h
    · rename_i hc
      have hthere := (Array.getElem?_eq_some_iff.mp hc).1
      split at h
      · exact ⟨{ s with pos := s.pos + 1 }, ⟨Nat.le_succ _, hthere⟩, h⟩
      · cases h
    · cases h

/-- Whatever is seen by looking around, a match goes on from where it stood. -/
theorem onward_of_look {size : Nat} {positive : Bool} {seen : Option State} {s r : State} {k : Goal}
    (hs : s.pos ≤ size)
    (h : (match seen with
      | some s' => if positive then k { s' with pos := s.pos } else none
      | none => if positive then none else k s) = some r) :
    ∃ s', s.Onward size s' ∧ k s' = some r := by
  split at h
  · rename_i s'
    split at h
    · exact ⟨{ s' with pos := s.pos }, ⟨Nat.le_refl _, hs⟩, h⟩
    · cases h
  · split at h
    · cases h
    · exact ⟨s, .refl hs, h⟩

theorem Expr.advances_run (e : Expr) (flags : Flags) :
    (e.run text flags).Advances text.size := by
  induction e generalizing flags with
  | empty => exact Matcher.advances_stay
  | atom a => exact a.advances_run flags
  | seq p q ihp ihq => exact (ihp flags).seq (ihq flags)
  | alt p q ihp ihq => exact (ihp flags).orElse (ihq flags)
  | capture g p ih =>
    intro s k r hs h
    let begun : State := { s with opened := s.opened.set (g - 1) (some s.pos) }
    obtain ⟨s', hon, h⟩ := ih flags (show begun.pos ≤ text.size from hs) h
    exact ⟨{ s' with closed := s'.closed.set (g - 1) (some s'.pos) }, hon, h⟩
  | «scoped» on off p ih => exact ih _
  | atomic p ih =>
    intro s k r hs h
    dsimp only [Expr.run] at h
    split at h
    · rename_i s' hp
      exact ⟨s', (ih flags).onward hs hp, h⟩
    · cases h
  | repeated greed least most p ih => exact (ih flags).repeated greed least most
  | lookAhead positive p ih =>
    intro s k r hs h
    exact onward_of_look hs h
  | lookBehind positive back p ih =>
    intro s k r hs h
    dsimp only [Expr.run] at h
    split at h
    · exact onward_of_look hs h
    · split at h
      · cases h
      · exact ⟨s, .refl hs, h⟩
  | ifGroup g p q ihp ihq =>
    intro s k r hs h
    dsimp only [Expr.run] at h
    split at h
    · exact ihp flags hs h
    · exact ihq flags hs h

/-! ## Searching -/

namespace Compiled

variable {c : Compiled}

theorem matchAt_bounds {start stop : Nat} (hstart : start ≤ text.size)
    (h : c.matchAt text start = some stop) : start ≤ stop ∧ stop ≤ text.size := by
  obtain ⟨s, hrun, rfl⟩ := Option.map_eq_some_iff.mp h
  exact (c.expr.advances_run c.flags).onward (s := State.start c.groups start) hstart hrun

theorem searchFrom_bounds {start n a b : Nat} (hn : start + n ≤ text.size + 1)
    (h : c.searchFrom text start n = some (a, b)) : a ≤ b ∧ b ≤ text.size := by
  induction n generalizing start with
  | zero => cases h
  | succ n ih =>
    rw [searchFrom] at h
    split at h
    · rename_i stop hmatch
      cases h
      exact matchAt_bounds (by omega) hmatch
    · exact ih (by omega) h

theorem search_bounds {t : Text} {a b : Nat} (h : c.search t = some (a, b)) :
    a ≤ b ∧ b ≤ t.length := by
  simpa using searchFrom_bounds (by simp) h

end Compiled

end Outline.Pattern
