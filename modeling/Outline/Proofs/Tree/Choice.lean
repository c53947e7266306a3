import Outline.Proofs.Tree.Effect

/-!
# Which symbol takes a hit

A root is searched from top to bottom: on the way down the first symbol that starts on the line
takes the hit, on the way up the first that holds it (`Chosen`, `Inserts.chosen`). So a leaf is hung
under an innermost symbol that holds the line where no symbol starts on it; but the symbol that is
marked is the outermost that starts on the line, and a symbol in front of it that holds the line is
met before it. `insertMatch_choice` says when the innermost is marked all the same,
`insertMatch_astray` shows a class on whose line a property stands.
-/
namespace Outline

namespace Path

/-- The first path leads to a node in front of the second's, neither above nor below it. -/
def LeftOf : Path → Path → Prop
  | i :: p, j :: q => i < j ∨ i = j ∧ LeftOf p q
  | _, _ => False

@[simp] theorem not_leftOf_nil (p : Path) : ¬LeftOf p [] := by cases p <;> exact id

@[simp] theorem not_nil_leftOf (p : Path) : ¬LeftOf [] p := id

@[simp] theorem cons_leftOf_cons (i j : Nat) (p q : Path) :
    LeftOf (i :: p) (j :: q) ↔ i < j ∨ i = j ∧ LeftOf p q := Iff.rfl

/-- Of two paths one leads in front of the other or is above it, unless they are the same. -/
theorem leftOf_or_prefix (p q : Path) : LeftOf p q ∨ LeftOf q p ∨ p <+: q ∨ q <+: p := by
  induction p generalizing q with
  | nil => simp
  | cons i p ih =>
    cases q with
    | nil => simp
    | cons j q =>
      simp only [cons_leftOf_cons, List.cons_prefix_cons]
      rcases Nat.lt_trichotomy i j with h | rfl | h
      · exact .inl (.inl h)
      · simpa using ih q
      · exact .inr (.inl (.inl h))

end Path

namespace Tree

/-- The symbol at a path, if one stands there. -/
def symbolAt? (t : Tree) (p : Path) : Option Symbol := (t.node? p).bind (·.symbol?)

theorem symbolAt?_eq_some {t : Tree} {p : Path} {s : Symbol} :
    t.symbolAt? p = some s ↔ ∃ f, t.node? p = some (.symbol s f) := by
  unfold symbolAt?
  rcases t.node? p with _ | ⟨s', f⟩ | ⟨l, f⟩ <;> simp [Node.symbol?]

@[simp] theorem symbolAt?_root (t : Tree) : t.symbolAt? [] = none := by simp [symbolAt?]

@[simp] theorem symbolAt?_nil (p : Path) : nil.symbolAt? p = none := by simp [symbolAt?]

@[simp] theorem symbolAt?_symbol_zero (s f cs rest) (p : Path) :
    (symbol s f cs rest).symbolAt? (0 :: p) = if p = [] then some s else cs.symbolAt? p := by
  cases p <;> rfl

@[simp] theorem symbolAt?_symbol_succ (s f cs rest) (i : Nat) (p : Path) :
    (symbol s f cs rest).symbolAt? ((i + 1) :: p) = rest.symbolAt? (i :: p) := rfl

@[simp] theorem symbolAt?_leaf_zero (l f rest) (p : Path) :
    (leaf l f rest).symbolAt? (0 :: p) = none := by cases p <;> rfl

@[simp] theorem symbolAt?_leaf_succ (l f rest) (i : Nat) (p : Path) :
    (leaf l f rest).symbolAt? ((i + 1) :: p) = rest.symbolAt? (i :: p) := rfl

/-- What no symbol satisfies the one at a path does not. -/
theorem eq_false_of_anySymbol {P : Symbol → Bool} {t : Tree} (h : t.anySymbol P = false) {p : Path}
    {s : Symbol} (hp : t.symbolAt? p = some s) : P s = false := by
  obtain ⟨f, hf⟩ := symbolAt?_eq_some.mp hp
  by_contra hs
  rw [Bool.not_eq_false] at hs
  rw [anySymbol_iff.mpr ⟨p, s, f, hf, hs⟩] at h
  cases h

/-- Where a hit is not taken no symbol qualifies. -/
theorem qualifies_of_not_taken {a : Arrival} {t : Tree} (h : insertFirst a t = none) {p : Path}
    {s : Symbol} (hp : t.symbolAt? p = some s) : a.qualifies s = false :=
  eq_false_of_anySymbol (by rw [← isSome_insertFirst, h]; rfl) hp

/-! ## The symbol that is chosen -/

/-- A symbol is met first: it qualifies and none in front of it does, none above it starts on the
line, and if it does not do so itself, none below it qualifies. -/
structure Chosen (a : Arrival) (t : Tree) (p : Path) (s : Symbol) : Prop where
  here : t.symbolAt? p = some s
  qualifies : a.qualifies s = true
  left : ∀ q s', t.symbolAt? q = some s' → q.LeftOf p → a.qualifies s' = false
  above : ∀ q s', t.symbolAt? q = some s' → q <+: p → q ≠ p → a.startsAt s' = false
  below : a.startsAt s = false →
    ∀ q s', t.symbolAt? q = some s' → p <+: q → q ≠ p → a.qualifies s' = false

/-- A symbol has the property and none below it does. -/
structure Deepest (P : Symbol → Bool) (t : Tree) (p : Path) (s : Symbol) : Prop where
  here : t.symbolAt? p = some s
  holds : P s = true
  below : ∀ q s', t.symbolAt? q = some s' → p <+: q → q ≠ p → P s' = false

/-- A symbol starts on the line of the hit, none above or below it does, and none in front of it
starts on the line or holds it. -/
def Reaches (a : Arrival) (t : Tree) : Prop :=
  ∃ p s, Deepest a.startsAt t p s ∧
    (∀ q s', t.symbolAt? q = some s' → q <+: p → q ≠ p → a.startsAt s' = false) ∧
    ∀ q s', t.symbolAt? q = some s' → q.LeftOf p → a.qualifies s' = false

theorem startsAt_of_not_qualifies {a : Arrival} {s : Symbol} (h : a.qualifies s = false) :
    a.startsAt s = false := (Bool.or_eq_false_iff.mp h).1

theorem fitsIn_of_not_qualifies {a : Arrival} {s : Symbol} (h : a.qualifies s = false) :
    a.fitsIn s = false := (Bool.or_eq_false_iff.mp h).2

section

variable {a : Arrival} {s s₀ : Symbol} {f : Flags} {t u cs rest : Tree} {j : Nat} {p : Path}

theorem Chosen.ne_nil (h : Chosen a t p s) : p ≠ [] := by
  rintro rfl
  simpa using h.here

/-- Nothing stands in front of the first sibling or above it. -/
theorem Chosen.first (hs : a.qualifies s = true)
    (hcs : a.startsAt s = false → ∀ q s', cs.symbolAt? q = some s' → a.qualifies s' = false) :
    Chosen a (symbol s f cs rest) [0] s where
  here := rfl
  qualifies := hs
  left q s' _ hleft := by
    rcases q with _ | ⟨i, q⟩ <;> simp at hleft
  above q s' hq hpre hne := by
    rcases q with _ | ⟨i, q⟩
    · simp at hq
    · simp only [List.cons_prefix_cons, List.prefix_nil] at hpre
      obtain ⟨rfl, rfl⟩ := hpre
      exact absurd rfl hne
  below h q s' hq hpre hne := by
    obtain ⟨r, rfl⟩ := hpre
    have hr : r ≠ [] := by rintro rfl; exact hne rfl
    rw [List.singleton_append, symbolAt?_symbol_zero, if_neg hr] at hq
    exact hcs h r s' hq

/-- The choice below a symbol that does not start on the line is the choice. -/
theorem Chosen.deeper (hs : a.startsAt s = false) (h : Chosen a cs p s₀) :
    Chosen a (symbol s f cs rest) (0 :: p) s₀ where
  here := by rw [symbolAt?_symbol_zero, if_neg h.ne_nil, h.here]
  qualifies := h.qualifies
  left q s' hq hleft := by
    rcases q with _ | ⟨_ | i, q⟩
    · simp at hleft
    · have hleft : Path.LeftOf q p := by simpa using hleft
      have hne : q ≠ [] := by rintro rfl; simp at hleft
      rw [symbolAt?_symbol_zero, if_neg hne] at hq
      exact h.left q s' hq hleft
    · simp at hleft
  above q s' hq hpre hne := by
    rcases q with _ | ⟨_ | i, q⟩
    · simp at hq
    · rw [symbolAt?_symbol_zero] at hq
      split at hq
      · cases hq
        exact hs
      · exact h.above q s' hq (List.cons_prefix_cons.mp hpre).2 (fun e => hne (by rw [e]))
    · simp at hpre
  below hs₀ q s' hq hpre hne := by
    obtain ⟨r, rfl⟩ := hpre
    rw [List.cons_append, symbolAt?_symbol_zero, if_neg (by simp [h.ne_nil])] at hq
    exact h.below hs₀ (p ++ r) s' hq (List.prefix_append p r)
      (fun e => hne (by rw [List.cons_append, e]))

/-- A first sibling where nothing qualifies is passed. -/
theorem Chosen.after (h : Chosen a t (j :: p) s₀)
    (hfirst : ∀ q s', u.symbolAt? (0 :: q) = some s' → a.qualifies s' = false)
    (ht : ∀ m q, u.symbolAt? ((m + 1) :: q) = t.symbolAt? (m :: q)) :
    Chosen a u ((j + 1) :: p) s₀ where
  here := by rw [ht, h.here]
  qualifies := h.qualifies
  left q s' hq hleft := by
    rcases q with _ | ⟨_ | i, q⟩
    · simp at hleft
    · exact hfirst q s' hq
    · rw [ht] at hq
      exact h.left (i :: q) s' hq (by simpa using hleft)
  above q s' hq hpre hne := by
    rcases q with _ | ⟨_ | i, q⟩
    · simp at hq
    · exact startsAt_of_not_qualifies (hfirst q s' hq)
    · rw [ht] at hq
      exact h.above (i :: q) s' hq (by simpa using hpre) (by simpa using hne)
  below hs₀ q s' hq hpre hne := by
    rcases q with _ | ⟨_ | i, q⟩
    · simp at hq
    · exact hfirst q s' hq
    · rw [ht] at hq
      exact h.below hs₀ (i :: q) s' hq (by simpa using hpre) (by simpa using hne)

end

/-- Siblings that took a hit took it at the symbol that is met first. -/
theorem Inserts.chosen {a : Arrival} {t t' : Tree} (h : Inserts a t t') :
    ∃ st p, st.entering = a.startsAt st.symbol ∧ Chosen a t p st.symbol ∧ Writes a st p t t' := by
  induction h with
  | @start s f cs rest hs =>
    refine ⟨⟨[0], s, true⟩, [0], hs.symm, .first ?_ ?_, .start rfl⟩
    · rw [Arrival.qualifies, hs, Bool.true_or]
    · intro h
      rw [hs] at h
      cases h
  | @deeper s f cs cs' rest hs _ ih =>
    obtain ⟨st, p, he, hc, hw⟩ := ih
    exact ⟨st, 0 :: p, he, hc.deeper hs, hw.below hc.ne_nil⟩
  | @within s f cs rest hs hc hf =>
    refine ⟨⟨[0], s, false⟩, [0], hs.symm, .first ?_ ?_, .within rfl⟩
    · rw [Arrival.qualifies, hf, Bool.or_true]
    · exact fun _ q s' => qualifies_of_not_taken hc
  | @next s f cs rest rest' hs hc hf _ ih =>
    obtain ⟨st, p, he, hch, hw⟩ := ih
    obtain ⟨j, p, rfl⟩ := List.exists_cons_of_ne_nil hch.ne_nil
    refine ⟨st, (j + 1) :: p, he, hch.after (fun q s' hq => ?_) (fun _ _ => rfl),
      hw.after (fun _ => rfl) (fun _ _ => rfl) (fun _ _ => rfl) rfl⟩
    rw [symbolAt?_symbol_zero] at hq
    split at hq
    · cases hq
      rw [Arrival.qualifies, hs, hf, Bool.or_false]
    · exact qualifies_of_not_taken hc hq
  | @pass l f rest rest' _ ih =>
    obtain ⟨st, p, he, hch, hw⟩ := ih
    obtain ⟨j, p, rfl⟩ := List.exists_cons_of_ne_nil hch.ne_nil
    refine ⟨st, (j + 1) :: p, he, hch.after (fun q s' hq => ?_) (fun _ _ => rfl),
      hw.after (fun _ => rfl) (fun _ _ => rfl) (fun _ _ => rfl) rfl⟩
    simp at hq

section

variable {a : Arrival} {t : Tree} {p : Path} {s : Symbol}

/-- Where no symbol starts on the line, the one that is met first is an innermost that holds it. -/
theorem Chosen.deepest_fitsIn (h : Chosen a t p s) (hnone : t.anySymbol a.startsAt = false) :
    Deepest a.fitsIn t p s where
  here := h.here
  holds := by
    have hq := h.qualifies
    rwa [Arrival.qualifies, eq_false_of_anySymbol hnone h.here, Bool.false_or] at hq
  below q s' hq hpre hne :=
    fitsIn_of_not_qualifies (h.below (eq_false_of_anySymbol hnone h.here) q s' hq hpre hne)

/-- The symbol that is met first is an innermost on the line exactly if some symbol is reached. -/
theorem Chosen.deepest_startsAt_iff (h : Chosen a t p s) :
    Deepest a.startsAt t p s ↔ Reaches a t := by
  refine ⟨fun hd => ⟨p, s, hd, h.above, h.left⟩, ?_⟩
  rintro ⟨p', s', hd, habove, hleft⟩
  have hs' : a.qualifies s' = true := by rw [Arrival.qualifies, hd.holds, Bool.true_or]
  -- neither can be met without the other being in its way
  have heq : p' = p := by
    by_contra hne
    rcases p.leftOf_or_prefix p' with hp | hp | hp | hp
    · simpa [h.qualifies] using hleft p s h.here hp
    · simpa [hs'] using h.left p' s' hd.here hp
    · cases hs : a.startsAt s with
      | true => simpa [hs] using habove p s h.here hp (Ne.symm hne)
      | false => simpa [hs'] using h.below hs p' s' hd.here hp hne
    · simpa [hd.holds] using h.above p' s' hd.here hp hne
  subst heq
  cases h.here.symm.trans hd.here
  exact hd

end

/-! ## What the choice is -/

/-- **Which symbol takes a hit.** In a root that takes a hit one symbol takes it: it is marked if it
starts on the line and gets the one new leaf if not. Where no symbol starts on the line, it is an
innermost of those that hold it. It is an innermost of those that start on the line if and only if
one of these is reached. -/
theorem insertMatch_choice (a : Arrival) (t : Tree) (i : Nat) (h : (t.rootAt i).takes a = true) :
    ∃ st p, (t.rootAt i).symbolAt? p = some st.symbol ∧ st.entering = a.startsAt st.symbol ∧
      Writes a st p (t.rootAt i) ((t.insertMatch a).rootAt i) ∧
      ((t.rootAt i).anySymbol a.startsAt = false → Deepest a.fitsIn (t.rootAt i) p st.symbol) ∧
      (Deepest a.startsAt (t.rootAt i) p st.symbol ↔ Reaches a (t.rootAt i)) := by
  rw [rootAt_insertMatch_eq]
  generalize t.rootAt i = u at h ⊢
  rw [takes_eq, ← isSome_insertFirst] at h
  obtain ⟨u', hu⟩ := Option.isSome_iff_exists.mp h
  obtain ⟨st, p, he, hc, hw⟩ := (inserts_of_insertFirst hu).chosen
  rw [hu]
  exact ⟨st, p, hc.here, he, hw, hc.deepest_fitsIn, hc.deepest_startsAt_iff⟩

def oneLineClass : Tree :=
  symbol ⟨"C".toList, .class, .ofCoords 0 0 0 14, none, 0⟩ {}
    (symbol ⟨"x".toList, .property, .ofCoords 0 9 0 14, none, 1⟩ {} nil nil) nil

/-- The hit of `x` on this line. -/
def oneLineHit (kinds : Option (List Kind)) : Arrival where
  leaf := ⟨Line.whole 0 "class C: x = 1".toList, ⟨0, [⟨9, 1⟩]⟩⟩
  kinds := kinds

theorem symbolAt?_oneLineClass {p : Path} {s : Symbol} (h : oneLineClass.symbolAt? p = some s) :
    p = [0] ∧ s.kind = .class ∨ p = [0, 0] ∧ s.kind = .property := by
  unfold oneLineClass at h
  obtain rfl | rfl | ⟨j, q, rfl⟩ | ⟨m, q, rfl⟩ := path_cases p
  · simp at h
  · cases h
    exact .inl ⟨rfl, rfl⟩
  · rw [symbolAt?_symbol_zero, if_neg (List.cons_ne_nil _ _)] at h
    rcases j with _ | j
    · rw [symbolAt?_symbol_zero] at h
      split at h
      · rename_i hq
        cases h
        exact .inr ⟨by rw [hq], rfl⟩
      · simp at h
    · simp at h
  · simp at h

/-- Among properties the hit reaches the property, which is marked. -/
theorem insertMatch_choice_sample :
    (oneLineClass.rootAt 0).takes (oneLineHit (some [.property])) = true ∧
      ∃ st p, st.entering = true ∧
        Deepest (oneLineHit (some [.property])).startsAt oneLineClass p st.symbol ∧
        Writes (oneLineHit (some [.property])) st p oneLineClass
          (oneLineClass.insertMatch (oneLineHit (some [.property]))) := by
  have hclass : ∀ s : Symbol, s.kind = .class →
      (oneLineHit (some [.property])).qualifies s = false := by
    intro s hs
    simp [Arrival.qualifies, Arrival.startsAt, Arrival.fitsIn, Arrival.admits, oneLineHit, hs]
  have hreach : Reaches (oneLineHit (some [.property])) oneLineClass := by
    refine ⟨[0, 0], _, ⟨rfl, by decide, fun q s hq hpre hne => ?_⟩, fun q s hq hpre hne => ?_,
      fun q s hq hleft => ?_⟩
    · obtain ⟨rfl, -⟩ | ⟨rfl, -⟩ := symbolAt?_oneLineClass hq <;> simp at hpre hne
    · obtain ⟨-, hs⟩ | ⟨rfl, -⟩ := symbolAt?_oneLineClass hq
      · exact startsAt_of_not_qualifies (hclass s hs)
      · exact absurd rfl hne
    · obtain ⟨rfl, -⟩ | ⟨rfl, -⟩ := symbolAt?_oneLineClass hq <;> simp at hleft
  obtain ⟨st, p, -, he, hw, -, hd⟩ :=
    insertMatch_choice (oneLineHit (some [.property])) oneLineClass 0 (by decide)
  have hdeep := hd.mpr hreach
  exact ⟨by decide, st, p, he.trans hdeep.holds, hdeep, hw⟩

/-- Among all kinds the class is marked, and the property on its line, which is below it, is not. -/
theorem insertMatch_astray :
    ((oneLineClass.rootAt 0).takes (oneLineHit none) = true ∧
      (oneLineClass.rootAt 0).anySymbol (oneLineHit none).startsAt = true) ∧
      ¬∃ p s f, Deepest (oneLineHit none).startsAt oneLineClass p s ∧
        (oneLineClass.insertMatch (oneLineHit none)).node? p = some (.symbol s f) ∧
        f.result = true := by
  refine ⟨by decide, ?_⟩
  rintro ⟨p, s, f, hd, hnode, hf⟩
  obtain ⟨rfl, -⟩ | ⟨rfl, -⟩ := symbolAt?_oneLineClass hd.here
  · have hx := hd.below [0, 0] _ rfl (by simp) (by simp)
    revert hx
    decide
  · cases hnode
    cases hf

end Tree

end Outline
