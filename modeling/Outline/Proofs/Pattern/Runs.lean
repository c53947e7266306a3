import Outline.Pattern.Matcher

/-!
# Repeating one character

What is repeated takes up one character with a property each time, so the rounds go along the text
as far as its characters have the property, and a match may go on behind any of them. Both kinds of
repetition try these places in turn: a lazy one from the nearest (`lazy_one`), a greedy one from the
farthest (`greedy_one`), which it keeps where nothing else is to be matched (`greedy_one_some`).
-/
namespace Outline.Pattern.Matcher

variable {t : Text} {p : Char → Bool} {s : State} {k : Goal}

def one (t : Text) (p : Char → Bool) : Matcher := fun s k =>
  match t[s.pos]? with
  | some c => if p c then k { s with pos := s.pos + 1 } else none
  | none => none

/-- An atom that looks at a character is the way past it. -/
theorem run_eq_one {a : Atom} {flags : Flags} (hanchor : ∀ b, a ≠ .anchor b)
    (hbackref : ∀ g, a ≠ .backref g) (h : ∀ c : Char, a.accepts flags c.toNat = p c) :
    (Expr.atom a).run t.toArray flags = one t p := by
  funext s k
  cases a with
  | anchor b => exact absurd rfl (hanchor b)
  | backref g => exact absurd rfl (hbackref g)
  | _ =>
    rw [Expr.run, Atom.run, one, List.getElem?_toArray]
    · cases t[s.pos]? <;> simp [h]
    · exact hanchor
    · exact hbackref

theorem one_of_getElem? {c : Char} (hc : t[s.pos]? = some c) (hp : p c = true) :
    one t p s k = k { s with pos := s.pos + 1 } := by
  rw [one, hc]
  exact if_pos hp

theorem one_char (t : Text) (c : Char) (s : State) (k : Goal) :
    one t (· == c) s k = if t[s.pos]? = some c then k { s with pos := s.pos + 1 } else none := by
  rw [one]
  cases t[s.pos]? <;> simp

/-- How many characters from the front of a text may be passed that have a property. -/
def strides (p : Char → Bool) : Text → List Nat
  | [] => [0]
  | c :: u => if p c then 0 :: (strides p u).map (· + 1) else [0]

theorem mem_strides {n : Nat} {u : Text} :
    n ∈ strides p u ↔ n ≤ u.length ∧ ∀ c ∈ u.take n, p c = true := by
  induction u generalizing n with
  | nil => simp [strides]
  | cons c u ih =>
    cases n with
    | zero => cases hp : p c <;> simp [strides, hp]
    | succ n => cases hp : p c <;> simp [strides, hp, ih]

theorem drop_eq_cons_iff {c : Char} {u : Text} {n : Nat} :
    t.drop n = c :: u ↔ t[n]? = some c ∧ t.drop (n + 1) = u := by
  constructor
  · intro h
    exact ⟨by rw [← List.head?_drop, h, List.head?_cons],
      by rw [← List.tail_drop, h, List.tail_cons]⟩
  · rintro ⟨hc, rfl⟩
    rw [List.drop_eq_getElem?_toList_append, hc]
    rfl

/-- Places are counted from the next one. -/
theorem findSome?_next (l : List Nat) :
    ((l.map (· + 1)).findSome? fun n => k { s with pos := s.pos + n }) =
      l.findSome? fun n => k { s with pos := s.pos + 1 + n } := by
  rw [List.findSome?_map]
  simp only [Function.comp_def, Nat.add_assoc, Nat.add_comm 1]

/-- From the nearest place to the farthest. -/
theorem lazy_one : lazy t.length (one t p) none s k =
    (strides p (t.drop s.pos)).findSome? fun n => k { s with pos := s.pos + n } := by
  generalize hu : t.drop s.pos = u
  induction u generalizing s with
  | nil =>
    have hend : t[s.pos]? = none := List.getElem?_eq_none (List.drop_eq_nil_iff.mp hu)
    rw [lazy, strides, List.findSome?_singleton]
    cases hk : k s <;> simp [one, hend]
  | cons c u ih =>
    obtain ⟨hc, hrest⟩ := drop_eq_cons_iff.mp hu
    have hlen : s.pos + 1 ≤ t.length := (List.getElem?_eq_some_iff.mp hc).1
    rw [lazy, strides]
    cases hp : p c with
    | false => cases hk : k s <;> simp [one, hc, hp, hk]
    | true =>
      have hnext := ih (s := { s with pos := s.pos + 1 }) hrest
      rw [one_of_getElem? hc hp, if_pos rfl, List.findSome?_cons, findSome?_next, ← hnext]
      cases hk : k s <;> simp [hlen]

/-- From the farthest place to the nearest. -/
theorem greedy_one : greedy t.length (one t p) none s k =
    (strides p (t.drop s.pos)).reverse.findSome? fun n => k { s with pos := s.pos + n } := by
  generalize hu : t.drop s.pos = u
  induction u generalizing s with
  | nil =>
    have hend : t[s.pos]? = none := List.getElem?_eq_none (List.drop_eq_nil_iff.mp hu)
    rw [greedy, strides, List.reverse_singleton, List.findSome?_singleton]
    simp [one, hend]
  | cons c u ih =>
    obtain ⟨hc, hrest⟩ := drop_eq_cons_iff.mp hu
    have hlen : s.pos + 1 ≤ t.length := (List.getElem?_eq_some_iff.mp hc).1
    rw [greedy, strides]
    cases hp : p c with
    | false => simp [one, hc, hp]
    | true =>
      have hnext := ih (s := { s with pos := s.pos + 1 }) hrest
      rw [one_of_getElem? hc hp, if_pos rfl, List.reverse_cons, ← List.map_reverse,
        List.findSome?_append, findSome?_next, ← hnext]
      cases hg : greedy t.length (one t p) none { s with pos := s.pos + 1 } k <;> simp [hg, hlen]

/-- The farthest place is the one in front of the first character without the property. -/
theorem getLast?_strides {u v : Text} (hu : ∀ c ∈ u, p c = true) (hv : v.head?.any p = false) :
    (strides p (u ++ v)).getLast? = some u.length := by
  induction u with
  | nil =>
    cases v with
    | nil => rfl
    | cons c v =>
      have hc : p c = false := hv
      simp [strides, hc]
  | cons c u ih =>
    obtain ⟨hc, hu⟩ := List.forall_mem_cons.mp hu
    rw [List.cons_append, strides, if_pos hc, List.getLast?_cons, List.getLast?_map, ih hu]
    rfl

/-- Where nothing else is to be matched, the farthest place is where the match ends. -/
theorem greedy_one_some {u v : Text} (ht : t.drop s.pos = u ++ v) (hu : ∀ c ∈ u, p c = true)
    (hv : v.head?.any p = false) :
    greedy t.length (one t p) none s some = some { s with pos := s.pos + u.length } := by
  obtain ⟨nearer, hstrides⟩ := List.getLast?_eq_some_iff.mp (getLast?_strides hu hv)
  rw [greedy_one, ht, hstrides, List.reverse_append]
  rfl

end Outline.Pattern.Matcher
