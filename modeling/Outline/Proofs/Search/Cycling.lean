import Mathlib.Data.List.Basic
import Outline.Proofs.Search.Tracking

/-!
# Moving around the results

From a row in the list the next result is the first one behind it or else the first of all, and the
previous one the last in front of it or else the last of all (`cycle_listed`). On the results
themselves the two undo each other (`cycle_previous_next`, `cycle_next_previous`), and as many steps
as there are results lead once around (`walk_around`). All that is asked of the list is that no row
is in it twice, which holds of every list that a browser keeps.
-/
namespace Outline.Navigation

variable {t : Tree} {items : List Item}

/-- The rows listed that are results. -/
def results (t : Tree) (items : List Item) : List Item := items.filter (·.isResult t)

/-- The rows that several steps in turn lead to. -/
def walk (t : Tree) (items : List Item) (d : Direction) : Nat → Item → List Item
  | 0, _ => []
  | n + 1, i =>
    match cycle t items (some i) d with
    | some j => j :: walk t items d n j
    | none => []

/-! ## One step -/

/-- From a row in the list. -/
theorem cycle_listed {before after : List Item} {i : Item}
    (hi : items = before ++ i :: after) (hn : items.Nodup) :
    cycle t items (some i) .next = ((results t after).head?).or (results t items).head? ∧
      cycle t items (some i) .previous =
        ((results t before).getLast?).or (results t items).getLast? := by
  have hindex : indexOf? items i = some before.length := by
    rw [hi]
    rw [hi] at hn
    exact indexOf?_of_around fun hmem => (List.nodup_append.mp hn).2.2 i hmem i (by simp) rfl
  have hdrop : items.drop (before.length + 1) = after := by simp [hi]
  have htake : items.take before.length = before := by simp [hi]
  constructor
  · rw [cycle, Option.bind_some, hindex, results, results, List.head?_filter, List.head?_filter]
    dsimp only
    rw [hdrop]
  · rw [cycle, Option.bind_some, hindex, results, results, List.getLast?_filter,
      List.getLast?_filter]
    dsimp only
    rw [htake]

/-- From no row, or from one that is not in the list. -/
theorem cycle_unlisted {current : Option Item} (h : ∀ i ∈ current, i ∉ items) :
    cycle t items current .next = (results t items).head? ∧
      cycle t items current .previous = (results t items).getLast? := by
  have hindex : current.bind (indexOf? items) = none := by
    cases current with
    | none => rfl
    | some i => exact indexOf?_eq_none (h i rfl)
  rw [cycle, cycle, hindex, results, List.head?_filter, List.getLast?_filter]
  exact ⟨Option.or_self, Option.or_self⟩

theorem cycle_eq_none_iff {current : Option Item} {d : Direction} :
    cycle t items current d = none ↔ results t items = [] := by
  have hnone : ∀ {l : List Item}, l ⊆ items → results t items = [] →
      l.find? (·.isResult t) = none := by
    intro l hl h
    rw [List.find?_eq_none]
    exact fun i hi => List.filter_eq_nil_iff.mp h i (hl hi)
  cases d with
  | next =>
    rw [cycle, Option.or_eq_none_iff]
    constructor
    · rintro ⟨-, h⟩
      exact List.filter_eq_nil_iff.mpr (List.find?_eq_none.mp h)
    · intro h
      refine ⟨hnone ?_ h, hnone (List.Subset.refl _) h⟩
      split
      · exact List.drop_subset ..
      · exact List.Subset.refl _
  | previous =>
    rw [cycle, Option.or_eq_none_iff]
    constructor
    · rintro ⟨-, h⟩
      rw [List.find?_eq_none] at h
      exact List.filter_eq_nil_iff.mpr fun i hi => h i (List.mem_reverse.mpr hi)
    · intro h
      refine ⟨hnone ?_ h, hnone (List.reverse_subset.mpr (List.Subset.refl _)) h⟩
      rw [List.reverse_subset]
      split
      · exact List.take_subset ..
      · exact List.Subset.refl _

/-- From a result. -/
theorem cycle_result {before after : List Item} {i : Item}
    (hi : results t items = before ++ i :: after) (hn : items.Nodup) :
    cycle t items (some i) .next = after.head?.or (results t items).head? ∧
      cycle t items (some i) .previous = before.getLast?.or (results t items).getLast? := by
  obtain ⟨front, back, hitems, rfl, hback⟩ := List.filter_eq_append_iff.mp hi
  obtain ⟨mid, back, rfl, hmid, -, rfl⟩ := List.filter_eq_cons_iff.mp hback
  have hbefore : results t (front ++ mid) = front.filter (·.isResult t) := by
    rw [results, List.filter_append, List.filter_eq_nil_iff.mpr hmid, List.append_nil]
  have hsplit : items = (front ++ mid) ++ i :: back := by rw [hitems, List.append_assoc]
  obtain ⟨hnext, hprevious⟩ := cycle_listed (t := t) hsplit hn
  rw [hbefore] at hprevious
  exact ⟨hnext, hprevious⟩

/-! ## Back and forth -/

/-- The result before the next one is the one it started from. -/
theorem cycle_previous_next (hn : items.Nodup) {i : Item} (hi : i ∈ results t items) :
    ∃ j ∈ results t items, cycle t items (some i) .next = some j ∧
      cycle t items (some j) .previous = some i := by
  obtain ⟨before, after, hsplit⟩ := List.append_of_mem hi
  have hnext := (cycle_result hsplit hn).1
  cases after with
  | cons j after =>
    have hsplit' : results t items = (before ++ [i]) ++ j :: after := by simp [hsplit]
    refine ⟨j, by simp [hsplit], by simpa using hnext, ?_⟩
    rw [(cycle_result hsplit' hn).2]
    simp
  | nil =>
    -- behind the last result comes the first one
    obtain ⟨j, rest, hfirst⟩ : ∃ j rest, results t items = [] ++ j :: rest :=
      List.exists_cons_of_ne_nil (List.ne_nil_of_mem hi)
    refine ⟨j, by simp [hfirst], by simp [hnext, hfirst], ?_⟩
    rw [(cycle_result hfirst hn).2, hsplit]
    simp

/-- The result after the previous one is the one it started from. -/
theorem cycle_next_previous (hn : items.Nodup) {i : Item} (hi : i ∈ results t items) :
    ∃ j ∈ results t items, cycle t items (some i) .previous = some j ∧
      cycle t items (some j) .next = some i := by
  obtain ⟨before, after, hsplit⟩ := List.append_of_mem hi
  have hprevious := (cycle_result hsplit hn).2
  rcases List.eq_nil_or_concat' before with rfl | ⟨before, j, rfl⟩
  · -- in front of the first result comes the last one
    obtain ⟨rest, j, hlast⟩ : ∃ rest j, results t items = rest ++ [j] := by
      rcases List.eq_nil_or_concat' (results t items) with hnil | ⟨rest, j, h⟩
      · rw [hnil] at hi
        cases hi
      · exact ⟨rest, j, h⟩
    refine ⟨j, by simp [hlast], by simp [hprevious, hlast], ?_⟩
    rw [(cycle_result hlast hn).1, hsplit]
    simp
  · have hsplit' : results t items = before ++ j :: (i :: after) := by simp [hsplit]
    refine ⟨j, by simp [hsplit], by simpa using hprevious, ?_⟩
    rw [(cycle_result hsplit' hn).1]
    simp

/-! ## Once around -/

/-- Steps that do not go around. -/
theorem walk_along (hn : items.Nodup) {before between after : List Item} {i : Item}
    (hi : results t items = before ++ i :: (between ++ after)) (n : Nat) :
    walk t items .next (between.length + n) i =
      between ++ walk t items .next n ((i :: between).getLast (List.cons_ne_nil _ _)) := by
  induction between generalizing before i with
  | nil => simp
  | cons j between ih =>
    have hnext : cycle t items (some i) .next = some j := by
      rw [(cycle_result hi hn).1]
      simp
    have hi' : results t items = (before ++ [i]) ++ j :: (between ++ after) := by simp [hi]
    rw [List.length_cons, Nat.add_right_comm, walk, hnext]
    dsimp only
    rw [ih hi', List.getLast_cons (List.cons_ne_nil _ _)]
    rfl

/-- As many steps as there are results visit those behind the first one, then those in front of it
and last itself. -/
theorem walk_around (hn : items.Nodup) {before after : List Item} {i : Item}
    (hi : results t items = before ++ i :: after) :
    walk t items .next (results t items).length i = after ++ before ++ [i] := by
  obtain ⟨first, rest, hfirst⟩ : ∃ first rest, before ++ [i] = first :: rest :=
    List.exists_cons_of_ne_nil (by simp)
  have hlen : (results t items).length = after.length + (rest.length + 1) := by
    have := congrArg List.length hfirst
    simp only [List.length_append, List.length_cons, List.length_nil] at this
    simp [hi]
    omega
  have hrest : results t items = [] ++ first :: (rest ++ after) := by
    rw [hi, List.append_cons, hfirst]
    rfl
  have hwrap : cycle t items (some ((i :: after).getLast (List.cons_ne_nil _ _))) .next =
      some first := by
    have hlast : results t items = (before ++ (i :: after).dropLast) ++
        (i :: after).getLast (List.cons_ne_nil _ _) :: [] := by
      rw [hi, List.append_assoc, List.dropLast_append_getLast]
    rw [(cycle_result hlast hn).1, hrest]
    rfl
  have hi' : results t items = before ++ i :: (after ++ []) := by rw [hi, List.append_nil]
  calc walk t items .next (results t items).length i
    _ = after ++ walk t items .next (rest.length + 1) _ := by
      rw [hlen]
      exact walk_along hn hi' _
    _ = after ++ first :: walk t items .next (rest.length + 0) first := by rw [walk, hwrap]; rfl
    _ = after ++ before ++ [i] := by
      rw [walk_along hn hrest 0, List.append_assoc, hfirst]
      simp [walk]

/-- **Results go in a circle.** For every list that a browser keeps, whatever was done to the
outline since its rows were listed: there is a next and a previous result exactly if some row listed
is a result. As many next steps as there are results lead from a result through those behind it,
through those in front of it and back to it, each once and in the order of the list; a previous step
undoes a next one, and a next one a previous one. A row that is no result has the nearest results
behind and in front of it as its next and previous ones, or else the first and the last of all,
which are also the next and the previous one where no row is selected or one that is not in the
list. -/
theorem cycle_goes_around (d : Document) (mode : Mode) (sentinel : Text) (F : SymbolForest)
    (memory : Memory) (ops : List Browser.Operation) :
    let b := (Browser.opened d mode sentinel F memory).run ops
    let rs := results b.tree b.items
    let step := cycle b.tree b.items
    rs.Nodup ∧
    (∀ current d, step current d = none ↔ rs = []) ∧
    (∀ before i after, rs = before ++ i :: after →
      walk b.tree b.items .next rs.length i = after ++ before ++ [i]) ∧
    (∀ i ∈ rs, ∃ j ∈ rs, step (some i) .next = some j ∧ step (some j) .previous = some i) ∧
    (∀ i ∈ rs, ∃ j ∈ rs, step (some i) .previous = some j ∧ step (some j) .next = some i) ∧
    (∀ before i after, b.items = before ++ i :: after → i.isResult b.tree = false →
      step (some i) .next = (results b.tree after).head?.or rs.head? ∧
      step (some i) .previous = (results b.tree before).getLast?.or rs.getLast?) ∧
    ∀ current : Option Item, (∀ i ∈ current, i ∉ b.items) →
      step current .next = rs.head? ∧ step current .previous = rs.getLast? := by
  intro b rs step
  have hn : b.items.Nodup := (Browser.tracked_run d mode sentinel F memory ops).nodup
  refine ⟨hn.filter _, fun current d => cycle_eq_none_iff, fun before i after hi => ?_,
    fun i hi => cycle_previous_next hn hi, fun i hi => cycle_next_previous hn hi,
    fun before i after hi _ => cycle_listed hi hn, fun current h => cycle_unlisted h⟩
  exact walk_around hn hi

end Outline.Navigation
