import Mathlib.Data.List.Induction
import Outline.Search.Navigation

/-!
# The nearest row

A selection is looked for by going through rows once and keeping the best so far. What is found is
the last of the nearest rows among those that are considered (`nearest_of_closest`), and nothing is
found only where no row is considered (`closest_eq_none_iff`).
-/
namespace Outline.Navigation

/-- How many lines a row is away from the cursor. -/
def distance (d : Document) (cursor : Int) (r : Row) : Nat :=
  (cursor - d.effectiveLine r.node).natAbs

/-- Whether a row is considered: it is not hidden and, while a query is in force, a result. -/
def considered (queryActive : Bool) (r : Row) : Bool :=
  !(r.node.flags.hidden || (queryActive && !r.node.flags.result))

/-- A row that is nearest to the cursor among some rows, the last of them: no row in front of it is
nearer, and every row behind it is further away. -/
def Nearest (d : Document) (cursor : Int) (rows : List Row) (r : Row) : Prop :=
  ∃ before after, rows = before ++ r :: after ∧
    (∀ x ∈ before, distance d cursor r ≤ distance d cursor x) ∧
    ∀ x ∈ after, distance d cursor r < distance d cursor x

variable {d : Document} {cursor : Int} {rows : List Row} {r x : Row}

namespace Nearest

theorem mem (h : Nearest d cursor rows r) : r ∈ rows := by
  obtain ⟨before, after, rfl, -, -⟩ := h
  exact List.mem_append_right _ (List.mem_cons_self ..)

/-- No row is nearer. -/
theorem le (h : Nearest d cursor rows r) (hx : x ∈ rows) :
    distance d cursor r ≤ distance d cursor x := by
  obtain ⟨before, after, rfl, hbefore, hafter⟩ := h
  rcases List.mem_append.mp hx with hx | hx
  · exact hbefore x hx
  · rcases List.mem_cons.mp hx with rfl | hx
    · exact Nat.le_refl _
    · exact Nat.le_of_lt (hafter x hx)

/-- A row that is further away leaves the nearest what it is. -/
theorem push (h : Nearest d cursor rows r) (hx : distance d cursor r < distance d cursor x) :
    Nearest d cursor (rows ++ [x]) r := by
  obtain ⟨before, after, rfl, hbefore, hafter⟩ := h
  refine ⟨before, after ++ [x], by simp, hbefore, ?_⟩
  exact List.forall_mem_append.mpr ⟨hafter, List.forall_mem_singleton.mpr hx⟩

/-- A row that is not further away than any takes its place. -/
theorem last (h : ∀ y ∈ rows, distance d cursor x ≤ distance d cursor y) :
    Nearest d cursor (rows ++ [x]) x :=
  ⟨rows, [], rfl, h, nofun⟩

/-- Rows that are changed but stay as far away. -/
theorem map {f : Row → Row} (h : Nearest d cursor rows r)
    (hf : ∀ x, distance d cursor (f x) = distance d cursor x) :
    Nearest d cursor (rows.map f) (f r) := by
  obtain ⟨before, after, rfl, hbefore, hafter⟩ := h
  refine ⟨before.map f, after.map f, by simp, ?_, ?_⟩
  · simpa only [List.forall_mem_map, hf] using hbefore
  · simpa only [List.forall_mem_map, hf] using hafter

end Nearest

/-! ## The search -/

/-- The nearest row so far with its distance, after one more row. -/
def nearer (d : Document) (cursor : Int) (queryActive : Bool) (best : Option (Row × Nat))
    (r : Row) : Option (Row × Nat) :=
  if r.node.flags.hidden || (queryActive && !r.node.flags.result) then best
  else
    let distance := (cursor - d.effectiveLine r.node).natAbs
    match best with
    | some (_, least) => if distance ≤ least then some (r, distance) else best
    | none => some (r, distance)

theorem closest_eq (d : Document) (cursor : Int) (queryActive : Bool) (rows : List Row) :
    closest d cursor queryActive rows =
      (rows.foldl (nearer d cursor queryActive) none).map (·.1) := rfl

/-- What the best so far is of the rows considered so far. -/
def Best (d : Document) (cursor : Int) (rows : List Row) : Option (Row × Nat) → Prop
  | none => rows = []
  | some (r, least) => least = distance d cursor r ∧ Nearest d cursor rows r

theorem Best.nearer {queryActive : Bool} {best : Option (Row × Nat)} (h : Best d cursor rows best)
    (hr : considered queryActive r = true) :
    Best d cursor (rows ++ [r]) (nearer d cursor queryActive best r) := by
  rw [considered, Bool.not_eq_true'] at hr
  rw [Navigation.nearer, if_neg (Bool.eq_false_iff.mp hr)]
  match best, h with
  | none, h =>
    obtain rfl : rows = [] := h
    exact ⟨rfl, .last nofun⟩
  | some (y, least), ⟨hleast, hy⟩ =>
    subst hleast
    dsimp only
    split
    · rename_i hle
      exact ⟨rfl, .last fun z hz => Nat.le_trans hle (hy.le hz)⟩
    · rename_i hgt
      exact ⟨rfl, hy.push (Nat.lt_of_not_le hgt)⟩

theorem best_foldl (d : Document) (cursor : Int) (queryActive : Bool) (rows : List Row) :
    Best d cursor (rows.filter (considered queryActive))
      (rows.foldl (nearer d cursor queryActive) none) := by
  induction rows using List.reverseRecOn with
  | nil => rfl
  | append_singleton rows r ih =>
    rw [List.foldl_append, List.filter_append]
    cases hr : considered queryActive r with
    | true =>
      rw [List.filter_cons_of_pos hr]
      exact ih.nearer hr
    | false =>
      rw [List.filter_cons_of_neg (Bool.eq_false_iff.mp hr), List.filter_nil, List.append_nil]
      rw [considered, Bool.not_eq_false'] at hr
      rw [List.foldl_cons, List.foldl_nil, nearer, if_pos hr]
      exact ih

/-- What is found is the nearest of the rows considered, the last of them. -/
theorem nearest_of_closest {queryActive : Bool} (h : closest d cursor queryActive rows = some r) :
    Nearest d cursor (rows.filter (considered queryActive)) r := by
  have hbest := best_foldl d cursor queryActive rows
  rw [closest_eq] at h
  obtain ⟨⟨y, least⟩, hfound, rfl⟩ := Option.map_eq_some_iff.mp h
  rw [hfound] at hbest
  exact hbest.2

/-- Nothing is found only where no row is considered. -/
theorem closest_eq_none_iff {queryActive : Bool} :
    closest d cursor queryActive rows = none ↔ rows.filter (considered queryActive) = [] := by
  have hbest := best_foldl d cursor queryActive rows
  rw [closest_eq, Option.map_eq_none_iff]
  constructor
  · intro h
    rwa [h] at hbest
  · intro h
    rw [h] at hbest
    match hfound : rows.foldl (nearer d cursor queryActive) none with
    | none => rfl
    | some (y, least) =>
      rw [hfound] at hbest
      exact absurd hbest.2.mem List.not_mem_nil

end Outline.Navigation
