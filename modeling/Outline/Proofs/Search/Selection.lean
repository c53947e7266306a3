import Mathlib.Data.List.Nodup
import Outline.Proofs.Tree.Screen
import Outline.Search.Navigation

/-!
# The rows last listed

A selection moves over the rows last listed. They are as many different rows (`nodup_listed`), the
place of one is found by what stands in front of it (`indexOf?_of_around`), and moving around the
results or by one row stays among them (`cycle_mem`, `step_mem`).
-/
namespace Outline

theorem Item.mem_listed {t : Tree} {i : Item} :
    i ∈ Item.listed t ↔ ∃ p, i = .present p ∧ t.shows p = true := by
  simp only [Item.listed, ← Tree.mem_map_path_visible, List.mem_map]
  constructor
  · rintro ⟨r, hr, rfl⟩
    exact ⟨r.path, rfl, r, hr, rfl⟩
  · rintro ⟨p, rfl, r, hr, rfl⟩
    exact ⟨r, hr, rfl⟩

theorem Item.present_mem_listed {t : Tree} {p : Path} :
    .present p ∈ Item.listed t ↔ t.shows p = true := by
  simp [Item.mem_listed]

theorem Item.listed_eq (t : Tree) : Item.listed t = (t.paths.filter t.shows).map .present := by
  rw [Item.listed, Tree.visible_eq_filter, Tree.paths, List.filter_map, List.map_map]
  rfl

theorem Item.present_injective : Function.Injective Item.present := fun p q h => by
  cases h
  rfl

theorem Item.nodup_listed (t : Tree) : (Item.listed t).Nodup := by
  rw [Item.listed_eq]
  exact (t.nodup_paths.filter _).map Item.present_injective

/-- What was listed is listed still when something is unfolded. -/
theorem Item.listed_subset_of_unfolds {t t' : Tree} (h : t.Unfolds t') :
    Item.listed t ⊆ Item.listed t' := by
  intro i hi
  obtain ⟨p, rfl, hp⟩ := Item.mem_listed.mp hi
  exact Item.present_mem_listed.mpr (h.shows hp)

namespace Navigation

theorem indexOf?_of_around {before after : List Item} {i : Item} (h : i ∉ before) :
    indexOf? (before ++ i :: after) i = some before.length := by
  induction before with
  | nil => simp [indexOf?, List.findIdx?_cons]
  | cons j before ih =>
    have hne : j ≠ i := fun e => h (e ▸ List.mem_cons_self ..)
    have hrest := ih fun hi => h (List.mem_cons_of_mem _ hi)
    rw [indexOf?] at hrest ⊢
    simp [List.findIdx?_cons, hne, hrest]

theorem indexOf?_eq_none {items : List Item} {i : Item} (h : i ∉ items) :
    indexOf? items i = none := by
  rw [indexOf?, List.findIdx?_eq_none_iff]
  intro j hj
  simpa using fun e : j = i => h (e ▸ hj)

theorem cycle_mem {t : Tree} {items : List Item} {current : Option Item} {d : Direction} {i : Item}
    (h : cycle t items current d = some i) : i ∈ items := by
  cases d with
  | next =>
    rw [cycle] at h
    obtain h | ⟨-, h⟩ := Option.or_eq_some_iff.mp h
    · have hmem := List.mem_of_find?_eq_some h
      split at hmem
      · exact List.mem_of_mem_drop hmem
      · exact hmem
    · exact List.mem_of_find?_eq_some h
  | previous =>
    rw [cycle] at h
    obtain h | ⟨-, h⟩ := Option.or_eq_some_iff.mp h
    · have hmem := List.mem_reverse.mp (List.mem_of_find?_eq_some h)
      split at hmem
      · exact List.mem_of_mem_take hmem
      · exact hmem
    · exact List.mem_reverse.mp (List.mem_of_find?_eq_some h)

theorem step_mem {items : List Item} {current : Option Item} {d : Direction} {i : Item}
    (h : step items current d = some i) : i ∈ items := by
  cases d with
  | next =>
    rw [step] at h
    split at h
    · exact List.mem_of_getElem? h
    · exact List.mem_of_head? h
  | previous =>
    rw [step] at h
    split at h
    · exact List.mem_of_getElem? h
    · exact List.mem_of_getLast? h

/-- In a list that is not empty there is a row to move to. -/
theorem isSome_step {items : List Item} (hne : items ≠ []) (current : Option Item) (d : Direction) :
    (step items current d).isSome = true := by
  have hlen : 0 < items.length := List.length_pos_iff.mpr hne
  cases d with
  | next =>
    rw [step]
    split
    · simp only [isSome_getElem?]
      omega
    · simpa [List.head?_eq_none_iff] using hne
  | previous =>
    rw [step]
    split
    · rename_i n hn
      obtain ⟨c, -, hc⟩ := Option.bind_eq_some_iff.mp hn
      have hlt := (List.findIdx?_eq_some_iff_getElem.mp hc).1
      simp only [isSome_getElem?]
      omega
    · simpa [List.getLast?_eq_none_iff] using hne

end Navigation

end Outline
