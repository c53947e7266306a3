import Outline.Proofs.Tree.Rows
import Outline.Tree.Flags

/-!
# What is on screen

A node is on screen if it is not hidden and every node above it is neither hidden nor folded
(`shows`); the rows on screen are those of all rows for which this holds (`visible_eq_filter`).
Unfolding takes nothing off the screen (`Unfolds.shows`), folding only what is below the folded node
(`shows_fold`), and a node that was unfolded shows its children (`shows_append_of_unfolded`).
-/
namespace Outline

/-- The second flags may be unfolded where the first are not, and are the same otherwise. -/
structure Flags.Unfolds (f g : Flags) : Prop where
  hidden : g.hidden = f.hidden
  result : g.result = f.result
  expanded : f.expanded = true → g.expanded = true

theorem Flags.Unfolds.refl (f : Flags) : f.Unfolds f := ⟨rfl, rfl, id⟩

/-- The flags of an unfolded node. -/
theorem Flags.unfolds_expanded (f : Flags) : f.Unfolds { f with expanded := true } :=
  ⟨rfl, rfl, fun _ => rfl⟩

namespace Tree

/-- Whether the node at a path is on screen. -/
def shows : Tree → Path → Bool
  | _, [] => false
  | nil, _ => false
  | symbol _ f cs rest, i :: p =>
    match i with
    | 0 => !f.hidden && (p.isEmpty || (f.expanded && cs.shows p))
    | i + 1 => rest.shows (i :: p)
  | leaf _ f rest, i :: p =>
    match i with
    | 0 => !f.hidden && p.isEmpty
    | i + 1 => rest.shows (i :: p)

@[simp] theorem shows_root (t : Tree) : t.shows [] = false := by cases t <;> rfl

@[simp] theorem shows_nil (p : Path) : shows nil p = false := by cases p <;> rfl

@[simp] theorem shows_symbol_zero (s f cs rest) (p : Path) :
    (symbol s f cs rest).shows (0 :: p) =
      (!f.hidden && (p.isEmpty || (f.expanded && cs.shows p))) :=
  rfl

@[simp] theorem shows_symbol_succ (s f cs rest) (i : Nat) (p : Path) :
    (symbol s f cs rest).shows ((i + 1) :: p) = rest.shows (i :: p) := rfl

@[simp] theorem shows_leaf_zero (l f rest) (p : Path) :
    (leaf l f rest).shows (0 :: p) = (!f.hidden && p.isEmpty) := rfl

@[simp] theorem shows_leaf_succ (l f rest) (i : Nat) (p : Path) :
    (leaf l f rest).shows ((i + 1) :: p) = rest.shows (i :: p) := rfl

/-! ## The listing -/

/-- The rows on screen of siblings counted from `i`; `on` says of a path whether it is on screen. -/
theorem visibleFrom_eq_filter (t : Tree) (owner : Path) (i : Nat) (on : Path → Bool)
    (ho : ∀ j q, on (owner ++ (i + j) :: q) = t.shows (j :: q)) :
    visibleFrom owner i t = (rowsFrom owner i t).filter fun r => on r.path := by
  induction t generalizing owner i with
  | nil => rfl
  | symbol s f cs rest ihc ihr =>
    have hself : on (owner ++ [i]) = !f.hidden := by simpa using ho 0 []
    have hrest := ihr owner (i + 1) fun j q => by
      have := ho (j + 1) q
      rwa [show i + (j + 1) = i + 1 + j by omega] at this
    have hbelow : ∀ j q, on (owner ++ [i] ++ j :: q) =
        (!f.hidden && (f.expanded && cs.shows (j :: q))) := fun j q => by
      simpa using ho 0 (j :: q)
    rw [visibleFrom, rowsFrom, List.filter_cons, List.filter_append, ← hrest, hself]
    cases hopen : !f.hidden && f.expanded with
    | true =>
      obtain ⟨hh, he⟩ := Bool.and_eq_true_iff.mp hopen
      have hcs := ihc (owner ++ [i]) 0 fun j q => by
        rw [Nat.zero_add, hbelow, hh, he, Bool.true_and, Bool.true_and]
      simp only [Bool.not_eq_true'] at hh
      simp [hh, he, ← hcs]
    | false =>
      -- nothing below a hidden or folded node is on screen
      have hno : (rowsFrom (owner ++ [i]) 0 cs).filter (fun r => on r.path) = [] := by
        rw [List.filter_eq_nil_iff]
        intro r hr
        obtain ⟨j, q, hp, -⟩ := mem_rowsFrom.mp hr
        rw [hp, Nat.zero_add, hbelow, ← Bool.and_assoc, hopen]
        simp
      rw [hno]
      cases hh : f.hidden with
      | true => simp
      | false =>
        have he : f.expanded = false := by simpa [hh] using hopen
        simp [he]
  | leaf l f rest ihr =>
    have hself : on (owner ++ [i]) = !f.hidden := by simpa using ho 0 []
    have hrest := ihr owner (i + 1) fun j q => by
      have := ho (j + 1) q
      rwa [show i + (j + 1) = i + 1 + j by omega] at this
    rw [visibleFrom, rowsFrom, List.filter_cons, ← hrest, hself]
    cases f.hidden <;> rfl

/-- The rows on screen are those of all rows that are not hidden and have only unfolded nodes that
are not hidden above them. -/
theorem visible_eq_filter (t : Tree) : t.visible = t.preorder.filter fun r => t.shows r.path := by
  rw [visible_eq, preorder_eq]
  exact visibleFrom_eq_filter t [] 0 t.shows fun j q => by rw [List.nil_append, Nat.zero_add]

theorem isSome_node?_of_shows {t : Tree} {p : Path} (h : t.shows p = true) :
    (t.node? p).isSome = true := by
  induction t generalizing p with
  | nil => simp at h
  | symbol s f cs rest ihc ihr =>
    match p with
    | [] => simp at h
    | [0] => rfl
    | 0 :: j :: q =>
      simp only [shows_symbol_zero, Bool.and_eq_true, List.isEmpty_cons, Bool.false_or] at h
      simpa using ihc h.2.2
    | (i + 1) :: q => exact ihr h
  | leaf l f rest ihr =>
    match p with
    | [] => simp at h
    | [0] => rfl
    | 0 :: j :: q => simp at h
    | (i + 1) :: q => exact ihr h

/-- A path is that of a row on screen exactly if it is on screen. -/
theorem mem_map_path_visible {t : Tree} {p : Path} :
    p ∈ t.visible.map (·.path) ↔ t.shows p = true := by
  simp only [visible_eq_filter, List.mem_map, List.mem_filter, mem_preorder]
  constructor
  · rintro ⟨r, ⟨-, h⟩, rfl⟩
    exact h
  · intro h
    obtain ⟨n, hn⟩ := Option.isSome_iff_exists.mp (isSome_node?_of_shows h)
    exact ⟨⟨p, n⟩, ⟨hn, h⟩, rfl⟩

/-! ## Unfolding -/

/-- The second outline is the first with some nodes unfolded. -/
inductive Unfolds : Tree → Tree → Prop
  | nil : Unfolds nil nil
  | symbol {s f g cs cs' rest rest'} (hf : f.Unfolds g) (hc : Unfolds cs cs')
    (hr : Unfolds rest rest') : Unfolds (symbol s f cs rest) (symbol s g cs' rest')
  | leaf {l f g rest rest'} (hf : f.Unfolds g) (hr : Unfolds rest rest') :
    Unfolds (leaf l f rest) (leaf l g rest')

theorem Unfolds.refl (t : Tree) : t.Unfolds t := by
  induction t with
  | nil => exact .nil
  | symbol s f cs rest ihc ihr => exact .symbol (.refl f) ihc ihr
  | leaf l f rest ihr => exact .leaf (.refl f) ihr

theorem unfolds_setAllExpanded (t : Tree) : t.Unfolds (t.setAllExpanded true) := by
  induction t with
  | nil => exact .nil
  | symbol s f cs rest ihc ihr => exact .symbol f.unfolds_expanded ihc ihr
  | leaf l f rest ihr => exact .leaf f.unfolds_expanded ihr

theorem unfolds_expandTo (p : Symbol → Bool) (t : Tree) : t.Unfolds (t.expandTo p) := by
  induction t with
  | nil => exact .nil
  | symbol s f cs rest ihc ihr =>
    refine .symbol ?_ ihc ihr
    split
    · exact f.unfolds_expanded
    · exact .refl f
  | leaf l f rest ihr => exact .leaf (.refl f) ihr

theorem unfolds_modify (t : Tree) (p : Path) :
    t.Unfolds (t.modify ({ · with expanded := true }) p) := by
  induction t generalizing p with
  | nil => cases p <;> exact .nil
  | symbol s f cs rest ihc ihr =>
    match p with
    | [] => exact .refl _
    | [0] => exact .symbol f.unfolds_expanded (.refl cs) (.refl rest)
    | 0 :: i :: q => exact .symbol (.refl f) (ihc (i :: q)) (.refl rest)
    | (i + 1) :: q => exact .symbol (.refl f) (.refl cs) (ihr (i :: q))
  | leaf l f rest ihr =>
    match p with
    | [] => exact .refl _
    | [0] => exact .leaf f.unfolds_expanded (.refl rest)
    | 0 :: _ :: _ => exact .refl _
    | (i + 1) :: q => exact .leaf (.refl f) (ihr (i :: q))

/-- What is on screen stays on screen when something is unfolded. -/
theorem Unfolds.shows {t t' : Tree} (h : t.Unfolds t') {p : Path} (hp : t.shows p = true) :
    t'.shows p = true := by
  induction h generalizing p with
  | nil => exact hp
  | @symbol s f g cs cs' rest rest' hf _ _ ihc ihr =>
    match p with
    | [] => simp at hp
    | 0 :: q =>
      simp only [shows_symbol_zero, Bool.and_eq_true, Bool.or_eq_true] at hp ⊢
      rw [hf.hidden]
      exact ⟨hp.1, hp.2.imp id fun h => ⟨hf.expanded h.1, ihc h.2⟩⟩
    | (i + 1) :: q => exact ihr hp
  | @leaf l f g rest rest' hf _ ihr =>
    match p with
    | [] => simp at hp
    | 0 :: q =>
      rw [shows_leaf_zero, hf.hidden]
      exact hp
    | (i + 1) :: q => exact ihr hp

/-- The children of a node on screen that was unfolded are on screen as far as they are in the
outline of them alone. -/
theorem shows_append_of_unfolded {t : Tree} {p q : Path} (hp : t.shows p = true)
    (hq : (t.childrenAt p).shows q = true) :
    (t.modify ({ · with expanded := true }) p).shows (p ++ q) = true := by
  induction t generalizing p with
  | nil => simp at hp
  | symbol s f cs rest ihc ihr =>
    rcases p with _ | ⟨_ | i, _ | ⟨j, p⟩⟩
    · simp at hp
    · have hshown : f.hidden = false := by simpa using hp
      have hbelow : cs.shows q = true := by simpa [childrenAt] using hq
      simp [modify, hshown, hbelow]
    · simp only [shows_symbol_zero, Bool.and_eq_true, List.isEmpty_cons, Bool.false_or,
        Bool.not_eq_true'] at hp
      simpa [modify, hp.1, hp.2.1] using ihc hp.2.2 hq
    · exact ihr (p := [i]) hp hq
    · exact ihr (p := i :: j :: p) hp hq
  | leaf l f rest ihr =>
    rcases p with _ | ⟨_ | i, p⟩
    · simp at hp
    · obtain rfl : p = [] := by
        rw [shows_leaf_zero, Bool.and_eq_true] at hp
        exact List.isEmpty_iff.mp hp.2
      simp [childrenAt] at hq
    · exact ihr hp hq

@[simp] theorem childrenAt_modify (g : Flags → Flags) (t : Tree) (p : Path) :
    p ≠ [] → (t.modify g p).childrenAt p = t.childrenAt p := by
  fun_induction modify g t p <;> simp_all [childrenAt]

/-- A change of flags that hides and shows nothing changes nothing on screen but below the node. -/
theorem shows_modify {g : Flags → Flags} (hg : ∀ f, (g f).hidden = f.hidden) {t : Tree}
    {p q : Path} (hq : q <+: p → q = p) : (t.modify g q).shows p = t.shows p := by
  induction t generalizing p q with
  | nil => cases q <;> rfl
  | symbol s f cs rest ihc ihr =>
    match p, q with
    | [], _ => simp
    | _, [] => simp [modify]
    | 0 :: p, [0] =>
      obtain rfl : p = [] := by simpa using hq
      simp [modify, hg]
    | 0 :: p, 0 :: j :: q =>
      have hc := ihc (p := p) (q := j :: q) fun hpre => by simpa using hq (by simpa using hpre)
      simp [modify, hc]
    | 0 :: p, (j + 1) :: q => simp [modify]
    | (i + 1) :: p, 0 :: q => cases q <;> simp [modify]
    | (i + 1) :: p, (j + 1) :: q =>
      exact ihr (p := i :: p) (q := j :: q) fun hpre => by simpa using hq (by simpa using hpre)
  | leaf l f rest ihr =>
    match p, q with
    | [], _ => simp
    | _, [] => simp [modify]
    | 0 :: p, 0 :: q => cases q <;> simp [modify, hg]
    | 0 :: p, (j + 1) :: q => simp [modify]
    | (i + 1) :: p, 0 :: q => cases q <;> simp [modify]
    | (i + 1) :: p, (j + 1) :: q =>
      exact ihr (p := i :: p) (q := j :: q) fun hpre => by simpa using hq (by simpa using hpre)

/-- What is on screen below a node is on screen in the outline of what is below the node. -/
theorem shows_childrenAt {t : Tree} {p q : Path} (hp : p ≠ []) (hq : q ≠ [])
    (h : t.shows (p ++ q) = true) : (t.childrenAt p).shows q = true := by
  induction t generalizing p with
  | nil => simp at h
  | symbol s f cs rest ihc ihr =>
    rcases p with _ | ⟨_ | i, _ | ⟨j, p⟩⟩
    · exact absurd rfl hp
    · obtain ⟨-, -, hbelow⟩ : f.hidden = false ∧ f.expanded = true ∧ cs.shows q = true := by
        simpa [hq] using h
      simpa [childrenAt] using hbelow
    · obtain ⟨-, -, hbelow⟩ : f.hidden = false ∧ f.expanded = true ∧
        cs.shows (j :: p ++ q) = true := by simpa using h
      exact ihc (by simp) hbelow
    · exact ihr (p := [i]) (by simp) h
    · exact ihr (p := i :: j :: p) (by simp) h
  | leaf l f rest ihr =>
    rcases p with _ | ⟨_ | i, p⟩
    · exact absurd rfl hp
    · simp [hq] at h
    · exact ihr (p := i :: p) (by simp) h

/-- Below a node on screen that was unfolded there is on screen what is so in the outline of it. -/
theorem shows_append_unfolded {t : Tree} {p q : Path} (hp : t.shows p = true) (hq : q ≠ []) :
    (t.modify ({ · with expanded := true }) p).shows (p ++ q) = (t.childrenAt p).shows q := by
  have hne : p ≠ [] := by rintro rfl; simp at hp
  rw [Bool.eq_iff_iff]
  refine ⟨fun h => ?_, shows_append_of_unfolded hp⟩
  have hbelow := shows_childrenAt hne hq h
  rwa [childrenAt_modify _ _ _ hne] at hbelow

/-! ## Folding -/

/-- What is above a node on screen is on screen. -/
theorem shows_of_append {t : Tree} {p q : Path} (hp : p ≠ []) (h : t.shows (p ++ q) = true) :
    t.shows p = true := by
  induction t generalizing p with
  | nil => simp at h
  | symbol s f cs rest ihc ihr =>
    match p with
    | [] => exact absurd rfl hp
    | [0] => simp_all
    | 0 :: i :: p =>
      simp only [List.cons_append, shows_symbol_zero, Bool.and_eq_true, List.isEmpty_cons,
        Bool.false_or] at h ⊢
      exact ⟨h.1, h.2.1, ihc (by simp) h.2.2⟩
    | (i + 1) :: p => exact ihr (p := i :: p) (by simp) h
  | leaf l f rest ihr =>
    match p with
    | [] => exact absurd rfl hp
    | 0 :: p => simp_all
    | (i + 1) :: p => exact ihr (p := i :: p) (by simp) h

/-- What is changed below a node changes nothing on screen but below it. -/
theorem shows_modifyBelow (g : Flags → Flags) {t : Tree} {p q : Path} (hq : q <+: p → q = p)
    (hne : q ≠ []) : (t.modifyBelow g q).shows p = t.shows p := by
  induction t generalizing p q with
  | nil => cases q <;> rfl
  | symbol s f cs rest ihc ihr =>
    match p, q with
    | [], _ => simp
    | _, [] => exact absurd rfl hne
    | 0 :: p, [0] =>
      obtain rfl : p = [] := by simpa using hq
      simp [modifyBelow]
    | 0 :: p, 0 :: j :: q =>
      have hc := ihc (p := p) (q := j :: q) (fun hpre => by simpa using hq (by simpa using hpre))
        (by simp)
      simp [modifyBelow, hc]
    | 0 :: p, (j + 1) :: q => simp [modifyBelow]
    | (i + 1) :: p, 0 :: q => simp [modifyBelow]
    | (i + 1) :: p, (j + 1) :: q =>
      exact ihr (p := i :: p) (q := j :: q) (fun hpre => by simpa using hq (by simpa using hpre))
        (by simp)
  | leaf l f rest ihr =>
    match p, q with
    | [], _ => simp
    | _, [] => exact absurd rfl hne
    | 0 :: p, 0 :: q => simp [modifyBelow]
    | 0 :: p, (j + 1) :: q => simp [modifyBelow]
    | (i + 1) :: p, 0 :: q => simp [modifyBelow]
    | (i + 1) :: p, (j + 1) :: q =>
      exact ihr (p := i :: p) (q := j :: q) (fun hpre => by simpa using hq (by simpa using hpre))
        (by simp)

/-- Folding changes nothing on screen but what is below the folded node, -/
theorem shows_fold {t : Tree} {p q : Path} (hq : q <+: p → q = p) (hne : q ≠ []) :
    (t.fold q).shows p = t.shows p := by
  rw [fold, shows_modifyBelow _ hq hne, shows_modify (by exact fun _ => rfl) hq]

/-- and nothing of that is on screen then. -/
theorem shows_below_fold {p q : Path} (hp : p ≠ []) (hq : q ≠ []) (t : Tree) :
    (t.fold p).shows (p ++ q) = false := by
  induction t generalizing p with
  | nil => cases p <;> simp [fold, modify, modifyBelow, mapFlags]
  | symbol s f cs rest ihc ihr =>
    match p with
    | [] => exact absurd rfl hp
    | [0] => simp [fold, modify, modifyBelow, hq]
    | 0 :: i :: p =>
      have hc : (cs.fold (i :: p)).shows (i :: p ++ q) = false := ihc (by simp)
      rw [fold] at hc
      simpa [fold, modify, modifyBelow] using fun _ _ => hc
    | (i + 1) :: p => exact ihr (p := i :: p) (by simp)
  | leaf l f rest ihr =>
    match p with
    | [] => exact absurd rfl hp
    | 0 :: p => cases p <;> simp [fold, modify, modifyBelow, hq]
    | (i + 1) :: p => exact ihr (p := i :: p) (by simp)

/-! ## Roots and children that are not hidden -/

theorem shows_single {t : Tree} {i : Nat} :
    t.shows [i] = true ↔ ∃ n, t.node? [i] = some n ∧ n.flags.hidden = false := by
  induction t generalizing i with
  | nil => simp
  | symbol s f cs rest _ ihr =>
    cases i with
    | zero => simp [Node.flags]
    | succ i => exact ihr
  | leaf l f rest ihr =>
    cases i with
    | zero => simp [Node.flags]
    | succ i => exact ihr

end Tree

end Outline
