import Mathlib.Data.List.Infix
import Mathlib.Logic.Function.Iterate
import Outline.Proofs.Tree.Ancestors

/-!
# Listing with a stack of nodes

A listing can also keep a stack of nodes: a round takes the node on top, lists it if the rule says
so, and, if the rule says so, puts the children of the node on the stack, the last one first. What
is listed and what the stack will still give are together the same after every round
(`rows_round`), and every round leaves less to do (`weight_round`), so the stack runs empty
(`exists_rounds`), and what is listed then is the listing by recursion. For the rule that asks for
no flags this is `descendants`, for that of the screen `visible`.
-/
namespace Outline.Tree

/-! ## By recursion, for a rule -/

/-- Which nodes are listed, and below which of them a listing goes on. -/
structure Rule where
  lists : Flags → Bool
  opens : Flags → Bool

namespace Rule

/-- All nodes, whatever their flags. -/
def all : Rule := ⟨fun _ => true, fun _ => true⟩

/-- The nodes on screen. -/
def onScreen : Rule := ⟨fun f => !f.hidden, fun f => !f.hidden && f.expanded⟩

@[simp] theorem lists_all (f : Flags) : all.lists f = true := rfl

@[simp] theorem opens_all (f : Flags) : all.opens f = true := rfl

@[simp] theorem lists_onScreen (f : Flags) : onScreen.lists f = !f.hidden := rfl

@[simp] theorem opens_onScreen (f : Flags) : onScreen.opens f = (!f.hidden && f.expanded) := rfl

end Rule

variable (rule : Rule)

/-- The rows a rule gives of a forest whose first root is child `i` of `owner`. -/
def rowsBy (owner : Path) (i : Nat) : Tree → List Row
  | nil => []
  | symbol s f cs rest =>
    (if rule.lists f then [⟨owner ++ [i], .symbol s f⟩] else []) ++
      ((if rule.opens f then rowsBy (owner ++ [i]) 0 cs else []) ++ rowsBy owner (i + 1) rest)
  | leaf l f rest =>
    (if rule.lists f then [⟨owner ++ [i], .leaf l f⟩] else []) ++ rowsBy owner (i + 1) rest

theorem rowsBy_all (owner : Path) (i : Nat) (t : Tree) :
    rowsBy .all owner i t = rowsFrom owner i t := by
  induction t generalizing owner i with
  | nil => rfl
  | symbol s f cs rest ihc ihr => simp [rowsBy, rowsFrom, ihc, ihr]
  | leaf l f rest ihr => simp [rowsBy, rowsFrom, ihr]

theorem rowsBy_onScreen (owner : Path) (i : Nat) (t : Tree) :
    rowsBy .onScreen owner i t = visibleFrom owner i t := by
  induction t generalizing owner i with
  | nil => rfl
  | symbol s f cs rest ihc ihr =>
    by_cases hf : f.hidden = true <;> simp [rowsBy, visibleFrom, ihc, ihr, hf]
  | leaf l f rest ihr =>
    by_cases hf : f.hidden = true <;> simp [rowsBy, visibleFrom, ihr, hf]

/-! ## Nodes that wait -/

/-- A node that waits on the stack: its row, and what is below it. -/
structure Waiting where
  row : Row
  below : Tree

/-- The roots of a forest, the first of which is child `i` of `owner`, as they wait. -/
def waiting (owner : Path) (i : Nat) : Tree → List Waiting
  | nil => []
  | symbol s f cs rest => ⟨⟨owner ++ [i], .symbol s f⟩, cs⟩ :: waiting owner (i + 1) rest
  | leaf l f rest => ⟨⟨owner ++ [i], .leaf l f⟩, nil⟩ :: waiting owner (i + 1) rest

namespace Waiting

/-- The node itself, if it is listed. -/
def own (w : Waiting) : List Row := if rule.lists w.row.node.flags then [w.row] else []

def children (w : Waiting) : List Waiting :=
  if rule.opens w.row.node.flags then waiting w.row.path 0 w.below else []

/-- All rows that a waiting node will give. -/
def rows (w : Waiting) : List Row :=
  w.own rule ++ if rule.opens w.row.node.flags then rowsBy rule w.row.path 0 w.below else []

end Waiting

theorem flatMap_waiting (owner : Path) (i : Nat) (t : Tree) :
    (waiting owner i t).flatMap (Waiting.rows rule) = rowsBy rule owner i t := by
  induction t generalizing owner i with
  | nil => rfl
  | symbol s f cs rest _ ihr =>
    rw [waiting, List.flatMap_cons, ihr, rowsBy, Waiting.rows, List.append_assoc]
    rfl
  | leaf l f rest ihr =>
    rw [waiting, List.flatMap_cons, ihr, rowsBy, Waiting.rows, rowsBy, ite_self, List.append_nil]
    rfl

theorem Waiting.rows_eq (w : Waiting) :
    w.rows rule = w.own rule ++ (w.children rule).flatMap (Waiting.rows rule) := by
  unfold Waiting.children
  by_cases ho : rule.opens w.row.node.flags = true
  · rw [if_pos ho, flatMap_waiting, Waiting.rows, if_pos ho]
  · rw [if_neg ho, List.flatMap_nil, Waiting.rows, if_neg ho]

/-- How many nodes the stack holds, those below the nodes on it counted too. -/
def weight : List Waiting → Nat
  | [] => 0
  | w :: stack => 1 + w.below.size + weight stack

theorem weight_append (a b : List Waiting) : weight (a ++ b) = weight a + weight b := by
  induction a with
  | nil => simp [weight]
  | cons w a ih => simp only [List.cons_append, weight, ih]; omega

theorem weight_reverse (a : List Waiting) : weight a.reverse = weight a := by
  induction a with
  | nil => rfl
  | cons w a ih => simp only [List.reverse_cons, weight_append, weight, ih]; omega

theorem weight_waiting (owner : Path) (i : Nat) (t : Tree) :
    weight (waiting owner i t) = t.size := by
  induction t generalizing i with
  | nil => rfl
  | symbol s f cs rest _ ihr => rw [waiting, weight, ihr, size]
  | leaf l f rest ihr => simp [waiting, weight, ihr, size]

theorem Waiting.weight_children (w : Waiting) : weight (w.children rule) ≤ w.below.size := by
  unfold Waiting.children
  split
  · exact Nat.le_of_eq (weight_waiting ..)
  · exact Nat.zero_le _

/-! ## Rounds -/

/-- A listing in progress. The top of the stack is its last node. -/
structure Listing where
  stack : List Waiting
  listed : List Row

namespace Listing

/-- The roots of a forest wait, the first one on top. -/
def start (owner : Path) (t : Tree) : Listing := ⟨(waiting owner 0 t).reverse, []⟩

/-- Takes the node on top of the stack, if there is one. -/
def round (l : Listing) : Listing :=
  match l.stack.getLast? with
  | none => l
  | some w => ⟨l.stack.dropLast ++ (w.children rule).reverse, l.listed ++ w.own rule⟩

/-- What is listed, and what the stack will still give. -/
def rows (l : Listing) : List Row := l.listed ++ l.stack.reverse.flatMap (Waiting.rows rule)

@[simp] theorem round_nil (listed : List Row) : round rule ⟨[], listed⟩ = ⟨[], listed⟩ := rfl

@[simp] theorem round_concat (stack : List Waiting) (w : Waiting) (listed : List Row) :
    round rule ⟨stack ++ [w], listed⟩ =
      ⟨stack ++ (w.children rule).reverse, listed ++ w.own rule⟩ := by
  simp [round]

/-- A round changes nothing about what is listed in the end: what was expected of the node on top is
listed or expected of its children. -/
theorem rows_round (l : Listing) : (l.round rule).rows rule = l.rows rule := by
  obtain ⟨stack, listed⟩ := l
  obtain rfl | ⟨stack, w, rfl⟩ := List.eq_nil_or_concat' stack
  · simp
  · simp [rows, Waiting.rows_eq rule w]

/-- A round takes a node off the stack, and puts none there that did not count already. -/
theorem weight_round (l : Listing) (h : l.stack ≠ []) :
    weight (l.round rule).stack < weight l.stack := by
  obtain ⟨stack, listed⟩ := l
  obtain rfl | ⟨stack, w, rfl⟩ := List.eq_nil_or_concat' stack
  · exact absurd rfl h
  · have hw := w.weight_children rule
    rw [round_concat, weight_append, weight_append, weight_reverse]
    simp only [weight]
    omega

theorem rows_rounds (l : Listing) (n : Nat) : ((round rule)^[n] l).rows rule = l.rows rule := by
  induction n generalizing l with
  | zero => rfl
  | succ n ih => rw [Function.iterate_succ_apply, ih, rows_round]

/-- The stack runs empty. -/
theorem exists_stack_nil (l : Listing) : ∃ n ≤ weight l.stack, ((round rule)^[n] l).stack = [] := by
  induction hk : weight l.stack using Nat.strongRecOn generalizing l with
  | _ k ih =>
    by_cases h : l.stack = []
    · exact ⟨0, Nat.zero_le k, h⟩
    · have hless := weight_round rule l h
      obtain ⟨n, hn, hend⟩ := ih _ (hk ▸ hless) (l.round rule) rfl
      refine ⟨n + 1, by omega, ?_⟩
      rw [Function.iterate_succ_apply, hend]

/-- A listing ends after at most as many rounds as there are nodes, and with the rows the recursion
gives. -/
theorem exists_rounds (owner : Path) (t : Tree) :
    ∃ n ≤ t.size, (round rule)^[n] (start owner t) = ⟨[], rowsBy rule owner 0 t⟩ := by
  have hweight : weight (start owner t).stack = t.size := by
    rw [start, weight_reverse, weight_waiting]
  obtain ⟨n, hn, hend⟩ := exists_stack_nil rule (start owner t)
  refine ⟨n, hweight ▸ hn, ?_⟩
  have hrows := rows_rounds rule (start owner t) n
  rcases hl : (round rule)^[n] (start owner t) with ⟨stack, listed⟩
  obtain rfl : stack = [] := by rw [hl] at hend; exact hend
  rw [hl] at hrows
  simpa [rows, start, flatMap_waiting] using hrows

end Listing

/-! ## The two listings -/

/-- The nodes above a path, from its root on. -/
def nodesAbove (t : Tree) (p : Path) : List Node :=
  (p.inits.filter (Path.Above · p)).filterMap t.node?

theorem openAbove_iff {t : Tree} {p : Path} :
    t.OpenAbove p ↔ ∀ n ∈ t.nodesAbove p, n.flags.hidden = false ∧ n.flags.expanded = true := by
  simp only [nodesAbove, List.mem_filterMap, List.mem_filter, List.mem_inits, decide_eq_true_eq]
  unfold OpenAbove
  constructor
  · intro h n hn
    obtain ⟨q, ⟨-, hq⟩, hn⟩ := hn
    exact h q n hq hn
  · intro h q n hq hn
    exact h n ⟨q, ⟨hq.1, hq⟩, hn⟩

theorem mem_descendants_iff_above {t : Tree} {p : Path} {r : Row} :
    r ∈ t.descendants p ↔ p.Above r.path ∧ t.node? r.path = some r.node := by
  rw [mem_descendants]
  constructor
  · intro h
    obtain ⟨q, hq, hp, hn⟩ := h
    exact ⟨⟨⟨q, hp.symm⟩, by simpa [hp] using hq⟩, hn⟩
  · intro h
    obtain ⟨⟨⟨q, hp⟩, hne⟩, hn⟩ := h
    refine ⟨q, fun hq => hne ?_, hp.symm, hn⟩
    rw [← hp, hq, List.append_nil]

/-- The rows on screen are those of all rows that are not hidden, with nothing hidden or folded
above them. -/
theorem visible_eq_filter_nodesAbove (t : Tree) :
    t.visible = t.preorder.filter fun r => !r.node.flags.hidden &&
      (t.nodesAbove r.path).all fun n => !n.flags.hidden && n.flags.expanded := by
  rw [visible_eq_filter]
  refine List.filter_congr fun r hr => ?_
  rw [Bool.eq_iff_iff, shows_iff, mem_preorder.mp hr]
  simp [openAbove_iff]

/-- The stack of nodes gives what the recursion gives. All nodes below a node are listed once each,
a node in front of what is below it; on screen are, in the same order, the nodes that are not hidden
and have nothing hidden or folded above them; and both listings end. -/
theorem listings_agree (t : Tree) (p : Path) :
    (∃ n ≤ (t.childrenAt p).size, (Listing.round .all)^[n] (.start p (t.childrenAt p)) =
      ⟨[], t.descendants p⟩) ∧
    t.descendants p = rowsFrom p 0 (t.childrenAt p) ∧
    t.preorder = t.descendants [] ∧
    ((t.descendants p).map (·.path)).Nodup ∧
    (∀ r, r ∈ t.descendants p ↔ p.Above r.path ∧ t.node? r.path = some r.node) ∧
    (∃ n ≤ t.size, (Listing.round .onScreen)^[n] (.start [] t) = ⟨[], t.visible⟩) ∧
    t.visible = t.preorder.filter fun r => !r.node.flags.hidden &&
      (t.nodesAbove r.path).all fun n => !n.flags.hidden && n.flags.expanded := by
  have hall := Listing.exists_rounds .all p (t.childrenAt p)
  have hscreen := Listing.exists_rounds .onScreen [] t
  rw [rowsBy_all, ← descendants_eq] at hall
  rw [rowsBy_onScreen, ← visible_eq] at hscreen
  refine ⟨hall, descendants_eq t p, ?_, ?_, fun r => mem_descendants_iff_above, hscreen,
    visible_eq_filter_nodesAbove t⟩
  · rw [preorder_eq, descendants_eq, childrenAt_root]
  · rw [descendants_eq]
    exact nodup_rowsFrom p 0 (t.childrenAt p)

end Outline.Tree
