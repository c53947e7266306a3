import Outline.Proofs.Document.Words
import Outline.Proofs.Except
import Outline.Proofs.Pattern.Runs

/-!
# The word that a position touches

The words of a line are what the pattern `\w+` finds in it, one match after the other
(`finds_words_iff`): where a word begins the pattern takes up all of it (`matchAt_word`), and from a
place without a word character it has no match (`matchAt_elsewhere`). So the word at a position,
which is the first match that the position lies in or at the edge of, is the one word that it
touches (`wordAt_touched`).
-/
namespace Outline

namespace Pattern

/-! ## One match after the other -/

namespace Compiled

variable {c : Compiled} {t : Text} {i stop : Nat} {ms : List (Nat × Nat)}

/-- The first match in a text from a place on, as start and end. -/
def firstFrom (c : Compiled) (t : Text) (i : Nat) : Option (Nat × Nat) :=
  c.searchFrom t.toArray i (t.length + 1 - i)

theorem firstFrom_of_matchAt (hi : i ≤ t.length) (h : c.matchAt t.toArray i = some stop) :
    c.firstFrom t i = some (i, stop) := by
  rw [firstFrom, Nat.succ_sub hi, searchFrom, h]

theorem firstFrom_of_no_matchAt (hi : i ≤ t.length) (h : c.matchAt t.toArray i = none) :
    c.firstFrom t i = c.firstFrom t (i + 1) := by
  rw [firstFrom, Nat.succ_sub hi, searchFrom, h, firstFrom, Nat.add_sub_add_right]

theorem firstFrom_behind (hi : t.length < i) : c.firstFrom t i = none := by
  rw [firstFrom, Nat.sub_eq_zero_of_le hi]
  rfl

/-- The matches in a text from a place on, where each takes up something: the first one, and those
from its end on. -/
inductive Finds (c : Compiled) (t : Text) : Nat → List (Nat × Nat) → Prop
  | done {i : Nat} (h : c.firstFrom t i = none) : Finds c t i []
  | next {i start stop : Nat} {ms : List (Nat × Nat)} (h : c.firstFrom t i = some (start, stop))
    (hlt : start < stop) (rest : Finds c t stop ms) : Finds c t i ((start, stop) :: ms)

theorem Finds.unique {ms' : List (Nat × Nat)} (h : c.Finds t i ms) (h' : c.Finds t i ms') :
    ms = ms' := by
  induction h generalizing ms' with
  | done hnone =>
    cases h' with
    | done => rfl
    | next hsome =>
      rw [hnone] at hsome
      cases hsome
  | next hsome _ _ ih =>
    cases h' with
    | done hnone =>
      rw [hnone] at hsome
      cases hsome
    | next hsome' _ hrest =>
      rw [hsome] at hsome'
      cases hsome'
      rw [ih hrest]

/-- A place from which nothing matches may be left out. -/
theorem Finds.skip (hi : i ≤ t.length) (hnone : c.matchAt t.toArray i = none)
    (h : c.Finds t (i + 1) ms) : c.Finds t i ms := by
  cases h with
  | done h => exact .done ((firstFrom_of_no_matchAt hi hnone).trans h)
  | next h hlt rest => exact .next ((firstFrom_of_no_matchAt hi hnone).trans h) hlt rest

end Compiled

/-! ## Words -/

/-- What `\w+` is read as. -/
def wordPattern : Compiled where
  expr := .repeated .greedy 1 none (.atom (.set false [.class .word true]))
  flags := {}
  groups := 0

theorem read_wordPattern : read {} "\\w+".toList = .ok wordPattern :=
  toOption_eq_some.mp (by decide +kernel)

theorem run_wordChar (t : Text) :
    (Expr.atom (.set false [.class .word true])).run t.toArray {} = Matcher.one t isWordChar :=
  Matcher.run_eq_one nofun nofun fun c => by
    simp [Atom.accepts, setHolds, Flags.folding, Member.holds, Category.holds]

theorem matchAt_wordPattern (t : Text) (i : Nat) :
    wordPattern.matchAt t.toArray i =
      (Matcher.one t isWordChar (State.start 0 i) fun s =>
        Matcher.greedy t.length (Matcher.one t isWordChar) none s some).map (·.pos) := by
  rw [← run_wordChar, ← List.size_toArray]
  rfl

variable {t : Text} {i start stop : Nat}

/-- Where a word begins, all of it is taken up. -/
theorem matchAt_word (h : IsWord t start stop) :
    wordPattern.matchAt t.toArray start = some stop := by
  obtain ⟨word, rest, ht, hlen, hword, hrest⟩ := h.exists_cut
  cases word with
  | nil =>
    have hlt := h.lt
    rw [List.length_nil] at hlen
    omega
  | cons c word =>
    obtain ⟨hc, hword⟩ := List.forall_mem_cons.mp hword
    obtain ⟨hat, hbehind⟩ := Matcher.drop_eq_cons_iff.mp ht
    have hfirst : t[(State.start 0 start).pos]? = some c := hat
    have hothers : t.drop (start + 1) = word ++ rest := hbehind
    rw [matchAt_wordPattern, Matcher.one_of_getElem? hfirst hc,
      Matcher.greedy_one_some hothers hword hrest, Option.map_some, ← hlen, List.length_cons]
    exact congrArg some (by simp only [State.start]; omega)

/-- Where no word character stands, nothing matches. -/
theorem matchAt_elsewhere (h : t.wordCharAt i = false) :
    wordPattern.matchAt t.toArray i = none := by
  rw [matchAt_wordPattern, Matcher.one]
  split
  · rename_i c hc
    have hc : t[i]? = some c := hc
    rw [Text.wordCharAt_of_getElem? hc] at h
    rw [h]
    rfl
  · rfl

/-- Where no word character stands, a word that began before is found to end. -/
theorem finds_end {since : Option Nat} {ms : List (Nat × Nat)} (h : Document.BeganAt t i since)
    (hc : t.wordCharAt i = false) (hms : wordPattern.Finds t i ms) :
    wordPattern.Finds t (since.getD i) ((since.map (·, i)).toList ++ ms) := by
  cases since with
  | none => exact hms
  | some start =>
    have hw : IsWord t start i := (h.isWord_iff hc).mpr rfl
    have hle : start ≤ t.length := Nat.le_trans (Nat.le_of_lt hw.lt) hw.le_length
    exact .next (Compiled.firstFrom_of_matchAt hle (matchAt_word hw)) hw.lt hms

/-- Behind the last character nothing is found. -/
theorem finds_nil (h : t.length ≤ i) : wordPattern.Finds t i [] := by
  have hbehind {j : Nat} (hj : t.length < j) : wordPattern.Finds t j [] :=
    .done (Compiled.firstFrom_behind hj)
  rcases Nat.lt_or_eq_of_le h with hlt | rfl
  · exact hbehind hlt
  · have hnone := matchAt_elsewhere (Text.wordCharAt_of_length_le (Nat.le_refl t.length))
    exact .skip (Nat.le_refl _) hnone (hbehind (Nat.lt_succ_self _))

/-- From where a word began, or else from the place reached, the pattern finds the runs that are
still to come. -/
theorem finds_wordRunsFrom {rest : Text} (hrest : t.drop i = rest) {since : Option Nat}
    (h : Document.BeganAt t i since) :
    wordPattern.Finds t (since.getD i) (Document.wordRunsFrom i since rest) := by
  -- along the rest of the text; while a word goes on, the search stays where the word began
  induction rest generalizing i since with
  | nil =>
    have hlen : t.length ≤ i := List.drop_eq_nil_iff.mp hrest
    rw [Document.wordRunsFrom_nil, ← List.append_nil (Option.toList _)]
    exact finds_end h (Text.wordCharAt_of_length_le hlen) (finds_nil hlen)
  | cons c cs ih =>
    obtain ⟨hat, hcs⟩ := Matcher.drop_eq_cons_iff.mp hrest
    have hc := Text.wordCharAt_of_getElem? hat
    rw [Document.wordRunsFrom_cons]
    split
    · rename_i hword
      rw [hword] at hc
      exact ih hcs (h.next hc)
    · rename_i hword
      rw [Bool.eq_false_iff.mpr hword] at hc
      have hle : i ≤ t.length := Nat.le_of_lt (List.getElem?_eq_some_iff.mp hat).1
      have hbehind := ih hcs (Document.BeganAt.none_of_not hc)
      exact finds_end h hc (.skip hle (matchAt_elsewhere hc) hbehind)

/-- What the pattern finds in a text are its words. -/
theorem finds_words_iff {ms : List (Nat × Nat)} :
    wordPattern.Finds t 0 ms ↔ ms = Document.wordRuns t := by
  have hfinds := finds_wordRunsFrom (List.drop_zero (l := t)) Document.beganAt_zero
  constructor
  · intro h
    exact h.unique hfinds
  · rintro rfl
    exact hfinds

end Pattern

/-! ## At a position -/

/-- A word of a text that a place lies in or at the edge of. -/
structure Touches (t : Text) (i : Nat) (start stop : Nat) : Prop where
  word : IsWord t start stop
  start_le : start ≤ i
  le_stop : i ≤ stop

namespace Document

/-- **The word at a position.** The runs of word characters that a line is searched for are what the
pattern `\w+` finds in it, one match after the other. There is a word at a position if and only if
its line is one of the document and has a word that the position touches; the line has no other such
word then, and the word is what is found, on that line. -/
theorem wordAt_touched (d : Document) (p : Position) :
    (∃ c, Pattern.read {} "\\w+".toList = .ok c ∧ ∀ t ms, c.Finds t 0 ms ↔ ms = wordRuns t) ∧
    ((d.wordAt p).isSome = true ↔ p.line < d.lineCount ∧
      ∃ text start stop, d.lines[p.line]? = some text ∧ Touches text p.character start stop) ∧
    ∀ text start stop, d.lines[p.line]? = some text → Touches text p.character start stop →
      (∀ start' stop', Touches text p.character start' stop' → start' = start ∧ stop' = stop) ∧
        d.wordAt p = some (Range.ofCoords p.line start p.line stop) := by
  refine ⟨⟨_, Pattern.read_wordPattern, fun _ _ => Pattern.finds_words_iff⟩, ?_,
    fun text start stop htext h => ⟨fun start' stop' h' => ?_, ?_⟩⟩
  · rw [Option.isSome_iff_exists]
    constructor
    · rintro ⟨r, hr⟩
      obtain ⟨text, start, stop, htext, hw, hstart, hstop, -⟩ := wordAt_eq_some.mp hr
      exact ⟨(List.getElem?_eq_some_iff.mp htext).1, text, start, stop, htext, hw, hstart, hstop⟩
    · rintro ⟨-, text, start, stop, htext, h⟩
      exact ⟨_, wordAt_eq_some.mpr ⟨text, start, stop, htext, h.word, h.start_le, h.le_stop, rfl⟩⟩
  · exact h.word.unique h'.word ⟨h.start_le, h.le_stop⟩ ⟨h'.start_le, h'.le_stop⟩
  · exact wordAt_eq_some.mpr ⟨text, start, stop, htext, h.word, h.start_le, h.le_stop, rfl⟩

/-- Behind the last character of a word, on a line that ends with a carriage return. -/
theorem wordAt_touched_sample :
    let d : Document := { text := "x = 1\r\ndef f_1():\r\n".toList }
    let p : Position := ⟨1, 7⟩
    let line := "def f_1():".toList
    d.lines[p.line]? = some line ∧ Touches line p.character 4 7 ∧
      (∀ start stop, Touches line p.character start stop → start = 4 ∧ stop = 7) ∧
      d.wordAt p = some (Range.ofCoords 1 4 1 7) := by
  intro d p line
  have htext : d.lines[p.line]? = some line := by decide
  have htouches : Touches line p.character 4 7 :=
    ⟨mem_wordRuns.mp (by decide), by decide, by decide⟩
  obtain ⟨-, -, htouched⟩ := wordAt_touched d p
  obtain ⟨hunique, hfound⟩ := htouched line 4 7 htext htouches
  exact ⟨htext, htouches, hunique, hfound⟩

end Document
end Outline
