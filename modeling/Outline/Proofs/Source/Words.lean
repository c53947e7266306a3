import Outline.Document.Position
import Outline.Source.Lexer

/-!
# The order of words

A lexer goes past a word by cutting it off in front of its text (`word_eq_some`), and comes to its
words by skipping what stands between them (`Runs`). So it only moves forward, and a word begins
where it is found and ends on the line that the lexer is on afterwards (`Cuts`): the words of a
module are in order, both by the place where they begin and by the line on which they end
(`pairwise_lex`).
-/
namespace Outline.Source

/-- Where a word begins. -/
def Word.place (w : Word) : Position := ⟨w.line, w.column⟩

/-- The first word begins no later than the second, and ends on no later line. -/
structure Word.Before (w v : Word) : Prop where
  place : w.place.le v.place = true
  lastLine : w.lastLine ≤ v.lastLine

namespace Lexer

/-- Where a lexer is. -/
def place (l : Lexer) : Position := ⟨l.line, l.column⟩

/-! ## Going forward -/

theorem le_past (l : Lexer) (c : Char) : l.place.le (l.past c).place = true := by
  rw [Position.le_iff, past]
  split
  · exact .inl (Nat.lt_succ_self _)
  · exact .inr ⟨rfl, Nat.le_add_right _ _⟩

theorem le_foldl_past (cs : Text) (l : Lexer) : l.place.le (cs.foldl past l).place = true := by
  induction cs generalizing l with
  | nil => exact Position.le_refl _
  | cons c cs ih => exact Position.le_trans (l.le_past c) (ih (l.past c))

theorem le_skip (l : Lexer) (n : Nat) : l.place.le (l.skip n).place = true := le_foldl_past _ l

/-! ## One word -/

/-- A lexer goes past a word: the word begins where the lexer is, and ends before the lexer is on a
later line than then. -/
structure Cuts (l : Lexer) (w : Word) (l' : Lexer) : Prop where
  starts : w.place = l.place
  onward : l.line ≤ w.lastLine
  ends : w.lastLine ≤ l'.line
  forward : l.place.le l'.place = true

/-- A lexer in the same place of the same text. -/
structure On (l' l : Lexer) : Prop where
  rest : l'.rest = l.rest
  line : l'.line = l.line
  column : l'.column = l.column

theorem On.refl (l : Lexer) : l.On l := ⟨rfl, rfl, rfl⟩

theorem On.place_eq {l l' : Lexer} (h : l'.On l) : l'.place = l.place := by
  rw [place, place, h.line, h.column]

/-- Which words a text may begin with: what they are made into, and what is left of the text. -/
inductive Front (t : Text) : (Text → Lexeme) → Text → Prop
  | string {n : Nat} {after : Text} (hn : stringPrefix? t = some n)
    (h : afterQuotes (t.drop n) = some after) : Front t .string after
  | name : Front t Lexeme.ofName (t.drop (t.takeWhile isNameChar).length)
  | number {after : Text} (h : afterNumber t = some after) : Front t .number after
  | operator {op : String} (hop : op ∈ Lexeme.operators) (h : op.toList <+: t) :
    Front t (fun _ => .mark op) (t.drop op.length)

/-- A lexer goes past a word by cutting it off in front. -/
theorem word_eq_some {l l' : Lexer} {w : Word} (h : l.word = some (w, l')) :
    ∃ make after, Front l.rest make after ∧ w = (l.cut make after).1 ∧
      l'.On (l.cut make after).2 := by
  unfold word at h
  split at h
  · cases h
  · split at h
    · rename_i n hn
      obtain ⟨after, hafter, h⟩ := Option.bind_eq_some_iff.mp h
      cases h
      exact ⟨_, _, .string hn hafter, rfl, .refl _⟩
    · split at h
      · dsimp only at h
        split at h
        · cases h
          exact ⟨_, _, .name, rfl, .refl _⟩
        · cases h
      · split at h
        · obtain ⟨after, hafter, h⟩ := Option.bind_eq_some_iff.mp h
          cases h
          exact ⟨_, _, .number hafter, rfl, .refl _⟩
        · obtain ⟨op, hop, h⟩ := Option.bind_eq_some_iff.mp h
          obtain ⟨brackets, -, h⟩ := Option.bind_eq_some_iff.mp h
          cases h
          have hfound := List.find?_some hop
          exact ⟨_, _, .operator (List.mem_of_find?_eq_some hop)
            (List.isPrefixOf_iff_prefix.mp hfound), rfl, ⟨rfl, rfl, rfl⟩⟩

theorem cuts_word {l l' : Lexer} {w : Word} (h : l.word = some (w, l')) : l.Cuts w l' := by
  obtain ⟨make, after, -, rfl, hon⟩ := word_eq_some h
  refine ⟨rfl, Position.line_le_of_le (le_skip ..), Nat.le_of_eq hon.line.symm, ?_⟩
  rw [hon.place_eq]
  exact le_skip ..

/-- A lexer goes past a word by skipping its characters. -/
theorem on_word {l l' : Lexer} {w : Word} (h : l.word = some (w, l')) :
    ∃ n, l'.On (l.skip n) := by
  obtain ⟨make, after, -, -, hon⟩ := word_eq_some h
  exact ⟨_, hon⟩

theorem past_eq_skip {l : Lexer} {c : Char} {rest : Text} (h : l.rest = c :: rest) :
    l.past c = l.skip 1 := by
  rw [skip, h]
  rfl

/-- The marks that indentation leaves are no visible words. -/
theorem isVisible_of_adjust {width narrow : Nat} {levels left : Levels} {marks : List Lexeme}
    (h : adjust width narrow levels = some (marks, left)) : ∀ m ∈ marks, m.isVisible = false := by
  unfold adjust at h
  dsimp only at h
  split at h
  · split at h
    · cases h
      exact nofun
    · cases h
  · split at h
    · split at h
      · cases h
        exact List.forall_mem_singleton.mpr rfl
      · cases h
    · split at h
      · cases h
        intro m hm
        rw [List.eq_of_mem_replicate hm]
        rfl
      · cases h

/-- A line is begun by skipping its indentation; the marks that this leaves stand behind it. -/
theorem beginLine_eq_some {l l' : Lexer} {marks : List Word} (h : l.beginLine = some (marks, l')) :
    (∃ n, l'.On (l.skip n)) ∧
      ∀ m ∈ marks, m.place = l'.place ∧ m.lastLine = l'.line ∧ m.lexeme.isVisible = false := by
  unfold beginLine at h
  obtain ⟨i, -, h⟩ := Option.bind_eq_some_iff.mp h
  dsimp only at h
  split at h
  · cases h
    exact ⟨⟨i.length, rfl, rfl, rfl⟩, nofun⟩
  · obtain ⟨⟨lexemes, levels⟩, hadjust, h⟩ := Option.bind_eq_some_iff.mp h
    cases h
    refine ⟨⟨i.length, rfl, rfl, rfl⟩, fun m hm => ?_⟩
    obtain ⟨x, hx, rfl⟩ := List.mem_map.mp hm
    exact ⟨rfl, rfl, isVisible_of_adjust hadjust x hx⟩

/-! ## All words -/

/-- Whether a word may begin with the character. -/
def startsWord (c : Char) : Bool := !([' ', '\t', '\x0c', '\n', '#', '\\'].contains c)

/-- How a lexer comes to the words that are left: it skips characters, begins a line, or goes past
the end of a line or a word. -/
inductive Runs : Lexer → List Word → Prop
  | stop {l : Lexer} (h : l.rest = []) : Runs l []
  | skip {l l' : Lexer} {n : Nat} {ws : List Word} (h : l'.On (l.skip n)) (hr : Runs l' ws) :
    Runs l ws
  | begin {l l' : Lexer} {marks ws : List Word} (h : l.beginLine = some (marks, l'))
    (hr : Runs l' ws) : Runs l (marks ++ ws)
  | newline {l l' : Lexer} {ws : List Word} (h : l'.On (l.skip 1)) (hr : Runs l' ws) :
    Runs l (⟨.newline, l.line, l.column, l.line⟩ :: ws)
  | word {l l' : Lexer} {w : Word} {ws : List Word} (hc : l.rest.head?.any startsWord = true)
    (hw : l.word = some (w, l')) (hr : Runs l' ws) : Runs l (w :: ws)

theorem runs_run {fuel : Nat} {l : Lexer} {ws : List Word} (h : run fuel l = some ws) :
    l.Runs ws := by
  induction fuel generalizing l ws with
  | zero => cases h
  | succ fuel ih =>
    rw [run] at h
    split at h
    · obtain ⟨⟨marks, l'⟩, hbegin, h⟩ := Option.bind_eq_some_iff.mp h
      obtain ⟨rest, hrun, h⟩ := Option.bind_eq_some_iff.mp h
      cases h
      exact .begin hbegin (ih hrun)
    · split at h
      · rename_i hrest
        split at h
        · cases h
          exact .stop hrest
        · cases h
      · rename_i c rest hrest
        have hpast := past_eq_skip hrest
        split at h
        · rw [hpast] at h
          exact .skip (.refl _) (ih h)
        · rename_i hblank
          split at h
          · exact .skip (.refl _) (ih h)
          · rename_i hcomment
            split at h
            · dsimp only at h
              rw [hpast] at h
              have hon : On { l.skip 1 with atStart := true, blank := false } (l.skip 1) :=
                ⟨rfl, rfl, rfl⟩
              split at h
              · exact .skip hon (ih h)
              · obtain ⟨later, hrun, h⟩ := Option.bind_eq_some_iff.mp h
                cases h
                exact .newline hon (ih hrun)
            · rename_i hfeed
              split at h
              · split at h
                · exact .skip (.refl _) (ih h)
                · cases h
              · rename_i hbackslash
                obtain ⟨⟨w, l'⟩, hword, h⟩ := Option.bind_eq_some_iff.mp h
                obtain ⟨later, hrun, h⟩ := Option.bind_eq_some_iff.mp h
                cases h
                refine .word ?_ hword (ih hrun)
                simp only [not_or] at hblank
                simp [hrest, startsWord, hblank, hcomment, hfeed, hbackslash]

/-- What skipping keeps holds where any visible word is cut. -/
theorem Runs.exists_word {P : Lexer → Prop} (hskip : ∀ {l} n, P l → P (l.skip n))
    (hon : ∀ {l l' : Lexer}, l'.On l → P l → P l') {l : Lexer} {ws : List Word} (h : l.Runs ws)
    (hl : P l) : ∀ w ∈ ws, w.lexeme.isVisible = true →
      ∃ l₁ l₂, P l₁ ∧ l₁.rest.head?.any startsWord = true ∧ l₁.word = some (w, l₂) := by
  induction h with
  | stop => exact nofun
  | skip h _ ih => exact ih (hon h (hskip _ hl))
  | begin h _ ih =>
    obtain ⟨⟨n, hn⟩, hmarks⟩ := beginLine_eq_some h
    intro w hw hv
    rcases List.mem_append.mp hw with hw | hw
    · rw [(hmarks w hw).2.2] at hv
      cases hv
    · exact ih (hon hn (hskip _ hl)) w hw hv
  | newline h _ ih =>
    exact List.forall_mem_cons.mpr
      ⟨fun hv => absurd hv Bool.false_ne_true, ih (hon h (hskip _ hl))⟩
  | @word l l' w ws hc hw _ ih =>
    obtain ⟨n, hn⟩ := on_word hw
    exact List.forall_mem_cons.mpr ⟨fun _ => ⟨l, l', hl, hc, hw⟩, ih (hon hn (hskip _ hl))⟩

/-! ## The order of words -/

/-- Words in order, none of them before the place where a lexer is. -/
structure Ahead (l : Lexer) (ws : List Word) : Prop where
  inOrder : ws.Pairwise Word.Before
  place : ∀ w ∈ ws, l.place.le w.place = true
  lastLine : ∀ w ∈ ws, l.line ≤ w.lastLine

theorem Ahead.of_le {l l' : Lexer} {ws : List Word} (h : l'.Ahead ws)
    (hle : l.place.le l'.place = true) : l.Ahead ws where
  inOrder := h.inOrder
  place w hw := Position.le_trans hle (h.place w hw)
  lastLine w hw := Nat.le_trans (Position.line_le_of_le hle) (h.lastLine w hw)

theorem Ahead.cons {l l' : Lexer} {w : Word} {ws : List Word} (hw : l.Cuts w l')
    (h : l'.Ahead ws) : l.Ahead (w :: ws) where
  inOrder := List.pairwise_cons.mpr ⟨fun v hv =>
    ⟨hw.starts ▸ Position.le_trans hw.forward (h.place v hv),
      Nat.le_trans hw.ends (h.lastLine v hv)⟩, h.inOrder⟩
  place := List.forall_mem_cons.mpr
    ⟨hw.starts ▸ Position.le_refl _, (h.of_le hw.forward).place⟩
  lastLine := List.forall_mem_cons.mpr ⟨hw.onward, (h.of_le hw.forward).lastLine⟩

/-- Marks where the lexer is come before all words. -/
theorem Ahead.append {l : Lexer} {marks ws : List Word}
    (hm : ∀ m ∈ marks, m.place = l.place ∧ m.lastLine = l.line) (h : l.Ahead ws) :
    l.Ahead (marks ++ ws) := by
  induction marks with
  | nil => exact h
  | cons m marks ih =>
    obtain ⟨⟨hplace, hline⟩, hm⟩ := List.forall_mem_cons.mp hm
    exact .cons ⟨hplace, Nat.le_of_eq hline.symm, Nat.le_of_eq hline, Position.le_refl _⟩ (ih hm)

theorem Runs.ahead {l : Lexer} {ws : List Word} (h : l.Runs ws) : l.Ahead ws := by
  have hforward : ∀ {l l' : Lexer} {n : Nat}, l'.On (l.skip n) → l.place.le l'.place = true := by
    intro l l' n hon
    rw [hon.place_eq]
    exact le_skip ..
  induction h with
  | stop => exact ⟨.nil, nofun, nofun⟩
  | skip h _ ih => exact ih.of_le (hforward h)
  | begin h _ ih =>
    obtain ⟨⟨n, hn⟩, hmarks⟩ := beginLine_eq_some h
    exact (Ahead.append (fun m hm => ⟨(hmarks m hm).1, (hmarks m hm).2.1⟩) ih).of_le (hforward hn)
  | newline h _ ih =>
    have hle := hforward h
    exact .cons ⟨rfl, Nat.le_refl _, Position.line_le_of_le hle, hle⟩ ih
  | word _ hw _ ih => exact .cons (cuts_word hw) ih

end Lexer

/-- The words of a module are in order. -/
theorem pairwise_lex {t : Text} {ws : List Word} (h : lex t = some ws) :
    ws.Pairwise Word.Before := (Lexer.runs_run h).ahead.inOrder

end Outline.Source
