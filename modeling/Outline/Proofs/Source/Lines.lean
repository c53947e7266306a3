import Outline.Proofs.Source.Nesting

/-!
# Lines of words

No word takes the last line feed of a module with it: what is left behind a number, a string, a name
or an operator still ends with a line feed (`endsLine_afterNumber` and its kin). So a word ends on
one of the lines that the line feeds end (`lastLine_lt_of_lex`), and a statement with it
(`lastLine_lt_of_read`).
-/
namespace Outline.Source

/-- Whether a text ends with a line feed. -/
def EndsLine (t : Text) : Prop := t.getLast? = some '\n'

theorem not_endsLine_nil : ¬EndsLine [] := nofun

theorem EndsLine.tail {c : Char} {t : Text} (h : EndsLine (c :: t)) (hc : c ≠ '\n') :
    EndsLine t := by
  cases t with
  | nil => exact absurd (Option.some.inj h) hc
  | cons d t => exact h

theorem EndsLine.drop {t : Text} (h : EndsLine t) {n : Nat} (hn : n < t.length) :
    EndsLine (t.drop n) := by
  unfold EndsLine
  rw [List.getLast?_drop, if_neg (by omega)]
  exact h

/-! ## Numbers -/

theorem endsLine_afterDigits {isDigit : Char → Bool} (hd : isDigit '\n' = false) {t r : Text}
    (h : afterDigits isDigit t = some r) (ht : EndsLine t) : EndsLine r := by
  induction t with
  | nil => exact absurd ht not_endsLine_nil
  | cons c t ih =>
    rw [afterDigits] at h
    split at h
    · rename_i hc
      refine ih h (ht.tail ?_)
      rintro rfl
      rw [hd] at hc
      cases hc
    · split at h
      · rename_i hc
        subst hc
        split at h
        · exact ih h (ht.tail (by decide))
        · cases h
      · cases h
        exact ht

theorem endsLine_endNumber {t r : Text} (h : endNumber t = some r) (ht : EndsLine t) :
    EndsLine r := by
  unfold endNumber at h
  split at h
  · cases h
  · cases h
    exact ht

theorem endsLine_afterUnit {t r : Text} (h : afterUnit t = some r) (ht : EndsLine t) :
    EndsLine r := by
  unfold afterUnit at h
  split at h
  · exact endsLine_endNumber h (ht.tail (by decide))
  · exact endsLine_endNumber h (ht.tail (by decide))
  · exact endsLine_endNumber h ht

/-- Digits in front and what may follow them. -/
theorem endsLine_afterDigits_bind {isDigit : Char → Bool} (hd : isDigit '\n' = false)
    {next : Text → Option Text}
    (hnext : ∀ t r, next t = some r → EndsLine t → EndsLine r) {t r : Text}
    (h : (afterDigits isDigit t).bind next = some r) (ht : EndsLine t) : EndsLine r := by
  obtain ⟨after, hafter, h⟩ := Option.bind_eq_some_iff.mp h
  exact hnext after r h (endsLine_afterDigits hd hafter ht)

theorem endsLine_afterPower {whole t r : Text} (h : afterPower whole t = some r)
    (hw : EndsLine whole) (ht : EndsLine t) : EndsLine r := by
  have hdigits : ∀ {u : Text}, (afterDigits isAsciiDigit u).bind afterUnit = some r → EndsLine u →
      EndsLine r := fun hu =>
    endsLine_afterDigits_bind (by decide) (fun _ _ => endsLine_afterUnit) hu
  unfold afterPower at h
  split at h
  · rename_i c d _
    split at h
    · rename_i hc
      split at h
      · refine hdigits h (ht.tail ?_)
        rintro rfl
        revert hc
        decide
      · cases h
    · split at h
      · exact hdigits h ht
      · exact endsLine_endNumber h hw
  · rename_i c
    split at h
    · rename_i hc
      obtain rfl : c = '\n' := Option.some.inj ht
      exact absurd hc (by decide)
    · exact endsLine_endNumber h hw
  · exact endsLine_endNumber h hw

theorem endsLine_afterMantissa {t r : Text} (h : afterMantissa t = some r) (ht : EndsLine t) :
    EndsLine r := by
  unfold afterMantissa at h
  split at h
  · exact endsLine_afterPower h ht (ht.tail (by decide))
  · exact endsLine_afterPower h ht (ht.tail (by decide))
  · exact endsLine_afterUnit h ht

theorem endsLine_afterPoint {t r : Text} (h : afterPoint t = some r) (ht : EndsLine t) :
    EndsLine r := by
  unfold afterPoint at h
  split at h
  · exact endsLine_afterDigits_bind (by decide) (fun _ _ => endsLine_afterMantissa) h ht
  · exact endsLine_afterMantissa h ht

theorem endsLine_afterWhole {t r : Text} (h : afterWhole t = some r) (ht : EndsLine t) :
    EndsLine r := by
  unfold afterWhole at h
  split at h
  · exact endsLine_afterPoint h (ht.tail (by decide))
  · exact endsLine_afterMantissa h ht

theorem endsLine_afterRadix {isDigit : Char → Bool} (hd : isDigit '\n' = false) {t r : Text}
    (h : afterRadix isDigit t = some r) (ht : EndsLine t) : EndsLine r := by
  unfold afterRadix at h
  split at h
  · split at h
    · exact endsLine_afterDigits_bind hd (fun _ _ => endsLine_endNumber) h ht
    · cases h
  · cases h

theorem endsLine_afterNumber {t r : Text} (h : afterNumber t = some r) (ht : EndsLine t) :
    EndsLine r := by
  unfold afterNumber at h
  split at h
  · exact endsLine_afterPoint h (ht.tail (by decide))
  · have hrest := ht.tail (by decide)
    split at h
    · rename_i c more
      -- a number in another base, by the letter behind the zero
      have hmore : ∀ {a b : Char}, c = a ∨ c = b → a ≠ '\n' → b ≠ '\n' → EndsLine more := by
        intro a b hc ha hb
        refine hrest.tail ?_
        rcases hc with rfl | rfl
        · exact ha
        · exact hb
      split at h
      · rename_i hc
        exact endsLine_afterRadix (by decide) h (hmore hc (by decide) (by decide))
      · split at h
        · rename_i hc
          exact endsLine_afterRadix (by decide) h (hmore hc (by decide) (by decide))
        · split at h
          · rename_i hc
            exact endsLine_afterRadix (by decide) h (hmore hc (by decide) (by decide))
          · obtain ⟨after, hafter, h⟩ := Option.bind_eq_some_iff.mp h
            dsimp only at h
            split at h
            · exact endsLine_afterWhole h (endsLine_afterDigits (by decide) hafter hrest)
            · cases h
    · exact absurd hrest not_endsLine_nil
  · exact endsLine_afterDigits_bind (by decide) (fun _ _ => endsLine_afterWhole) h ht

/-! ## Strings -/

theorem endsLine_afterString {quote : Char} (hq : quote ≠ '\n') {size run : Nat} {t r : Text}
    (h : afterString quote size run t = some r) (ht : EndsLine t) : EndsLine r := by
  -- a string that ends with the text is not closed
  have hgo : ∀ {c : Char} {t : Text} {run : Nat}, EndsLine (c :: t) →
      afterString quote size run t = some r → EndsLine t := by
    intro c t run hct hr
    cases t with
    | nil => cases hr
    | cons d t => exact hct
  fun_induction afterString quote size run t with
  | case1 | case4 | case6 => cases h
  | case2 =>
    cases h
    exact ht.tail hq
  | case3 run rest _ ih => exact ih h (ht.tail hq)
  | case5 run c more _ _ ih => exact ih h (hgo (ht.tail (by decide)) h)
  | case7 run c rest _ _ _ ih => exact ih h (hgo ht h)

theorem endsLine_afterQuotes {c : Char} (hc : c ≠ '\n') {t r : Text}
    (h : afterQuotes (c :: t) = some r) (ht : EndsLine (c :: t)) : EndsLine r := by
  have htail := ht.tail hc
  match t with
  | [] => cases h
  | [b] =>
    rw [afterQuotes] at h
    split at h
    · rename_i hb
      subst hb
      exact absurd (Option.some.inj htail) hc
    · cases h
  | b :: d :: rest =>
    rw [afterQuotes] at h
    split at h
    · rename_i heq
      obtain ⟨rfl, rfl⟩ := heq
      exact endsLine_afterString hc h ((htail.tail hc).tail hc)
    · split at h
      · rename_i hb
        subst hb
        cases h
        exact htail.tail hc
      · exact endsLine_afterString hc h htail

/-- A string begins with a quote behind its prefix. -/
theorem drop_of_stringPrefix? {t : Text} {n : Nat} (h : stringPrefix? t = some n) :
    ∃ c rest, t.drop n = c :: rest ∧ c ≠ '\n' := by
  unfold stringPrefix? at h
  dsimp only at h
  split at h
  · rename_i c rest hdrop
    split at h
    · rename_i hc
      cases h
      refine ⟨c, rest, hdrop, ?_⟩
      rintro rfl
      exact absurd hc.1 (by decide)
    · cases h
  · cases h

/-! ## Words -/

namespace Lexer

theorem rest_foldl_past (cs : Text) (l : Lexer) :
    (cs.foldl past l).rest = l.rest.drop cs.length := by
  induction cs generalizing l with
  | nil => rfl
  | cons c cs ih =>
    have hpast : (l.past c).rest = l.rest.tail := by
      unfold past
      split <;> rfl
    rw [List.foldl_cons, ih, hpast, List.drop_tail, List.length_cons]

theorem line_foldl_past (cs : Text) (l : Lexer) :
    (cs.foldl past l).line = l.line + cs.count '\n' := by
  induction cs generalizing l with
  | nil => rfl
  | cons c cs ih =>
    rw [List.foldl_cons, ih, past]
    split
    · rename_i hc
      subst hc
      rw [List.count_cons_self]
      dsimp only
      omega
    · rename_i hc
      rw [List.count_cons_of_ne hc]

theorem rest_skip (l : Lexer) (n : Nat) : (l.skip n).rest = l.rest.drop n := by
  rw [skip, rest_foldl_past, List.length_take]
  rcases Nat.le_total n l.rest.length with h | h
  · rw [Nat.min_eq_left h]
  · rw [Nat.min_eq_right h, List.drop_length, List.drop_of_length_le h]

/-- A lexer in a text that so many line feeds end, the last one at the end of the text. -/
structure Within (l : Lexer) (lines : Nat) : Prop where
  total : l.line + l.rest.count '\n' = lines
  ends : l.rest = [] ∨ EndsLine l.rest

section

variable {l : Lexer} {lines : Nat}

theorem Within.skip (h : l.Within lines) (n : Nat) : (l.skip n).Within lines := by
  refine ⟨?_, ?_⟩
  · have hsplit : l.rest.count '\n' = (l.rest.take n).count '\n' + (l.rest.drop n).count '\n' := by
      rw [← List.count_append, List.take_append_drop]
    have htotal := h.total
    rw [rest_skip, Lexer.skip, line_foldl_past]
    omega
  · rw [rest_skip]
    by_cases hn : n < l.rest.length
    · rcases h.ends with hnil | hends
      · rw [hnil] at hn
        cases hn
      · exact .inr (hends.drop hn)
    · exact .inl (List.drop_of_length_le (Nat.le_of_not_lt hn))

/-- With text left, the lexer is before the end of the last line. -/
theorem Within.line_lt (h : l.Within lines) (hl : l.rest ≠ []) : l.line < lines := by
  have hmem : '\n' ∈ l.rest := List.mem_of_getLast? (h.ends.resolve_left hl)
  have hpos := List.count_pos_iff.mpr hmem
  have htotal := h.total
  omega

/-- A word that leaves the last line feed ends on a line. -/
theorem lastLine_cut_lt (h : l.Within lines) (hl : l.rest ≠ []) (make : Text → Lexeme)
    {after : Text} (ha : EndsLine after) : (l.cut make after).1.lastLine < lines := by
  have hafter : after ≠ [] := by
    rintro rfl
    exact not_endsLine_nil ha
  refine (h.skip (l.rest.length - after.length)).line_lt ?_
  have hlength := List.length_pos_iff.mpr hl
  have hlengthAfter := List.length_pos_iff.mpr hafter
  rw [rest_skip, ne_eq, List.drop_eq_nil_iff]
  omega

/-- A front part of a text that has no line feed leaves the last one. -/
theorem endsLine_drop {t front : Text} (ht : EndsLine t) (hp : front <+: t)
    (hf : '\n' ∉ front) : EndsLine (t.drop front.length) := by
  refine ht.drop (Nat.lt_of_le_of_ne hp.length_le fun heq => ?_)
  rw [hp.eq_of_length heq] at hf
  exact hf (List.mem_of_getLast? ht)

theorem lineFeed_not_mem_operator : ∀ op ∈ Lexeme.operators, '\n' ∉ op.toList := by decide

/-- No word takes the last line feed with it. -/
theorem Front.endsLine {t after : Text} {make : Text → Lexeme} (h : Front t make after)
    (ht : EndsLine t) : EndsLine after := by
  cases h with
  | @string n _ hn hafter =>
    obtain ⟨quote, behind, hdrop, hquote⟩ := drop_of_stringPrefix? hn
    have hlt : n < t.length := by
      rw [← Nat.not_le, ← List.drop_eq_nil_iff, hdrop]
      exact List.cons_ne_nil _ _
    have hquotes := ht.drop hlt
    rw [hdrop] at hafter hquotes
    exact endsLine_afterQuotes hquote hafter hquotes
  | name =>
    refine endsLine_drop ht (List.takeWhile_prefix _) fun hmem => ?_
    exact absurd (List.all_eq_true.mp List.all_takeWhile _ hmem) (by decide)
  | number hafter => exact endsLine_afterNumber hafter ht
  | @operator op hop hfront =>
    have hafter := endsLine_drop ht hfront (lineFeed_not_mem_operator op hop)
    rwa [String.length_toList] at hafter

theorem Within.on (h : l.Within lines) {l' : Lexer} (hl : l'.On l) : l'.Within lines :=
  ⟨by rw [hl.line, hl.rest]; exact h.total, by rw [hl.rest]; exact h.ends⟩

/-- Every visible word ends on a line. -/
theorem Runs.lastLine_lt {ws : List Word} (hr : l.Runs ws) (h : l.Within lines) :
    ∀ w ∈ ws, w.lexeme.isVisible = true → w.lastLine < lines := by
  intro w hw hv
  obtain ⟨l₁, l₂, hl, hstarts, hword⟩ := hr.exists_word (P := (·.Within lines))
    (fun n h => Within.skip h n) (fun hon h => Within.on h hon) h w hw hv
  obtain ⟨make, after, hfront, rfl, -⟩ := word_eq_some hword
  have hrest : l₁.rest ≠ [] := by
    intro hnil
    rw [hnil] at hstarts
    cases hstarts
  exact lastLine_cut_lt hl hrest make (hfront.endsLine (hl.ends.resolve_left hrest))

end

end Lexer

theorem endsLine_unifyModule (t : Text) : EndsLine (unifyModule t) := by
  unfold unifyModule
  dsimp only
  split
  · assumption
  · exact List.getLast?_concat

theorem lastLine_lt_of_lex {t : Text} {ws : List Word} (h : lex t = some ws) :
    ∀ w ∈ ws, w.lexeme.isVisible = true → w.lastLine < (unifyModule t).count '\n' :=
  (Lexer.runs_run h).lastLine_lt ⟨Nat.zero_add _, .inr (endsLine_unifyModule t)⟩

/-! ## Statements -/

theorem Feed.Leads.last_lt {f g : Feed} (h : f.Leads g) {lines : Nat}
    (hw : ∀ w ∈ f.rest, w.lexeme.isVisible = true → w.lastLine < lines) (hf : f.last < lines) :
    g.last < lines := by
  induction h with
  | refl => exact hf
  | @word w rest last g _ ih =>
    obtain ⟨hfirst, hrest⟩ := List.forall_mem_cons.mp hw
    refine ih hrest ?_
    dsimp only
    split
    · exact hfirst ‹_›
    · exact hf

/-- Every statement of a module ends on a line that a line feed ends. -/
theorem lastLine_lt_of_read {t : Text} {b : Block} (h : Block.read t = .ok b) :
    ∀ x ∈ b.extents, x.lastLine < (unifyModule t).count '\n' := by
  intro x hx
  obtain ⟨words, g, hlex, hlead, hb⟩ := between_read h
  have hpos : 0 < (unifyModule t).count '\n' :=
    List.count_pos_iff.mpr (List.mem_of_getLast? (endsLine_unifyModule t))
  have hlast := hlead.last_lt (lastLine_lt_of_lex hlex) hpos
  exact Nat.lt_of_le_of_lt (hb.extents x hx).ends hlast

/-! ## Carriage returns -/

/-- Whether every carriage return stands directly before a line feed. -/
def ReturnsEndLines (t : Text) : Prop := ∀ before after, t = before ++ '\r' :: after →
  after.head? = some '\n'

theorem ReturnsEndLines.tail {c : Char} {t : Text} (h : ReturnsEndLines (c :: t)) :
    ReturnsEndLines t := by
  rintro before after rfl
  exact h (c :: before) after rfl

theorem count_unifyLineEnds {t : Text} (h : ReturnsEndLines t) :
    (Text.unifyLineEnds t).count '\n' = t.count '\n' := by
  fun_induction Text.unifyLineEnds t with
  | case1 => rfl
  | case2 cs ih =>
    have hr : ('\r' :: '\n' :: cs).count '\n' = ('\n' :: cs).count '\n' :=
      List.count_cons_of_ne (by decide)
    rw [hr, List.count_cons_self, List.count_cons_self, ih h.tail.tail]
  | case3 c cs hno ih =>
    have hc : c ≠ '\r' := by
      rintro rfl
      obtain ⟨rest, rfl⟩ := List.head?_eq_some_iff.mp (h [] cs rfl)
      exact hno rest rfl rfl
    rw [if_neg hc, List.count_cons, List.count_cons, ih h.tail]

/-- If no carriage return stands alone, the document has as many lines as the module. -/
theorem count_unifyModule_le {t : Text} (h : ReturnsEndLines t) :
    (unifyModule t).count '\n' ≤ t.count '\n' + 1 := by
  unfold unifyModule
  dsimp only
  split
  · rw [count_unifyLineEnds h]
    omega
  · rw [List.count_append, count_unifyLineEnds h]
    exact Nat.le_refl _

end Outline.Source
