import Outline.Proofs.Pattern.Faults
import Outline.Proofs.Query.Delimiters
import Outline.Proofs.Search.Apply

/-!
# Queries that end early

A query tests one text after the other, the lines of the document or the names of the symbols, and
at each text takes its words in order up to the first that fails. A word whose pattern cannot be
compiled for being malformed fails at every text (`matchSpans_malformed`). A pattern that is turned
down in any other way ends the query, at the first text that all words before it let through
(`EndsAt`, `apply_error_iff`), and everything stays hidden then (`apply_fails_iff`). Only a few
patterns are, and their text shows it (`Token.shownIn_of_abort`).
-/
namespace Outline

/-! ## One word -/

/-- Why a query ends shows in the pattern of a word. -/
def Abort.ShownIn (p : Text) : Abort → Prop
  | .repetitionTooLarge => Pattern.HasNumber p (Pattern.repetitionLimit ≤ Pattern.decimalNumber ·)
  | .numberTooLong digits => Pattern.HasNumber p (·.length = digits) ∧ Text.digitLimit < digits
  | .clashingAlphabets => Pattern.HasBothAlphabets p

namespace RegexToken

theorem infix_body {t body letters : Text} (h : split? t = some (body, letters)) : body <:+: t := by
  rcases (split?_eq_some_iff.mp h).text with rfl | rfl
  · exact ⟨['/'], '/' :: letters, by simp⟩
  · exact ⟨['/'], '/' :: letters ++ ['\n'], by simp⟩

theorem shownIn_of_compile? {pattern : Text} {a : Abort} (h : compile? pattern = .error a) :
    a.ShownIn pattern := by
  unfold compile? at h
  split at h
  · cases h
  · rename_i body letters hsplit
    have hshown {f : Pattern.Fault} (hf : Pattern.read (flags letters) body = .error f) :
        f.ShownIn body := Pattern.shownIn_of_read rfl rfl hf
    split at h
    · cases h
    · cases h
    · rename_i hread
      cases h
      exact (hshown hread).mono (infix_body hsplit)
    · rename_i hread
      cases h
      exact ⟨(hshown hread).1.mono (infix_body hsplit), (hshown hread).2⟩
    · rename_i hread
      cases h
      exact (hshown hread).mono (infix_body hsplit)

end RegexToken

namespace Token

/-- Why looking for the word ends the query, if it does. -/
def abort? (t : Token) : Option Abort :=
  if t.isRegex then
    match RegexToken.compile? t.pattern with
    | .ok _ => none
    | .error a => some a
  else none

/-- Whether the word is a malformed pattern. -/
def Malformed (t : Token) : Prop := t.isRegex = true ∧ RegexToken.compile? t.pattern = .ok none

instance (t : Token) : Decidable t.Malformed :=
  decidable_of_iff (t.isRegex = true ∧ (RegexToken.compile? t.pattern).toOption.map (·.isNone) =
    some true) (by
      unfold Malformed
      rcases RegexToken.compile? t.pattern with a | _ | p <;> simp [Except.toOption])

theorem spans?_malformed {t : Token} (h : t.Malformed) (text : Text) :
    t.spans? text = .ok none := by
  rw [spans?, locate, if_pos h.1, h.2]
  rfl

theorem locate_of_abort {t : Token} {a : Abort} (h : t.abort? = some a) (text : Text) :
    t.locate text = .error a := by
  unfold abort? at h
  split at h
  · rename_i hr
    split at h
    · cases h
    · rename_i b hc
      cases h
      rw [locate, if_pos hr, hc]
      rfl
  · cases h

theorem locate_of_no_abort {t : Token} (h : t.abort? = none) (text : Text) :
    ∃ found, t.locate text = .ok found := by
  unfold abort? at h
  rw [locate]
  split
  · rename_i hr
    rw [if_pos hr] at h
    split at h
    · rename_i p hc
      rw [hc]
      cases p <;> exact ⟨_, rfl⟩
    · cases h
  · exact ⟨_, rfl⟩

theorem spans?_error {t : Token} {text : Text} {a : Abort} :
    t.spans? text = .error a ↔ t.abort? = some a := by
  cases h : t.abort? with
  | some b =>
    rw [spans?, locate_of_abort h]
    exact ⟨fun hb => by cases hb; rfl, fun hb => by cases hb; rfl⟩
  | none =>
    obtain ⟨found, hf⟩ := locate_of_no_abort h text
    have hok : ∃ ss, t.spans? text = .ok ss := by
      cases found with
      | none => exact ⟨none, by rw [spans?, hf]; rfl⟩
      | some found => exact ⟨_, spans?_of_found hf⟩
    obtain ⟨ss, hss⟩ := hok
    simp [hss]

/-- A word that ends a query is a pattern, and its text shows why. -/
theorem shownIn_of_abort {t : Token} {a : Abort} (h : t.abort? = some a) :
    t.isRegex = true ∧ a.ShownIn t.pattern := by
  unfold abort? at h
  split at h
  · rename_i hr
    split at h
    · cases h
    · rename_i b hc
      cases h
      exact ⟨hr, RegexToken.shownIn_of_compile? hc⟩
  · cases h

end Token

/-! ## One text -/

/-- Whether the words end the query at a text: all words before one that does so let the text
through. -/
def EndsAt (ts : List Token) (text : Text) (a : Abort) : Prop :=
  ∃ before t after, ts = before ++ t :: after ∧ (∃ ss, matchSpans text before = .ok (some ss)) ∧
    t.abort? = some a

theorem matchSpans_error {ts : List Token} {text : Text} {a : Abort} :
    matchSpans text ts = .error a ↔ EndsAt ts text a := by
  induction ts with
  | nil =>
    refine ⟨nofun, fun ⟨before, t, after, h, _⟩ => ?_⟩
    exact absurd h (List.append_ne_nil_of_right_ne_nil _ (List.cons_ne_nil _ _)).symm
  | cons t ts ih =>
    rw [matchSpans, bind_eq_error, Token.spans?_error]
    constructor
    · rintro (ha | ⟨found, hfound, h⟩)
      · exact ⟨[], t, ts, rfl, ⟨[], rfl⟩, ha⟩
      · cases found with
        | none => cases h
        | some ss =>
          obtain h | ⟨later, -, h⟩ := bind_eq_error.mp h
          · obtain ⟨before, u, after, rfl, ⟨rest, hrest⟩, ha⟩ := ih.mp h
            exact ⟨t :: before, u, after, rfl, ⟨ss ++ rest, matchSpans_cons.mpr
              ⟨ss, rest, hfound, hrest, rfl⟩⟩, ha⟩
          · cases later <;> cases h
    · rintro ⟨before, u, after, h, ⟨r, hr⟩, ha⟩
      cases before with
      | nil =>
        cases h
        exact Or.inl ha
      | cons t' before =>
        cases h
        obtain ⟨ss, rest, hss, hrest, -⟩ := matchSpans_cons.mp hr
        have hlater := ih.mpr ⟨before, u, after, rfl, ⟨rest, hrest⟩, ha⟩
        exact Or.inr ⟨some ss, hss, bind_eq_error.mpr (Or.inl hlater)⟩

/-- A malformed pattern lets no text through, whether it is negated or not. -/
theorem matchSpans_malformed {ts : List Token} {t : Token} (ht : t ∈ ts) (hm : t.Malformed)
    (text : Text) (ss : List Span) : matchSpans text ts ≠ .ok (some ss) := by
  intro h
  obtain ⟨before, after, rfl⟩ := List.append_of_mem ht
  obtain ⟨-, rest, -, hrest, -⟩ := matchSpans_append.mp h
  obtain ⟨_, _, hspans, -, -⟩ := matchSpans_cons.mp hrest
  rw [Token.spans?_malformed hm] at hspans
  cases hspans

/-! ## One text after the other -/

/-- Whether the words end the query among some texts, the first at which they do decides how. -/
def EndsAmong (ts : List Token) (texts : List Text) (a : Abort) : Prop :=
  ∃ before text after, texts = before ++ text :: after ∧ (∀ u ∈ before, ∀ b, ¬EndsAt ts u b) ∧
    EndsAt ts text a

theorem not_endsAmong_nil (ts : List Token) (a : Abort) : ¬EndsAmong ts [] a := by
  rintro ⟨before, text, after, h, -⟩
  exact List.append_ne_nil_of_right_ne_nil _ (List.cons_ne_nil _ _) h.symm

theorem endsAmong_cons {ts : List Token} {text : Text} {texts : List Text} {a : Abort} :
    EndsAmong ts (text :: texts) a ↔
      EndsAt ts text a ∨ (∀ b, ¬EndsAt ts text b) ∧ EndsAmong ts texts a := by
  constructor
  · rintro ⟨before, u, after, h, hbefore, hu⟩
    cases before with
    | nil =>
      cases h
      exact Or.inl hu
    | cons v before =>
      cases h
      exact Or.inr ⟨hbefore _ (List.mem_cons_self ..), before, u, after, rfl,
        fun w hw => hbefore w (List.mem_cons_of_mem _ hw), hu⟩
  · rintro (h | ⟨hno, before, u, after, rfl, hbefore, hu⟩)
    · exact ⟨[], text, texts, rfl, nofun, h⟩
    · exact ⟨text :: before, u, after, rfl, List.forall_mem_cons.mpr ⟨hno, hbefore⟩, hu⟩

theorem exists_endsAmong {ts : List Token} {texts : List Text} :
    (∃ a, EndsAmong ts texts a) ↔ ∃ text ∈ texts, ∃ a, EndsAt ts text a := by
  induction texts with
  | nil => simp [not_endsAmong_nil]
  | cons text texts ih =>
    simp only [endsAmong_cons, List.mem_cons, exists_eq_or_imp, ← ih]
    by_cases h : ∃ a, EndsAt ts text a
    · exact iff_of_true (h.imp fun _ ha => Or.inl ha) (Or.inl h)
    · have hno : ∀ b, ¬EndsAt ts text b := fun b hb => h ⟨b, hb⟩
      simp [hno]

theorem matchLine_error {n : Nat} {ts : List Token} {text : Text} {a : Abort} :
    matchLine n text ts = .error a ↔ EndsAt ts text a := by
  rw [matchLine, bind_eq_error, matchSpans_error]
  exact or_iff_left (by rintro ⟨_, _, h⟩; cases h)

theorem matchLine_isOk {n : Nat} {ts : List Token} {text : Text} :
    (∃ hit, matchLine n text ts = .ok hit) ↔ ∀ b, ¬EndsAt ts text b := by
  rcases h : matchLine n text ts with a | hit
  · exact iff_of_false (by rintro ⟨_, h⟩; cases h) fun hno => hno a (matchLine_error.mp h)
  · refine iff_of_true ⟨hit, rfl⟩ fun b hb => ?_
    rw [← matchLine_error (n := n), h] at hb
    cases hb

theorem hitsFrom_error {ts : List Token} {n : Nat} {texts : List Text} {a : Abort} :
    hitsFrom ts n texts = .error a ↔ EndsAmong ts texts a := by
  induction texts generalizing n with
  | nil => exact iff_of_false nofun (not_endsAmong_nil ts a)
  | cons text rest ih =>
    rw [hitsFrom, bind_eq_error, matchLine_error, endsAmong_cons, ← matchLine_isOk (n := n)]
    simp only [bind_eq_error, ih, pure, Except.pure, reduceCtorEq, and_false, exists_false,
      or_false, exists_and_right]

namespace Search

theorem nameHits_error {ts : List Token} {ss : List Symbol} {a : Abort} :
    nameHits ts ss = .error a ↔ EndsAmong ts (ss.map (·.name)) a := by
  induction ss with
  | nil => exact iff_of_false nofun (not_endsAmong_nil ts a)
  | cons s ss ih =>
    rw [nameHits, bind_eq_error, matchLine_error, List.map_cons, endsAmong_cons,
      ← matchLine_isOk (n := s.startLine)]
    simp only [bind_eq_error, ih, pure, Except.pure, reduceCtorEq, and_false, exists_false,
      or_false, exists_and_right]

/-! ## Queries -/

/-- The texts that the words of a query are looked for in. -/
def tested (s : Search) (d : Document) : List Text :=
  if s.mode = .text then d.lines else s.tree.symbols.preorder.map (·.name)

theorem passTokens_error {s : Search} {d : Document} {ks : Option (List Kind)} {ts : List Token}
    {a : Abort} : passTokens s.mode d ks ts s.bare = .error a ↔ EndsAmong ts (s.tested d) a := by
  unfold tested
  split
  · rename_i hm
    rw [hm, passTokens, bind_eq_error]
    simp only [pure, Except.pure, reduceCtorEq, and_false, exists_false, or_false]
    rw [lineHits, bind_eq_error]
    simp only [pure, Except.pure, reduceCtorEq, and_false, exists_false, or_false]
    exact hitsFrom_error
  · rename_i hm
    rw [passTokens_names_eq hm, bind_eq_error, nameHits_error, bare, Tree.symbols_blank]
    simp

/-- A query ends early if and only if its words do, among the texts that they are looked for in. -/
theorem apply_error_iff {s : Search} {d : Document} {raw : Text} {a : Abort} :
    (s.apply d raw).2 = .error a ↔
      ∃ ts, (s.asked raw).tokens? = some ts ∧ EndsAmong ts (s.tested d) a := by
  have hpass : ∀ q : Query, pass s.mode d s.bare q = .error a ↔
      ∃ ts, q.tokens? = some ts ∧ EndsAmong ts (s.tested d) a := by
    intro q
    cases q with
    | none | kinds => simp [pass, Query.tokens?]
    | tokens ts | kindsAndTokens ks ts => simp [pass, Query.tokens?, passTokens_error]
  rw [← hpass]
  by_cases hq : s.asked raw = .none
  · rw [apply_of_none hq, hq]
    constructor
    · intro h
      cases h
    · intro h
      cases h
  · rw [apply_of_query hq]
    cases pass s.mode d s.bare (s.asked raw) <;> simp

/-- **Queries that end early.** A query gives an outcome if and only if its words end it at no text
that they are looked for in; one that ends early is remembered and leaves every symbol hidden and
the status as it was. A malformed pattern excludes every text and ends nothing; a pattern that ends
queries shows in its text that it does.

Patterns are read and matched to any depth of nesting here, so this says nothing of queries that end
because a limit on recursion is reached; and a pattern that gives a character by its name counts as
malformed, whether or not there is such a character. -/
theorem apply_fails_iff (s : Search) (d : Document) (raw : Text) :
    ((∃ o, (s.apply d raw).2 = .ok o) ↔
      ∀ ts, (s.asked raw).tokens? = some ts → ∀ text ∈ s.tested d, ∀ a, ¬EndsAt ts text a) ∧
    (∀ a, (s.apply d raw).2 = .error a →
      (s.apply d raw).1 = { s with
        memory := s.memory.set s.mode raw, searched := s.searched ++ [raw], tree := s.bare }) ∧
    (∀ ts t, t ∈ ts → t.Malformed → t.abort? = none ∧
      ∀ n text hit, matchLine n text ts ≠ .ok (some hit)) ∧
    ∀ (t : Token) a, t.abort? = some a → t.isRegex = true ∧ a.ShownIn t.pattern := by
  refine ⟨?_, ?_, ?_, fun t a => Token.shownIn_of_abort⟩
  · have hfails : (∃ a, (s.apply d raw).2 = .error a) ↔
        ∃ ts, (s.asked raw).tokens? = some ts ∧ ∃ text ∈ s.tested d, ∃ a, EndsAt ts text a := by
      simp only [apply_error_iff, ← exists_endsAmong]
      rw [exists_comm]
      simp only [exists_and_left]
    have hok : (∃ o, (s.apply d raw).2 = .ok o) ↔ ¬∃ a, (s.apply d raw).2 = .error a := by
      cases (s.apply d raw).2 <;> simp
    rw [hok, hfails]
    simp only [not_exists, not_and]
  · intro a h
    by_cases hq : s.asked raw = .none
    · rw [apply_of_none hq] at h
      cases h
    · rw [apply_of_query hq] at h ⊢
      cases hp : pass s.mode d s.bare (s.asked raw) with
      | ok t =>
        rw [hp] at h
        cases h
      | error b => rfl
  · intro ts t ht hm
    refine ⟨by rw [Token.abort?, if_pos hm.1, hm.2], fun n text hit h => ?_⟩
    obtain ⟨found, hfound, h⟩ := bind_eq_ok.mp h
    cases found with
    | none => cases h
    | some ss => exact matchSpans_malformed ht hm text ss hfound

/-- A search for a malformed pattern ends well and finds nothing, and one for a repetition that is
too large hides everything; the number shows in the pattern. -/
theorem apply_fails_iff_sample :
    (∀ n text hit,
      matchLine n text (tokenize "x /(/".toList) ≠ .ok (some hit)) ∧
      ((sample .symbol).apply sampleDocument "#/a{4294967296}/".toList).1.tree =
        (sample .symbol).bare ∧
      Pattern.HasNumber "/a{4294967296}/".toList
        (Pattern.repetitionLimit ≤ Pattern.decimalNumber ·) := by
  have hlarge := apply_fails_iff (sample .symbol) sampleDocument "#/a{4294967296}/".toList
  have habort := hlarge.2.1 .repetitionTooLarge (by decide +kernel)
  have hmalformed := hlarge.2.2.1 (tokenize "x /(/".toList) (Token.ofWord "/(/".toList)
    (by decide +kernel) (by decide +kernel)
  have hshown := hlarge.2.2.2 (Token.ofWord "/a{4294967296}/".toList) .repetitionTooLarge
    (by decide +kernel)
  exact ⟨hmalformed.2, by rw [habort], hshown.2⟩

/-- A repetition that is too large is no malformed pattern: it ends the query, which leaves
everything hidden and no query in force. -/
theorem apply_astray :
    let s := sample .symbol
    let after := s.apply sampleDocument "#/a{4294967296}/".toList
    ¬(Token.ofWord "/a{4294967296}/".toList).Malformed ∧
      after.2 = .error .repetitionTooLarge ∧ after.1.tree.visible.length = 0 ∧
      s.tree.visible.length = 1 ∧ after.1.queryActive = false := by
  decide +kernel

end Search

end Outline
