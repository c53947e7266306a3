import Outline.Proofs.Search.Failure

/-!
# Lines that satisfy several words

A line satisfies several words if it satisfies each (`matchSpans_isSome_iff`), whatever their order,
and every word that is not negated leaves one span, in the order of the words. A word and its
negation divide the lines between them, unless its pattern is malformed: then neither takes any
(`matchLine_conjunction`).
-/
namespace Outline

namespace Token

/-- The word negated, or no longer negated. -/
def twin (t : Token) : Token := { t with negate := !t.negate }

/-- A word that is no pattern, or one that can be read. -/
def Usable (t : Token) : Prop :=
  t.isRegex = true → ∃ p, RegexToken.compile? t.pattern = .ok (some p)

theorem exists_found {t : Token} (h : t.Usable) (text : Text) :
    ∃ found, t.locate text = .ok (some found) := by
  rw [locate]
  split
  · rename_i hr
    obtain ⟨p, hp⟩ := h hr
    rw [hp]
    exact ⟨_, rfl⟩
  · exact ⟨_, rfl⟩

theorem twin_malformed {t : Token} (h : t.Malformed) : t.twin.Malformed := h

end Token

/-! ## Several words -/

theorem matchSpans_isSome_iff {text : Text} {ts : List Token} :
    (∃ r, matchSpans text ts = .ok (some r)) ↔ ∀ t ∈ ts, ∃ ss, t.spans? text = .ok (some ss) := by
  induction ts with
  | nil => simp [matchSpans]
  | cons t ts ih =>
    rw [List.forall_mem_cons, ← ih]
    constructor
    · rintro ⟨r, h⟩
      obtain ⟨ss, rest, hss, hrest, -⟩ := matchSpans_cons.mp h
      exact ⟨⟨ss, hss⟩, rest, hrest⟩
    · rintro ⟨⟨ss, hss⟩, rest, hrest⟩
      exact ⟨ss ++ rest, matchSpans_cons.mpr ⟨ss, rest, hss, hrest, rfl⟩⟩

/-- Every word that is not negated leaves one span. -/
theorem length_matchSpans {text : Text} {ts : List Token} {r : List Span}
    (h : matchSpans text ts = .ok (some r)) : r.length = ts.countP (!·.negate) := by
  induction ts generalizing r with
  | nil =>
    cases h
    rfl
  | cons t ts ih =>
    obtain ⟨ss, rest, hss, hrest, rfl⟩ := matchSpans_cons.mp h
    obtain ⟨found, -, hneg, rfl⟩ := Token.spans?_eq_some.mp hss
    rw [List.length_append, ih hrest, List.countP_cons, ← hneg]
    cases found <;> simp [Nat.add_comm]

/-- Words that end no query give a line a hit or none. -/
theorem exists_matchSpans {ts : List Token} (h : ∀ t ∈ ts, t.abort? = none) (text : Text) :
    ∃ found, matchSpans text ts = .ok found := by
  cases hm : matchSpans text ts with
  | ok found => exact ⟨found, rfl⟩
  | error a =>
    obtain ⟨before, t, after, rfl, -, ha⟩ := matchSpans_error.mp hm
    rw [h t (by simp)] at ha
    cases ha

theorem matchSpans_eq_none_iff {ts : List Token} (h : ∀ t ∈ ts, t.abort? = none) {text : Text} :
    matchSpans text ts = .ok none ↔ ¬∀ t ∈ ts, ∃ ss, t.spans? text = .ok (some ss) := by
  rw [← matchSpans_isSome_iff]
  obtain ⟨_ | r, hfound⟩ := exists_matchSpans h text
  · simp [hfound]
  · simp [hfound]

/-! ## Lines -/

theorem matchSpans_singleton (text : Text) (t : Token) : matchSpans text [t] = t.spans? text := by
  rw [matchSpans]
  rcases t.spans? text with a | _ | ss
  · rfl
  · rfl
  · show Except.ok (some (ss ++ [])) = _
    rw [List.append_nil]

theorem matchLine_singleton {t : Token} {text : Text} {found : Option Span}
    (h : t.locate text = .ok (some found)) (n : Nat) :
    matchLine n text [t] =
      .ok (if found.isSome = !t.negate then some ⟨n, found.toList⟩ else none) := by
  rw [matchLine, matchSpans_singleton, Token.spans?_of_found h]
  split <;> rfl

theorem exists_matchLine_iff {n : Nat} {text : Text} {ts : List Token} :
    (∃ hit, matchLine n text ts = .ok (some hit)) ↔
      ∀ t ∈ ts, ∃ ss, t.spans? text = .ok (some ss) := by
  rw [← matchSpans_isSome_iff]
  simp only [matchLine_eq_some, exists_comm (α := Hit), exists_and_left, exists_eq, and_true]

/-- Of a word and its negation one lets the line through. -/
theorem matchLine_twin {t : Token} (h : t.Usable) (n : Nat) (text : Text) :
    (∃ hit, matchLine n text [t] = .ok (some hit)) ∧ matchLine n text [t.twin] = .ok none ∨
      matchLine n text [t] = .ok none ∧ ∃ hit, matchLine n text [t.twin] = .ok (some hit) := by
  obtain ⟨found, hfound⟩ := Token.exists_found h text
  have htwin : t.twin.locate text = .ok (some found) := hfound
  rw [matchLine_singleton hfound, matchLine_singleton htwin]
  cases found <;> cases hn : t.negate <;> simp [Token.twin, hn]

theorem matchLine_malformed {t : Token} (h : t.Malformed) (n : Nat) (text : Text) :
    matchLine n text [t] = .ok none := by
  rw [matchLine_eq_none, matchSpans_singleton, Token.spans?_malformed h]

/-- **Several words.** Words that end no query give a line no hit if and only if the first or the
others give it none, and otherwise the spans of the first words and then those of the others, one
for every word that is not negated; whether there is a hit does not depend on their order. Of a word
and its negation one gives a line a hit and the other none; a malformed pattern gives none either
way. -/
theorem matchLine_conjunction {ts us : List Token} (h : ∀ t ∈ ts ++ us, t.abort? = none) (n : Nat)
    (text : Text) :
    (matchLine n text (ts ++ us) = .ok none ↔
      matchLine n text ts = .ok none ∨ matchLine n text us = .ok none) ∧
    (matchLine n text (ts ++ us) ≠ .ok none → ∃ ss rest,
      matchLine n text ts = .ok (some ⟨n, ss⟩) ∧ matchLine n text us = .ok (some ⟨n, rest⟩) ∧
        matchLine n text (ts ++ us) = .ok (some ⟨n, ss ++ rest⟩) ∧
        (ss ++ rest).length = (ts ++ us).countP (!·.negate)) ∧
    (∀ vs, vs.Perm (ts ++ us) → ((∃ hit, matchLine n text vs = .ok (some hit)) ↔
      ∃ hit, matchLine n text (ts ++ us) = .ok (some hit))) ∧
    ∀ t : Token,
      (t.Usable →
        (∃ hit, matchLine n text [t] = .ok (some hit)) ∧ matchLine n text [t.twin] = .ok none ∨
          matchLine n text [t] = .ok none ∧ ∃ hit, matchLine n text [t.twin] = .ok (some hit)) ∧
      (t.Malformed → matchLine n text [t] = .ok none ∧ matchLine n text [t.twin] = .ok none) := by
  refine ⟨?_, ?_, ?_, fun t => ⟨?_, ?_⟩⟩
  · obtain ⟨hts, hus⟩ := List.forall_mem_append.mp h
    simp only [matchLine_eq_none, matchSpans_eq_none_iff h, matchSpans_eq_none_iff hts,
      matchSpans_eq_none_iff hus, List.forall_mem_append, not_and_or]
  · intro hhit
    rw [ne_eq, matchLine_eq_none] at hhit
    obtain ⟨_ | r, hr⟩ := exists_matchSpans h text
    · exact absurd hr hhit
    · obtain ⟨ss, rest, hss, hrest, rfl⟩ := matchSpans_append.mp hr
      exact ⟨ss, rest, matchLine_eq_some.mpr ⟨ss, hss, rfl⟩,
        matchLine_eq_some.mpr ⟨rest, hrest, rfl⟩, matchLine_eq_some.mpr ⟨_, hr, rfl⟩,
        length_matchSpans hr⟩
  · intro vs hperm
    simp only [exists_matchLine_iff, hperm.mem_iff]
  · exact fun husable => matchLine_twin husable n text
  · intro hm
    exact ⟨matchLine_malformed hm n text, matchLine_malformed (Token.twin_malformed hm) n text⟩

theorem matchLine_conjunction_sample :
    let line := "def parse(text)".toList
    let ts := tokenize "parse !foo".toList
    let us := tokenize "/T.X/i".toList
    let malformed := Token.ofWord "/a(b/".toList
    (∀ t ∈ ts ++ us, t.abort? = none) ∧
      (∃ ss rest, matchLine 0 line ts = .ok (some ⟨0, ss⟩) ∧
        matchLine 0 line us = .ok (some ⟨0, rest⟩) ∧
          matchLine 0 line (ts ++ us) = .ok (some ⟨0, ss ++ rest⟩) ∧
          (ss ++ rest).length = (ts ++ us).countP (!·.negate)) ∧
      (∃ hit, matchLine 0 line (us ++ ts) = .ok (some hit)) ∧
      malformed.Malformed ∧ matchLine 0 line [malformed.twin] = .ok none := by
  intro line ts us malformed
  have h : ∀ t ∈ ts ++ us, t.abort? = none := by decide +kernel
  have hmalformed : malformed.Malformed := by decide +kernel
  obtain ⟨-, hspans, hperm, halone⟩ := matchLine_conjunction h 0 line
  obtain ⟨ss, rest, hss, hrest, hboth, hlength⟩ := hspans (by decide +kernel)
  exact ⟨h, ⟨ss, rest, hss, hrest, hboth, hlength⟩,
    (hperm _ List.perm_append_comm).mpr ⟨_, hboth⟩, hmalformed,
    ((halone malformed).2 hmalformed).2⟩

end Outline
