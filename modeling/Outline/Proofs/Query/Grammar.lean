import Outline.Proofs.Query.Words

/-!
# The grammar of queries

A query is nothing, a kind filter, a kind filter with words behind it, or words. The forms are given
here by how the text falls apart (`IsFilter`, `IsFilterThenWords`), without the cuts and trims that
reading makes, and reading accepts exactly them (`parse_iff_grammar`).

* `distinctLetters_iff`: which letters make up a filter.
* `mem_kindsOfLetters`: the kinds of a filter are those of its letters together.
* `parse_of_head`: what lacks the sentinel is words.
* `parse_filter`, `parse_filterThenWords`: each form is read as what it is.
* `forms_of_cut`: a text of neither form is cut where no filter is read.
-/
namespace Outline

/-! ## Filters -/

namespace KindFilter

/-- The letters of a kind filter: one or more filter letters, none of them twice. -/
structure IsLetters (w : Text) : Prop where
  ne_nil : w ≠ []
  letters : ∀ x ∈ w, x ∈ "fcsoet".toList
  nodup : w.Nodup

theorem isLetter_iff {x : Char} : isLetter x = true ↔ x ∈ "fcsoet".toList := by
  have hkeys : letters.map (·.1) = "fcsoet".toList := by decide
  rw [isLetter, List.lookup_isSome_iff, ← hkeys, List.mem_map]
  constructor
  · rintro ⟨p, hp, hx⟩
    exact ⟨p, hp, (beq_iff_eq.mp hx).symm⟩
  · rintro ⟨p, hp, rfl⟩
    exact ⟨p, hp, beq_self_eq_true p.1⟩

theorem distinctLetters_iff {w : Text} :
    distinctLetters w = true ↔ (∀ x ∈ w, x ∈ "fcsoet".toList) ∧ w.Nodup := by
  induction w with
  | nil => simp [distinctLetters]
  | cons c cs ih =>
    rw [distinctLetters, Bool.and_eq_true, Bool.and_eq_true, ih, isLetter_iff, List.nodup_cons,
      List.forall_mem_cons]
    simp only [Bool.not_eq_true', List.contains_eq_mem, decide_eq_false_iff_not]
    constructor
    · rintro ⟨⟨hc, hnot⟩, hcs, hd⟩
      exact ⟨⟨hc, hcs⟩, hnot, hd⟩
    · rintro ⟨⟨hc, hcs⟩, hnot, hd⟩
      exact ⟨⟨hc, hnot⟩, hcs, hd⟩

theorem isLetters_iff {w : Text} : IsLetters w ↔ w ≠ [] ∧ distinctLetters w = true := by
  rw [distinctLetters_iff]
  constructor
  · rintro ⟨hne, hl, hd⟩
    exact ⟨hne, hl, hd⟩
  · rintro ⟨hne, hl, hd⟩
    exact ⟨hne, hl, hd⟩

theorem IsLetters.nonblank {w : Text} (h : IsLetters w) : ∀ x ∈ w, isBlank x = false :=
  fun x hx => isBlank_of_isLetter (isLetter_iff.mpr (h.letters x hx))

theorem mem_kindsOfLetters {w : Text} {k : Kind} :
    k ∈ kindsOfLetters w ↔ ∃ x ∈ w, k ∈ kindsOfLetter x := by
  have hall : k ∈ Kind.all := by cases k <;> decide
  simp [kindsOfLetters, hall]

end KindFilter

namespace Query

/-- A text that is the sentinel, the letters of a filter, and perhaps white space. -/
def IsFilter (c : Char) (raw w : Text) : Prop :=
  ∃ s, raw = c :: (w ++ s) ∧ KindFilter.IsLetters w ∧ ∀ b ∈ s, isBlank b = true

/-- A text that is the sentinel, the letters of a filter, white space and something more, which does
not begin with white space. -/
def IsFilterThenWords (c : Char) (raw w rest : Text) : Prop :=
  ∃ s, raw = c :: (w ++ s ++ rest) ∧ KindFilter.IsLetters w ∧ s ≠ [] ∧
    (∀ b ∈ s, isBlank b = true) ∧ ∃ b ∈ rest.head?, isBlank b = false

/-! ## Each form is read as what it is -/

theorem isFilter_eq_false {c : Char} {t : Text} (ht : t.head? ≠ some c) :
    KindFilter.isFilter [c] t = false := by
  rw [KindFilter.isFilter]
  cases htrim : t.trimRight with
  | nil => rfl
  | cons b r =>
    have hb : b ≠ c := by
      rintro rfl
      exact ht (Text.head?_trimRight htrim)
    simp [Text.dropPrefix?, hb]

theorem stripSentinel_of_head {c : Char} {raw : Text} (h : raw.head? ≠ some c) :
    stripSentinel [c] raw = raw := by
  cases raw with
  | nil => rfl
  | cons b r =>
    have hb : b ≠ c := fun e => h (by rw [e]; rfl)
    simp [stripSentinel, Text.dropPrefix?, hb]

/-- What lacks the sentinel is words. -/
theorem parse_of_head {c : Char} {raw : Text} (hlen : 1 < raw.length) (h : raw.head? ≠ some c) :
    parse [c] raw = .tokens (tokenize raw) := by
  have hsplit : (splitFirst? raw).filter (fun p => KindFilter.isFilter [c] p.1) = Option.none := by
    rw [Option.filter_eq_none_iff]
    intro p hp
    rw [splitFirst?] at hp
    split at hp
    · cases hp
    · rename_i hne
      cases hp
      have hhead : (raw.takeWhile (!isBlank ·)).head? ≠ some c := by
        obtain ⟨b, r, rfl⟩ := List.exists_cons_of_length_pos (by omega : 0 < raw.length)
        rw [List.takeWhile_cons]
        split
        · exact h
        · exact Option.some_ne_none c |>.symm
      simp [isFilter_eq_false hhead]
  rw [parse, if_neg (by omega), hsplit, isFilter_eq_false h, stripSentinel_of_head h]
  rfl

theorem parse_filter {c : Char} (hc : isBlank c = false) {raw w : Text} (h : IsFilter c raw w) :
    parse [c] raw = .kinds (KindFilter.kindsOfLetters w) := by
  obtain ⟨s, rfl, hw, hs⟩ := h
  have hcut : Text.Cut w s := ⟨hw.nonblank, fun b hb => hs b (List.mem_of_mem_head? hb)⟩
  rw [parse_cut hc hcut (by simp [hw.ne_nil]), if_pos (KindFilter.isLetters_iff.mp hw),
    if_pos (List.all_eq_true.mpr hs)]

theorem parse_filterThenWords {c : Char} (hc : isBlank c = false) {raw w rest : Text}
    (h : IsFilterThenWords c raw w rest) :
    parse [c] raw = .kindsAndTokens (KindFilter.kindsOfLetters w) (tokenize rest) := by
  obtain ⟨s, rfl, hw, hne, hs, b, hb, hbb⟩ := h
  have hcut : Text.Cut w (s ++ rest) := by
    refine ⟨hw.nonblank, fun x hx => ?_⟩
    obtain ⟨y, s, rfl⟩ := List.exists_cons_of_ne_nil hne
    cases hx
    exact hs x (List.mem_cons_self ..)
  have hall : ¬(s ++ rest).all isBlank = true := by
    intro hall
    have := List.all_eq_true.mp hall b (List.mem_append_right s (List.mem_of_mem_head? hb))
    rw [hbb] at this
    cases this
  -- the white space in between is no part of any word
  have htok : tokenize (s ++ rest) = tokenize rest := by
    rw [tokenize, Text.words_blank_append hs, tokenize]
  rw [List.append_assoc, parse_cut hc hcut (by simp [hw.ne_nil]),
    if_pos (KindFilter.isLetters_iff.mp hw), if_neg hall, htok]

/-! ## Nothing else is read as a filter -/

/-- What follows the sentinel is a filter, a filter with words behind it, or words. -/
theorem forms_of_cut {c : Char} (hc : isBlank c = false) {t : Text} (ht : t ≠ []) :
    (∃ w, IsFilter c (c :: t) w) ∨ (∃ w rest, IsFilterThenWords c (c :: t) w rest) ∨
      parse [c] (c :: t) = .tokens (tokenize t) := by
  obtain ⟨word, behind, rfl, hcut⟩ := Text.exists_cut t
  by_cases hw : word ≠ [] ∧ KindFilter.distinctLetters word = true
  · have hletters := KindFilter.isLetters_iff.mpr hw
    by_cases hall : behind.all isBlank = true
    · exact Or.inl ⟨word, behind, rfl, hletters, List.all_eq_true.mp hall⟩
    · -- the words begin where the white space behind the filter ends
      refine Or.inr (Or.inl ⟨word, behind.dropWhile isBlank, behind.takeWhile isBlank, ?_, hletters,
        ?_, fun b hb => List.mem_takeWhile_imp hb, ?_⟩)
      · rw [List.append_assoc, List.takeWhile_append_dropWhile]
      · cases behind with
        | nil => exact absurd rfl hall
        | cons b r => simp [hcut.rest b rfl]
      · have hne : behind.dropWhile isBlank ≠ [] := by
          rw [ne_eq, List.dropWhile_eq_nil_iff, ← List.all_eq_true]
          exact hall
        refine ⟨_, List.head?_eq_some_head hne, ?_⟩
        have hstop := List.head_dropWhile_not isBlank hne
        simpa using hstop
  · exact Or.inr (Or.inr (by rw [parse_cut hc hcut ht, if_neg hw]))

/-- The readings of a text: it is of one of the forms, or it is words if it is of none. -/
inductive Reads (c : Char) (raw : Text) : Query → Prop
  | nothing (h : raw.length ≤ 1) : Reads c raw .none
  | filter {w} (h : IsFilter c raw w) : Reads c raw (.kinds (KindFilter.kindsOfLetters w))
  | filterThenWords {w rest} (h : IsFilterThenWords c raw w rest) :
    Reads c raw (.kindsAndTokens (KindFilter.kindsOfLetters w) (tokenize rest))
  | words (hlen : 1 < raw.length) (hf : ¬∃ w, IsFilter c raw w)
    (hw : ¬∃ w rest, IsFilterThenWords c raw w rest) :
    Reads c raw (.tokens (tokenize (if raw.head? = some c then raw.tail else raw)))

/-- A text of more than one character and of no other form is read as words. -/
theorem parse_words {c : Char} (hc : isBlank c = false) {raw : Text} (hlen : 1 < raw.length)
    (hf : ¬∃ w, IsFilter c raw w) (hw : ¬∃ w rest, IsFilterThenWords c raw w rest) :
    parse [c] raw = .tokens (tokenize (if raw.head? = some c then raw.tail else raw)) := by
  by_cases hhead : raw.head? = some c
  · obtain ⟨t, rfl⟩ := List.head?_eq_some_iff.mp hhead
    have ht : t ≠ [] := by
      rintro rfl
      simp at hlen
    rw [if_pos hhead]
    rcases forms_of_cut hc ht with h | h | h
    · exact absurd h hf
    · exact absurd h hw
    · exact h
  · rw [if_neg hhead]
    exact parse_of_head hlen hhead

/-- Reading a text gives its one reading. -/
theorem reads_iff {c : Char} (hc : isBlank c = false) {raw : Text} {q : Query} :
    Reads c raw q ↔ parse [c] raw = q := by
  constructor
  · intro h
    cases h with
    | nothing h => rw [parse, if_pos h]
    | filter h => exact parse_filter hc h
    | filterThenWords h => exact parse_filterThenWords hc h
    | words hlen hf hw => exact parse_words hc hlen hf hw
  · rintro rfl
    by_cases hlen : raw.length ≤ 1
    · rw [parse, if_pos hlen]
      exact .nothing hlen
    · by_cases hf : ∃ w, IsFilter c raw w
      · obtain ⟨w, hf⟩ := hf
        rw [parse_filter hc hf]
        exact .filter hf
      · by_cases hw : ∃ w rest, IsFilterThenWords c raw w rest
        · obtain ⟨w, rest, hw⟩ := hw
          rw [parse_filterThenWords hc hw]
          exact .filterThenWords hw
        · rw [parse_words hc (by omega) hf hw]
          exact .words (by omega) hf hw

theorem IsFilter.length {c : Char} {raw w : Text} (h : IsFilter c raw w) : 1 < raw.length := by
  obtain ⟨s, rfl, hw, -⟩ := h
  have hpos := List.length_pos_iff.mpr hw.ne_nil
  simp only [List.length_cons, List.length_append]
  omega

/-- **The grammar of queries.** A text of at most one character asks for nothing; the sentinel with
distinct filter letters, and perhaps white space, is a kind filter; where something follows that
white space it is a kind filter and words; and everything else is words, the sentinel in front taken
away. The kinds are those of all letters together. -/
theorem parse_iff_grammar {c : Char} (hc : isBlank c = false) (raw : Text) :
    (parse [c] raw = .none ↔ raw.length ≤ 1) ∧
    (∀ ks ts, parse [c] raw = .kindsAndTokens ks ts ↔
      ∃ w rest, IsFilterThenWords c raw w rest ∧ ks = KindFilter.kindsOfLetters w ∧
        ts = tokenize rest) ∧
    (∀ ks, parse [c] raw = .kinds ks ↔
      1 < raw.length ∧ ∃ w, IsFilter c raw w ∧ ks = KindFilter.kindsOfLetters w) ∧
    (∀ ts, parse [c] raw = .tokens ts ↔
      1 < raw.length ∧ (¬∃ w, IsFilter c raw w) ∧ (¬∃ w rest, IsFilterThenWords c raw w rest) ∧
        ts = tokenize (if raw.head? = some c then raw.tail else raw)) ∧
    ∀ w k, k ∈ KindFilter.kindsOfLetters w ↔ ∃ x ∈ w, k ∈ KindFilter.kindsOfLetter x := by
  simp only [← reads_iff hc]
  refine ⟨⟨?_, .nothing⟩, fun ks ts => ⟨?_, ?_⟩, fun ks => ⟨?_, ?_⟩, fun ts => ⟨?_, ?_⟩,
    fun _ _ => KindFilter.mem_kindsOfLetters⟩
  · rintro ⟨h⟩
    exact h
  · intro h
    cases h with
    | filterThenWords h => exact ⟨_, _, h, rfl, rfl⟩
  · rintro ⟨w, rest, h, rfl, rfl⟩
    exact .filterThenWords h
  · intro h
    cases h with
    | filter h => exact ⟨h.length, _, h, rfl⟩
  · rintro ⟨-, w, h, rfl⟩
    exact .filter h
  · intro h
    cases h with
    | words hlen hf hw => exact ⟨hlen, hf, hw, rfl⟩
  · rintro ⟨hlen, hf, hw, rfl⟩
    exact .words hlen hf hw

/-- Two filter letters, two kinds of white space and two words. -/
theorem parse_iff_grammar_sample :
    isBlank '#' = false ∧
      parse ['#'] "#ef \tm !x".toList =
        .kindsAndTokens [.enum, .enumMember, .function, .method]
          [{ pattern := ['m'] }, { pattern := ['x'], negate := true }] := by
  have hform : IsFilterThenWords '#' "#ef \tm !x".toList "ef".toList "m !x".toList :=
    ⟨" \t".toList, rfl, KindFilter.isLetters_iff.mpr ⟨by decide, by decide⟩, by decide,
      List.all_eq_true.mp (by decide), 'm', rfl, by decide⟩
  have hread := (parse_iff_grammar (by decide : isBlank '#' = false) "#ef \tm !x".toList).2.1
  exact ⟨by decide, (hread _ _).mpr ⟨_, _, hform, by decide, by decide⟩⟩

end Query

end Outline
