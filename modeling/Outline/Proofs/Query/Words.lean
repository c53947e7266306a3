import Mathlib.Data.List.TakeWhile
import Outline.Query.Basic

/-!
# Queries read by their words

A text falls into words at any blank (`tokenize_append_blank`). What follows a sentinel is a kind
filter if its first word is one, and then the rest are the words to search for; otherwise all of it
is words (`parse_cut`).
-/
namespace Outline

namespace Text

/-! ## Trailing blanks -/

theorem trimRight_eq_nil_iff {t : Text} : t.trimRight = [] ↔ ∀ c ∈ t, isBlank c = true := by
  induction t with
  | nil => simp [trimRight]
  | cons c cs ih =>
    rw [trimRight, List.forall_mem_cons, ← ih]
    split
    · rename_i h
      simp [h]
    · rename_i h
      exact iff_of_false (List.cons_ne_nil _ _) fun hb => h hb.2

theorem trimRight_cons {c : Char} (hc : isBlank c = false) (t : Text) :
    trimRight (c :: t) = c :: t.trimRight := by
  rw [trimRight]
  split
  · rename_i h
    rw [if_neg (by simp [hc]), h]
  · rfl

/-- Only blanks are cut off. -/
theorem trimRight_append_of_blank {u : Text} (hu : ∀ c ∈ u, isBlank c = true) (t : Text) :
    (t ++ u).trimRight = t.trimRight := by
  induction t with
  | nil => exact trimRight_eq_nil_iff.mpr hu
  | cons c cs ih => rw [List.cons_append, trimRight, ih, trimRight]

theorem trimRight_append_of_ne {u : Text} (hu : u.trimRight ≠ []) (t : Text) :
    (t ++ u).trimRight = t ++ u.trimRight := by
  induction t with
  | nil => rfl
  | cons c cs ih =>
    rw [List.cons_append, trimRight, ih]
    split
    · rename_i h
      exact absurd (List.append_eq_nil_iff.mp h).2 hu
    · rfl

theorem trimRight_of_nonblank {t : Text} (ht : ∀ c ∈ t, isBlank c = false) : t.trimRight = t := by
  induction t with
  | nil => rfl
  | cons c cs ih =>
    obtain ⟨hc, hcs⟩ := List.forall_mem_cons.mp ht
    rw [trimRight_cons hc, ih hcs]

theorem head?_trimRight {t r : Text} {b : Char} (h : t.trimRight = b :: r) : t.head? = some b := by
  cases t with
  | nil => cases h
  | cons c cs =>
    rw [trimRight] at h
    split at h
    · split at h <;> cases h
      rfl
    · cases h
      rfl

/-! ## Words -/

theorem wordsFrom_append_blank {b : Char} (hb : isBlank b = true) (pending t u : Text) :
    wordsFrom pending (t ++ b :: u) = wordsFrom pending t ++ u.words := by
  induction t generalizing pending with
  | nil => cases pending <;> simp [wordsFrom, hb, words]
  | cons c cs ih =>
    simp only [List.cons_append, wordsFrom]
    split
    · split
      · exact ih []
      · rw [ih, List.cons_append]
    · exact ih _

theorem words_append_blank {b : Char} (hb : isBlank b = true) (t u : Text) :
    (t ++ b :: u).words = t.words ++ u.words := wordsFrom_append_blank hb [] t u

/-- White space in front of a text is in no word. -/
theorem words_blank_append {w : Text} (hw : ∀ c ∈ w, isBlank c = true) (t : Text) :
    (w ++ t).words = t.words := by
  induction w with
  | nil => rfl
  | cons b w ih =>
    obtain ⟨hb, hw⟩ := List.forall_mem_cons.mp hw
    rw [List.cons_append, ← ih hw]
    exact words_append_blank hb [] (w ++ t)

theorem words_trimLeft (t : Text) : t.trimLeft.words = t.words := by
  have hfront : ∀ b ∈ t.takeWhile isBlank, isBlank b = true := fun _ hb => List.mem_takeWhile_imp hb
  rw [← words_blank_append hfront t.trimLeft, trimLeft, List.takeWhile_append_dropWhile]

/-- Two texts are the first word of a text, which may be empty, and what is behind it. -/
structure Cut (word rest : Text) : Prop where
  word : ∀ c ∈ word, isBlank c = false
  rest : ∀ b ∈ rest.head?, isBlank b = true

theorem exists_cut (t : Text) : ∃ word rest, t = word ++ rest ∧ Cut word rest := by
  refine ⟨t.takeWhile (!isBlank ·), t.dropWhile (!isBlank ·),
    List.takeWhile_append_dropWhile.symm, fun c hc => ?_, fun b hb => ?_⟩
  · simpa using List.mem_takeWhile_imp hc
  · have hstop := List.head?_dropWhile_not (!isBlank ·) t
    rw [Option.mem_def.mp hb] at hstop
    simpa using hstop

theorem Cut.append {word rest : Text} (h : Cut word rest) (u : Text) :
    Cut word (rest ++ ' ' :: u) := by
  refine ⟨h.word, fun b hb => ?_⟩
  cases rest with
  | nil =>
    obtain rfl : ' ' = b := by simpa using hb
    decide
  | cons c rest => exact h.rest b hb

end Text

theorem tokenize_append_blank (t u : Text) :
    tokenize (t ++ ' ' :: u) = tokenize t ++ tokenize u := by
  rw [tokenize, Text.words_append_blank (by decide), List.map_append, tokenize, tokenize]

theorem tokenize_trimLeft (t : Text) : tokenize t.trimLeft = tokenize t := by
  rw [tokenize, Text.words_trimLeft, tokenize]

/-! ## Kind filters -/

namespace KindFilter

theorem isBlank_of_isLetter {c : Char} (h : isLetter c = true) : isBlank c = false := by
  obtain ⟨p, hp, hc⟩ := List.lookup_isSome_iff.mp h
  rw [beq_iff_eq.mp hc]
  exact (by decide : ∀ p ∈ letters, isBlank p.1 = false) p hp

theorem isLetter_of_distinctLetters {t : Text} (h : distinctLetters t = true) :
    ∀ c ∈ t, isLetter c = true := by
  induction t with
  | nil => simp
  | cons c cs ih =>
    simp only [distinctLetters, Bool.and_eq_true] at h
    exact List.forall_mem_cons.mpr ⟨h.1.1, ih h.2⟩

theorem isFilter_cons {c : Char} (hc : isBlank c = false) (t : Text) :
    isFilter [c] (c :: t) = (!t.trimRight.isEmpty && distinctLetters t.trimRight) := by
  rw [isFilter, Text.trimRight_cons hc]
  cases t.trimRight <;> simp [Text.dropPrefix?]

theorem kinds_cons {c : Char} (hc : isBlank c = false) (t : Text) :
    kinds [c] (c :: t) = kindsOfLetters t.trimRight := by
  rw [kinds, Text.trimRight_cons hc]
  rfl

end KindFilter

namespace Query

theorem splitFirst?_eq {word rest : Text} (h : Text.Cut word rest) (hne : word ≠ []) :
    splitFirst? (word ++ rest) =
      if rest.all isBlank then Option.none else some (word, rest.trimLeft) := by
  have htake : (word ++ rest).takeWhile (!isBlank ·) = word := by
    rw [List.takeWhile_append_of_pos (by simpa using h.word)]
    cases rest with
    | nil => simp
    | cons b rest => simp [h.rest b rfl]
  have hrest : rest.trimLeft = [] ↔ rest.all isBlank = true :=
    List.dropWhile_eq_nil_iff.trans List.all_eq_true.symm
  rw [splitFirst?, htake, List.drop_left]
  simp [hne, ← hrest]

/-- What follows the sentinel is a kind filter if its first word is one, with the words behind it if
there are any; otherwise it is words. -/
theorem parse_cut {c : Char} (hc : isBlank c = false) {word rest : Text} (h : Text.Cut word rest)
    (hne : word ++ rest ≠ []) :
    parse [c] (c :: (word ++ rest)) =
      if word ≠ [] ∧ KindFilter.distinctLetters word = true then
        if rest.all isBlank then .kinds (KindFilter.kindsOfLetters word)
        else .kindsAndTokens (KindFilter.kindsOfLetters word) (tokenize rest)
      else .tokens (tokenize (word ++ rest)) := by
  have hcut : Text.Cut (c :: word) rest := ⟨List.forall_mem_cons.mpr ⟨hc, h.word⟩, h.rest⟩
  have hlen : ¬(c :: (word ++ rest)).length ≤ 1 := by
    simpa using hne
  have hword : word.trimRight = word := Text.trimRight_of_nonblank h.word
  have hstrip : stripSentinel [c] (c :: (word ++ rest)) = word ++ rest := by
    simp [stripSentinel, Text.dropPrefix?]
  rw [parse, if_neg hlen, ← List.cons_append, splitFirst?_eq hcut (List.cons_ne_nil _ _),
    List.cons_append, hstrip, KindFilter.isFilter_cons hc, KindFilter.kinds_cons hc]
  by_cases hr : rest.all isBlank = true
  · rw [if_pos hr, if_pos hr, Text.trimRight_append_of_blank (List.all_eq_true.mp hr), hword]
    by_cases hf : word ≠ [] ∧ KindFilter.distinctLetters word = true
    · simp [hf]
    · simp [hf]
  · -- the letters of a filter are no blanks, so all of the text is no filter
    have hall : KindFilter.distinctLetters (word ++ rest).trimRight = false := by
      have htrim : rest.trimRight ≠ [] := fun e =>
        hr (List.all_eq_true.mpr (Text.trimRight_eq_nil_iff.mp e))
      rw [Text.trimRight_append_of_ne htrim, ← Bool.not_eq_true]
      intro hd
      obtain ⟨b, r, hb⟩ := List.exists_cons_of_ne_nil htrim
      have hblank : isBlank b = true := h.rest b (Text.head?_trimRight hb)
      have hletter := KindFilter.isBlank_of_isLetter
        (KindFilter.isLetter_of_distinctLetters hd b (by simp [hb]))
      rw [hblank] at hletter
      cases hletter
    rw [if_neg hr, if_neg hr, hall, Bool.and_false]
    by_cases hf : word ≠ [] ∧ KindFilter.distinctLetters word = true
    · simp [Option.filter, hf, KindFilter.isFilter_cons hc, KindFilter.kinds_cons hc, hword,
        tokenize_trimLeft]
    · simp [Option.filter, hf, KindFilter.isFilter_cons hc, hword]

end Query

end Outline
