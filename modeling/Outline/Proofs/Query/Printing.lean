import Outline.Proofs.Query.Words

/-!
# Queries written from their tokens

White space parts a text into words, whatever white space it is and however much of it
(`words_append`), and all the rest of the text is in the words (`flatten_words`). A token is written
as the word that it was read from (`toWord_ofWord`). So tokens that are written with single spaces
between them are read back if each is read from the word it is written as, and only then
(`tokenize_line_iff`); those of a query are, and a query may be written anew from its tokens
(`tokens_print_back`).
-/
namespace Outline

namespace Text

/-- One or more characters, none of them white space. -/
structure Solid (w : Text) : Prop where
  ne_nil : w ≠ []
  nonblank : ∀ c ∈ w, isBlank c = false

/-! ## White space between words -/

theorem words_append {w : Text} (hne : w ≠ []) (hw : ∀ c ∈ w, isBlank c = true) (t u : Text) :
    (t ++ w ++ u).words = t.words ++ u.words := by
  obtain ⟨b, w, rfl⟩ := List.exists_cons_of_ne_nil hne
  obtain ⟨hb, hw⟩ := List.forall_mem_cons.mp hw
  rw [List.append_assoc, List.cons_append, words_append_blank hb, words_blank_append hw]

/-! ## The words of a text -/

theorem wordsFrom_nil (pending : Text) :
    wordsFrom pending [] = if pending = [] then [] else [pending.reverse] := by
  cases pending <;> rfl

theorem wordsFrom_cons (pending : Text) (c : Char) (cs : Text) :
    wordsFrom pending (c :: cs) =
      if isBlank c then wordsFrom pending [] ++ cs.words else wordsFrom (c :: pending) cs := by
  split
  · rename_i hc
    exact wordsFrom_append_blank hc pending [] cs
  · rename_i hc
    rw [wordsFrom, if_neg hc]

theorem solid_of_mem_pending {pending w : Text} (hp : ∀ c ∈ pending, isBlank c = false)
    (h : w ∈ wordsFrom pending []) : Solid w := by
  rw [wordsFrom_nil] at h
  split at h
  · cases h
  · rename_i hne
    obtain rfl := List.mem_singleton.mp h
    exact ⟨mt List.reverse_eq_nil_iff.mp hne, fun c hc => hp c (List.mem_reverse.mp hc)⟩

theorem solid_of_mem_wordsFrom {pending t w : Text} (hp : ∀ c ∈ pending, isBlank c = false)
    (h : w ∈ wordsFrom pending t) : Solid w := by
  induction t generalizing pending with
  | nil => exact solid_of_mem_pending hp h
  | cons c cs ih =>
    rw [wordsFrom_cons] at h
    split at h
    · rcases List.mem_append.mp h with h | h
      · exact solid_of_mem_pending hp h
      · exact ih (List.forall_mem_nil _) h
    · rename_i hc
      exact ih (List.forall_mem_cons.mpr ⟨Bool.eq_false_iff.mpr hc, hp⟩) h

theorem solid_of_mem_words {t w : Text} (h : w ∈ t.words) : Solid w :=
  solid_of_mem_wordsFrom (List.forall_mem_nil _) h

theorem flatten_wordsFrom (pending t : Text) :
    (wordsFrom pending t).flatten = pending.reverse ++ t.filter (!isBlank ·) := by
  have hpending (pending : Text) : (wordsFrom pending []).flatten = pending.reverse := by
    cases pending <;> simp [wordsFrom]
  induction t generalizing pending with
  | nil => rw [hpending, List.filter_nil, List.append_nil]
  | cons c cs ih =>
    rw [wordsFrom_cons]
    cases hc : isBlank c with
    | true => simp [hpending, words, ih, hc]
    | false => simp [ih, hc]

/-- Only white space is left out. -/
theorem flatten_words (t : Text) : t.words.flatten = t.filter (!isBlank ·) := flatten_wordsFrom [] t

theorem wordsFrom_of_nonblank {t : Text} (ht : ∀ c ∈ t, isBlank c = false) (pending : Text) :
    wordsFrom pending t = wordsFrom (t.reverse ++ pending) [] := by
  induction t generalizing pending with
  | nil => rfl
  | cons c cs ih =>
    obtain ⟨hc, hcs⟩ := List.forall_mem_cons.mp ht
    rw [wordsFrom_cons, if_neg (Bool.eq_false_iff.mp hc), ih hcs, List.reverse_cons,
      List.append_assoc, List.singleton_append]

theorem Solid.words_eq {w : Text} (h : Solid w) : w.words = [w] := by
  rw [words, wordsFrom_of_nonblank h.nonblank, List.append_nil, wordsFrom_nil,
    if_neg (mt List.reverse_eq_nil_iff.mp h.ne_nil), List.reverse_reverse]

/-- Words with single spaces between them are the words of what they make up. -/
theorem words_join {ws : List Text} (h : ∀ w ∈ ws, Solid w) : (join [' '] ws).words = ws := by
  induction ws with
  | nil => rfl
  | cons w ws ih =>
    obtain ⟨hw, hws⟩ := List.forall_mem_cons.mp h
    cases ws with
    | nil => exact hw.words_eq
    | cons v vs =>
      calc (join [' '] (w :: v :: vs)).words
        _ = w.words ++ (join [' '] (v :: vs)).words :=
          words_append (List.cons_ne_nil _ _) (List.forall_mem_singleton.mpr rfl) w _
        _ = w :: v :: vs := by rw [hw.words_eq, ih hws, List.singleton_append]

end Text

/-! ## Tokens -/

namespace Token

theorem toWord_ofWord (w : Text) : (ofWord w).toWord = w := by
  cases w with
  | nil => rfl
  | cons c cs =>
    by_cases hc : c = '!'
    · simp [ofWord, toWord, hc]
    · simp [ofWord, toWord, hc]

/-- A token that is written as one word, from which it is read again. -/
structure Legible (t : Token) : Prop where
  solid : t.toWord.Solid
  reads : ofWord t.toWord = t

theorem legible_ofWord {w : Text} (h : w.Solid) : (ofWord w).Legible :=
  ⟨by rwa [toWord_ofWord], by rw [toWord_ofWord]⟩

end Token

theorem legible_of_mem_tokenize {text : Text} {t : Token} (h : t ∈ tokenize text) : t.Legible := by
  obtain ⟨w, hw, rfl⟩ := List.mem_map.mp h
  exact Token.legible_ofWord (Text.solid_of_mem_words hw)

theorem map_toWord_tokenize (text : Text) : (tokenize text).map Token.toWord = text.words := by
  rw [tokenize, List.map_map]
  exact List.map_id'' Token.toWord_ofWord text.words

/-- Tokens are read back from what they are written as if each of them alone is. -/
theorem tokenize_line_iff {ts : List Token} :
    tokenize (Text.join [' '] (ts.map Token.toWord)) = ts ↔ ∀ t ∈ ts, t.Legible := by
  constructor
  · intro h t ht
    rw [← h] at ht
    exact legible_of_mem_tokenize ht
  · intro h
    have hsolid : ∀ w ∈ ts.map Token.toWord, w.Solid := List.forall_mem_map.mpr fun t ht =>
      (h t ht).solid
    calc tokenize (Text.join [' '] (ts.map Token.toWord))
      _ = (ts.map Token.toWord).map Token.ofWord := by rw [tokenize, Text.words_join hsolid]
      _ = ts.map id := by
        rw [List.map_map]
        exact List.map_congr_left fun t ht => (h t ht).reads
      _ = ts := List.map_id ts

/-- **Queries written from their tokens.** White space parts a query into queries whose tokens are
read one by one, and all that is not white space stands in what the tokens are written as. Written
with single spaces between them, the tokens of a query are read again as the same tokens, with their
marks; and so are just those tokens of which each is written as one word that means it. -/
theorem tokens_print_back :
    (∀ a w b : Text, w ≠ [] → (∀ c ∈ w, isBlank c = true) →
      tokenize (a ++ w ++ b) = tokenize a ++ tokenize b) ∧
    (∀ text, tokenize (Text.join [' '] ((tokenize text).map Token.toWord)) = tokenize text) ∧
    (∀ text, ((tokenize text).map Token.toWord).flatten = text.filter (!isBlank ·)) ∧
    ∀ ts, tokenize (Text.join [' '] (ts.map Token.toWord)) = ts ↔ ∀ t ∈ ts, t.Legible := by
  refine ⟨fun a w b hne hw => ?_, fun text => ?_, fun text => ?_, fun ts => tokenize_line_iff⟩
  · rw [tokenize, Text.words_append hne hw, List.map_append, tokenize, tokenize]
  · exact tokenize_line_iff.mpr fun t ht => legible_of_mem_tokenize ht
  · rw [map_toWord_tokenize, Text.flatten_words]

/-- Negations, a pattern, bare exclamation marks and white space that is no space. -/
theorem tokens_print_back_sample :
    let a := "foo !/x$/i".toList
    let w := ['\t', '\u00a0', '\u2028']
    let b := " !  !!Bar ".toList
    (w ≠ [] ∧ ∀ c ∈ w, isBlank c = true) ∧
      tokenize (a ++ w ++ b) = tokenize a ++ tokenize b ∧
      (tokenize b = [{ pattern := [], negate := true },
        { pattern := "!Bar".toList, caseSensitive := true, negate := true }]) ∧
      tokenize "! !!Bar".toList = tokenize b := by
  intro a w b
  have hw : w ≠ [] ∧ ∀ c ∈ w, isBlank c = true :=
    ⟨List.cons_ne_nil _ _, List.all_eq_true.mp (by decide)⟩
  obtain ⟨happend, hback, -⟩ := tokens_print_back
  exact ⟨hw, happend a w b hw.1 hw.2, by decide, hback b⟩

end Outline
