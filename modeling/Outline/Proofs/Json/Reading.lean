import Mathlib.Data.List.DropRight
import Outline.Json.Reader

/-!
# How JSON is read

One value is read in one of the ways that `Reads` lists, and lists and fields one after the other
(`readItems?_iff`, `readFields?_iff`). From these: text added behind what is read changes nothing,
unless a number could go on in it (`readValue?_append`).
-/
namespace Outline.Json

/-! ## White space -/

theorem skip_cons_space {c : Char} (h : isSpace c = true) (t : Text) : skip (c :: t) = skip t :=
  List.dropWhile_cons_of_pos h

theorem skip_cons {c : Char} (h : isSpace c = false) (t : Text) : skip (c :: t) = c :: t :=
  List.dropWhile_cons_of_neg (by simp [h])

theorem skip_append {t : Text} (h : skip t ≠ []) (u : Text) : skip (t ++ u) = skip t ++ u := by
  induction t with
  | nil => exact absurd rfl h
  | cons c cs ih =>
    cases hc : isSpace c with
    | true =>
      rw [skip_cons_space hc] at h ⊢
      rw [List.cons_append, skip_cons_space hc, ih h]
    | false => rw [List.cons_append, skip_cons hc, skip_cons hc, List.cons_append]

theorem skip_append_of_eq {t r : Text} {c : Char} (h : skip t = c :: r) (u : Text) :
    skip (t ++ u) = c :: (r ++ u) := by
  rw [skip_append (by rw [h]; exact List.cons_ne_nil _ _), h, List.cons_append]

/-! ## Texts -/

theorem readUnit?_append {t rest : Text} {n : Nat} (h : readUnit? t = some (n, rest)) (u : Text) :
    readUnit? (t ++ u) = some (n, rest ++ u) := by
  unfold readUnit? at h
  split at h
  · rename_i a b c d rest'
    split at h
    · rename_i hall
      cases h
      simp only [List.cons_append, readUnit?]
      rw [if_pos hall]
    · cases h
  · cases h

theorem readEscape?_append {t rest : Text} {c : Char} (h : readEscape? t = some (c, rest))
    (u : Text) : readEscape? (t ++ u) = some (c, rest ++ u) := by
  unfold readEscape? at h
  split at h
  case h_9 =>
    simp only [Option.bind_eq_bind, Option.bind_eq_some_iff] at h
    obtain ⟨⟨hi, r⟩, hunit, h⟩ := h
    dsimp only at h
    have hunit' := readUnit?_append hunit u
    rw [List.cons_append, readEscape?]
    simp only [Option.bind_eq_bind, hunit', Option.bind_some]
    split at h
    · cases h
    · rename_i hlow
      rw [if_neg hlow]
      split at h
      · rename_i hpair
        rw [if_pos hpair]
        split at h
        · simp only [Option.bind_eq_some_iff] at h
          obtain ⟨⟨lo, r'⟩, hunit2, h⟩ := h
          have hunit2' := readUnit?_append hunit2 u
          simp only [List.cons_append, hunit2', Option.bind_some]
          split at h
          · rename_i hlo
            simp only [Option.some.injEq, Prod.mk.injEq] at h
            obtain ⟨hc, rfl⟩ := h
            rw [if_pos hlo, hc]
          · cases h
        · cases h
      · rename_i hone
        rw [if_neg hone]
        cases h
        rfl
  case h_10 => cases h
  all_goals
    cases h
    rfl

theorem readText?_append {fuel fuel' : Nat} {t s rest : Text}
    (h : readText? fuel t = some (s, rest)) (hf : fuel ≤ fuel') (u : Text) :
    readText? fuel' (t ++ u) = some (s, rest ++ u) := by
  induction fuel generalizing fuel' t s with
  | zero => cases h
  | succ fuel ih =>
    obtain ⟨fuel', rfl⟩ : ∃ n, fuel' = n + 1 := ⟨fuel' - 1, by omega⟩
    cases t with
    | nil => cases h
    | cons c cs =>
      rw [readText?] at h
      rw [List.cons_append, readText?]
      split at h
      · rename_i hc
        rw [if_pos hc]
        cases h
        rfl
      · rename_i hq
        rw [if_neg hq]
        split at h
        · rename_i hb
          rw [if_pos hb]
          simp only [Option.bind_eq_bind, Option.bind_eq_some_iff] at h ⊢
          obtain ⟨⟨e, r⟩, he, ⟨s', r'⟩, hs, h⟩ := h
          cases h
          exact ⟨_, readEscape?_append he u, _, ih hs (by omega), rfl⟩
        · rename_i hb
          rw [if_neg hb]
          split at h
          · cases h
          · rename_i hctl
            rw [if_neg hctl]
            simp only [Option.bind_eq_bind, Option.bind_eq_some_iff] at h ⊢
            obtain ⟨⟨s', r'⟩, hs, h⟩ := h
            cases h
            exact ⟨_, ih hs (by omega), rfl⟩

/-! ## Numbers -/

theorem spanDigits_append {t : Text} (h : (spanDigits t).2 ≠ []) (u : Text) :
    spanDigits (t ++ u) = ((spanDigits t).1, (spanDigits t).2 ++ u) := by
  induction t with
  | nil => exact absurd rfl h
  | cons c cs ih =>
    simp only [spanDigits, List.cons_append, Prod.mk.injEq] at h ih ⊢
    cases hc : isAsciiDigit c with
    | true =>
      rw [List.dropWhile_cons_of_pos hc] at h ⊢
      rw [List.dropWhile_cons_of_pos hc, List.takeWhile_cons_of_pos hc,
        List.takeWhile_cons_of_pos hc, (ih h).1, (ih h).2]
      exact ⟨rfl, rfl⟩
    | false =>
      have hneg : ¬isAsciiDigit c = true := by simp [hc]
      rw [List.dropWhile_cons_of_neg hneg, List.dropWhile_cons_of_neg hneg,
        List.takeWhile_cons_of_neg hneg, List.takeWhile_cons_of_neg hneg]
      exact ⟨rfl, rfl⟩

theorem readFraction?_append {t ds rest : Text} (h : readFraction? t = some (ds, rest))
    (hrest : rest ≠ []) (u : Text) : readFraction? (t ++ u) = some (ds, rest ++ u) := by
  unfold readFraction? at h
  split at h
  · rename_i t'
    dsimp only at h
    split at h
    · cases h
    · rename_i hds
      cases h
      rw [List.cons_append, readFraction?, spanDigits_append hrest]
      dsimp only
      rw [if_neg hds]
  · rename_i hpoint
    cases h
    cases t with
    | nil => exact absurd rfl hrest
    | cons c cs =>
      rw [List.cons_append]
      unfold readFraction?
      split
      · rename_i heq
        cases heq
        exact absurd rfl (hpoint cs)
      · rfl

/-- The digits of a power after its sign. -/
theorem powerDigits_append {negative : Bool} {t rest : Text} {p : Option Int}
    (h : (if (spanDigits t).1.isEmpty then none
      else some (some (if negative then -(digitsValue (spanDigits t).1 : Int)
        else digitsValue (spanDigits t).1), (spanDigits t).2)) = some (p, rest))
    (hrest : rest ≠ []) (u : Text) :
    (if (spanDigits (t ++ u)).1.isEmpty then none
      else some (some (if negative then -(digitsValue (spanDigits (t ++ u)).1 : Int)
        else digitsValue (spanDigits (t ++ u)).1), (spanDigits (t ++ u)).2)) =
      some (p, rest ++ u) := by
  split at h
  · cases h
  · rename_i hds
    cases h
    rw [spanDigits_append hrest]
    dsimp only
    rw [if_neg hds]

theorem readPower?_append {t rest : Text} {p : Option Int} (h : readPower? t = some (p, rest))
    (hrest : rest ≠ []) (u : Text) : readPower? (t ++ u) = some (p, rest ++ u) := by
  cases t with
  | nil =>
    cases h
    exact absurd rfl hrest
  | cons c cs =>
    rw [List.cons_append]
    unfold readPower? at h ⊢
    dsimp only at h ⊢
    split at h
    · rename_i he
      rw [if_pos he]
      cases cs with
      | nil => cases h
      | cons s cs =>
        rw [List.cons_append]
        split at h
        · rename_i heq
          cases heq
          exact powerDigits_append h hrest u
        · rename_i heq
          cases heq
          exact powerDigits_append h hrest u
        · rename_i hminus hplus
          split
          · rename_i heq
            cases heq
            exact absurd rfl (hminus cs)
          · rename_i heq
            cases heq
            exact absurd rfl (hplus cs)
          · exact powerDigits_append (t := s :: cs) h hrest u
    · rename_i he
      rw [if_neg he]
      cases h
      rfl

/-- The value of a number with these digits, fraction and power. -/
def numberOf? (negative : Bool) (whole fraction : Text) (power : Option Int) : Option Json :=
  if fraction.isEmpty ∧ power.isNone then
    if whole.length > maxDigits then none
    else some (.int (if negative then -(digitsValue whole : Int) else digitsValue whole))
  else
    some (.float negative ⟨digitsValue (whole ++ fraction), power.getD 0 - fraction.length⟩)

/-- A number is digits without a leading zero, a fraction and a power. -/
theorem readNumber?_iff {negative : Bool} {t rest : Text} {v : Json} :
    readNumber? negative t = some (v, rest) ↔
      ¬((spanDigits t).1.isEmpty = true ∨
        (spanDigits t).1.head? = some '0' ∧ (spanDigits t).1.length ≠ 1) ∧
      ∃ fraction r power, readFraction? (spanDigits t).2 = some (fraction, r) ∧
        readPower? r = some (power, rest) ∧
        numberOf? negative (spanDigits t).1 fraction power = some v := by
  unfold readNumber?
  dsimp only
  split
  · rename_i hwhole
    exact iff_of_false nofun fun h => h.1 hwhole
  · rename_i hwhole
    simp only [Option.bind_eq_bind, Option.bind_eq_some_iff, hwhole, not_false_eq_true, true_and,
      Prod.exists, numberOf?]
    refine exists_congr fun fraction => exists_congr fun r => ?_
    rw [← exists_and_left]
    refine exists_congr fun power => and_congr_right fun _ => ?_
    constructor
    · rintro ⟨rest, hpower, h⟩
      split at h
      · rename_i hint
        rw [if_pos hint]
        split at h
        · cases h
        · rename_i hdigits
          cases h
          exact ⟨hpower, if_neg hdigits⟩
      · rename_i hint
        rw [if_neg hint]
        cases h
        exact ⟨hpower, rfl⟩
    · rintro ⟨hpower, h⟩
      refine ⟨rest, hpower, ?_⟩
      split at h
      · rename_i hint
        rw [if_pos hint]
        split at h
        · cases h
        · rename_i hdigits
          cases h
          exact if_neg hdigits
      · rename_i hint
        rw [if_neg hint]
        cases h
        rfl

theorem readNumber?_append {negative : Bool} {t rest : Text} {v : Json}
    (h : readNumber? negative t = some (v, rest)) (hrest : rest ≠ []) (u : Text) :
    readNumber? negative (t ++ u) = some (v, rest ++ u) := by
  obtain ⟨hwhole, fraction, r, power, hfraction, hpower, hv⟩ := readNumber?_iff.mp h
  have hr : r ≠ [] := by
    rintro rfl
    cases hpower
    exact hrest rfl
  have hspan : (spanDigits t).2 ≠ [] := by
    intro hnil
    rw [hnil] at hfraction
    cases hfraction
    exact hr rfl
  rw [readNumber?_iff, spanDigits_append hspan]
  exact ⟨hwhole, fraction, r ++ u, power, readFraction?_append hfraction hr u,
    readPower?_append hpower hrest u, hv⟩

/-- What is read as a number is one. -/
theorem readNumber?_ne_obj {negative : Bool} {t rest : Text} {fields : List (Text × Json)} :
    readNumber? negative t ≠ some (.obj fields, rest) := by
  intro h
  obtain ⟨-, fraction, r, power, -, -, hv⟩ := readNumber?_iff.mp h
  rw [numberOf?] at hv
  split at hv
  · split at hv <;> cases hv
  · cases hv

/-- A number begins with a digit. -/
theorem head_of_readNumber? {negative : Bool} {t rest : Text} {v : Json}
    (h : readNumber? negative t = some (v, rest)) :
    ∃ c t', t = c :: t' ∧ isAsciiDigit c = true := by
  obtain ⟨hwhole, -⟩ := readNumber?_iff.mp h
  cases t with
  | nil => exact absurd (Or.inl rfl) hwhole
  | cons c cs =>
    refine ⟨c, cs, rfl, ?_⟩
    by_contra hc
    refine hwhole (Or.inl ?_)
    rw [spanDigits, List.takeWhile_cons_of_neg hc]
    rfl

/-! ## Values -/

/-- The ways a value is read from a text without white space in front, where the values inside it
are read with the given fuel. -/
inductive Reads (depth fuel : Nat) : Text → Json → Text → Prop
  | null (rest : Text) : Reads depth fuel ("null".toList ++ rest) .null rest
  | true (rest : Text) : Reads depth fuel ("true".toList ++ rest) (.bool true) rest
  | false (rest : Text) : Reads depth fuel ("false".toList ++ rest) (.bool false) rest
  | notANumber (rest : Text) : Reads depth fuel ("NaN".toList ++ rest) .notANumber rest
  | infinity (rest : Text) : Reads depth fuel ("Infinity".toList ++ rest) (.infinity .false) rest
  | minusInfinity (rest : Text) :
    Reads depth fuel ("-Infinity".toList ++ rest) (.infinity .true) rest
  | str {t s rest} (h : readText? (t.length + 1) t = some (s, rest)) :
    Reads depth fuel ('"' :: t) (.str s) rest
  | noItems {t rest} (hd : depth ≠ 0) (h : skip t = ']' :: rest) :
    Reads depth fuel ('[' :: t) (.arr []) rest
  | items {t vs rest d} (hd : depth = d + 1) (hne : (skip t).head? ≠ some ']')
    (h : readItems? d fuel (skip t) = some (vs, rest)) : Reads depth fuel ('[' :: t) (.arr vs) rest
  | noFields {t rest} (hd : depth ≠ 0) (h : skip t = '\x7d' :: rest) :
    Reads depth fuel ('\x7b' :: t) (.obj []) rest
  | fields {t fs rest d} (hd : depth = d + 1) (hne : (skip t).head? ≠ some '\x7d')
    (h : readFields? d fuel [] (skip t) = some (fs, rest)) :
    Reads depth fuel ('\x7b' :: t) (.obj fs) rest
  | number {t v rest} (h : readNumber? .false t = some (v, rest)) : Reads depth fuel t v rest
  | minus {t v rest} (h : readNumber? .true t = some (v, rest)) : Reads depth fuel ('-' :: t) v rest

theorem Reads.of_readValue? {depth fuel : Nat} {t rest : Text} {v : Json}
    (h : readValue? depth (fuel + 1) t = some (v, rest)) : Reads depth fuel (skip t) v rest := by
  rw [readValue?] at h
  split at h
  · rename_i heq
    rw [heq]
    cases h
    exact .null rest
  · rename_i heq
    rw [heq]
    cases h
    exact .true rest
  · rename_i heq
    rw [heq]
    cases h
    exact .false rest
  · rename_i heq
    rw [heq]
    cases h
    exact .notANumber rest
  · rename_i heq
    rw [heq]
    cases h
    exact .infinity rest
  · rename_i heq
    rw [heq]
    cases h
    exact .minusInfinity rest
  · rename_i heq
    rw [heq]
    simp only [Option.bind_eq_bind, Option.bind_eq_some_iff] at h
    obtain ⟨⟨s, r⟩, hs, h⟩ := h
    cases h
    exact .str hs
  · rename_i heq
    rw [heq]
    split at h
    · cases h
    · split at h
      · rename_i hclose
        cases h
        exact .noItems (Nat.succ_ne_zero _) hclose
      · rename_i hopen
        simp only [Option.bind_eq_bind, Option.bind_eq_some_iff] at h
        obtain ⟨⟨vs, r⟩, hvs, h⟩ := h
        cases h
        refine .items rfl (fun hhead => ?_) hvs
        obtain ⟨r, hr⟩ := List.head?_eq_some_iff.mp hhead
        exact hopen r hr
  · rename_i heq
    rw [heq]
    split at h
    · cases h
    · split at h
      · rename_i hclose
        cases h
        exact .noFields (Nat.succ_ne_zero _) hclose
      · rename_i hopen
        simp only [Option.bind_eq_bind, Option.bind_eq_some_iff] at h
        obtain ⟨⟨fs, r⟩, hfs, h⟩ := h
        cases h
        refine .fields rfl (fun hhead => ?_) hfs
        obtain ⟨r, hr⟩ := List.head?_eq_some_iff.mp hhead
        exact hopen r hr
  · rename_i heq
    rw [heq]
    exact .minus h
  · exact .number h

theorem readValue?_bracket {d fuel : Nat} {t t' : Text} (ht : skip t = '[' :: t') :
    readValue? (d + 1) (fuel + 1) t = match skip t' with
      | ']' :: rest => some (.arr [], rest)
      | rest => readItems? d fuel rest >>= fun p => pure (.arr p.1, p.2) := by
  rw [readValue?, ht]
  rfl

theorem readValue?_brace {d fuel : Nat} {t t' : Text} (ht : skip t = '\x7b' :: t') :
    readValue? (d + 1) (fuel + 1) t = match skip t' with
      | '\x7d' :: rest => some (.obj [], rest)
      | rest => readFields? d fuel [] rest >>= fun p => pure (.obj p.1, p.2) := by
  rw [readValue?, ht]
  rfl

theorem Reads.readValue?_eq {depth fuel : Nat} {t t' rest : Text} {v : Json}
    (h : Reads depth fuel t' v rest) (ht : skip t = t') :
    readValue? depth (fuel + 1) t = some (v, rest) := by
  cases h with
  | null => rw [readValue?, ht]; rfl
  | true => rw [readValue?, ht]; rfl
  | false => rw [readValue?, ht]; rfl
  | notANumber => rw [readValue?, ht]; rfl
  | infinity => rw [readValue?, ht]; rfl
  | minusInfinity => rw [readValue?, ht]; rfl
  | @str t s rest h =>
    rw [readValue?, ht]
    change (readText? (t.length + 1) t >>= fun p => pure (Json.str p.1, p.2)) = _
    rw [h]
    rfl
  | @noItems t rest hd h =>
    obtain ⟨d, rfl⟩ := Nat.exists_eq_succ_of_ne_zero hd
    rw [readValue?_bracket ht, h]
    rfl
  | @items t vs rest d hd hne h =>
    subst hd
    rw [readValue?_bracket ht]
    split
    · rename_i heq
      exact absurd (by rw [heq]; rfl) hne
    · rw [h]
      rfl
  | @noFields t rest hd h =>
    obtain ⟨d, rfl⟩ := Nat.exists_eq_succ_of_ne_zero hd
    rw [readValue?_brace ht, h]
    rfl
  | @fields t fs rest d hd hne h =>
    subst hd
    rw [readValue?_brace ht]
    split
    · rename_i heq
      exact absurd (by rw [heq]; rfl) hne
    · rw [h]
      rfl
  | number h =>
    obtain ⟨c, t, rfl, hc⟩ := head_of_readNumber? h
    rw [readValue?, ht]
    -- a digit begins nothing else
    split
    case h_11 => exact h
    all_goals
      rename_i heq
      cases heq
      exact absurd hc (by decide)
  | minus h =>
    obtain ⟨c, t, rfl, hc⟩ := head_of_readNumber? h
    rw [readValue?, ht]
    split
    case h_6 =>
      rename_i heq
      cases heq
      exact absurd hc (by decide)
    case h_10 =>
      rename_i heq
      cases heq
      exact h
    case h_11 =>
      rename_i hminus
      exact absurd rfl (hminus (c :: t))
    all_goals
      rename_i heq
      cases heq

/-! ## Lists and fields -/

theorem readItems?_iff {depth fuel : Nat} {t rest : Text} {vs : List Json} :
    readItems? depth (fuel + 1) t = some (vs, rest) ↔
      ∃ v r, readValue? depth fuel t = some (v, r) ∧
        ((∃ r' vs', skip r = ',' :: r' ∧ readItems? depth fuel r' = some (vs', rest) ∧
            vs = v :: vs') ∨
          skip r = ']' :: rest ∧ vs = [v]) := by
  rw [readItems?]
  simp only [Option.bind_eq_bind, Option.bind_eq_some_iff]
  constructor
  · rintro ⟨⟨v, r⟩, hv, h⟩
    refine ⟨v, r, hv, ?_⟩
    dsimp only at h
    split at h
    · rename_i r' hr
      simp only [Option.bind_eq_some_iff] at h
      obtain ⟨⟨vs', r''⟩, hvs, h⟩ := h
      cases h
      exact Or.inl ⟨r', vs', hr, hvs, rfl⟩
    · rename_i hr
      cases h
      exact Or.inr ⟨hr, rfl⟩
    · cases h
  · rintro ⟨v, r, hv, ⟨r', vs', hr, hvs, rfl⟩ | ⟨hr, rfl⟩⟩
    · refine ⟨(v, r), hv, ?_⟩
      dsimp only
      rw [hr]
      change (readItems? depth fuel r' >>= fun p => pure (v :: p.1, p.2)) = _
      rw [hvs]
      rfl
    · refine ⟨(v, r), hv, ?_⟩
      dsimp only
      rw [hr]
      rfl

theorem readFields?_iff {depth fuel : Nat} {acc fs : List (Text × Json)} {t rest : Text} :
    readFields? depth (fuel + 1) acc t = some (fs, rest) ↔
      ∃ t' k r t'' v r', skip t = '"' :: t' ∧ readText? (t'.length + 1) t' = some (k, r) ∧
        skip r = ':' :: t'' ∧ readValue? depth fuel t'' = some (v, r') ∧
        ((∃ r'', skip r' = ',' :: r'' ∧
            readFields? depth fuel (putField k v acc) r'' = some (fs, rest)) ∨
          skip r' = '\x7d' :: rest ∧ fs = putField k v acc) := by
  rw [readFields?]
  constructor
  · intro h
    split at h
    · rename_i t' ht
      simp only [Option.bind_eq_bind, Option.bind_eq_some_iff] at h
      obtain ⟨⟨k, r⟩, hk, h⟩ := h
      dsimp only at h
      split at h
      · rename_i t'' hr
        simp only [Option.bind_eq_some_iff] at h
        obtain ⟨⟨v, r'⟩, hv, h⟩ := h
        refine ⟨t', k, r, t'', v, r', ht, hk, hr, hv, ?_⟩
        dsimp only at h
        split at h
        · rename_i r'' hr'
          exact Or.inl ⟨r'', hr', h⟩
        · rename_i hr'
          cases h
          exact Or.inr ⟨hr', rfl⟩
        · cases h
      · cases h
    · cases h
  · rintro ⟨t', k, r, t'', v, r', ht, hk, hr, hv, h⟩
    simp only [ht, hk, hr, hv, Option.bind_eq_bind, Option.bind_some]
    rcases h with ⟨r'', hr', hfs⟩ | ⟨hr', rfl⟩
    · rw [hr']
      exact hfs
    · rw [hr']
      rfl

/-- Nothing is read from no text. -/
theorem skip_ne_nil_of_readValue? {depth fuel : Nat} {t rest : Text} {v : Json}
    (h : readValue? depth fuel t = some (v, rest)) : skip t ≠ [] := by
  intro hnil
  cases fuel with
  | zero => cases h
  | succ fuel =>
    have hreads := Reads.of_readValue? h
    rw [hnil] at hreads
    cases hreads with
    | number h =>
      obtain ⟨c, t, ht, -⟩ := head_of_readNumber? h
      cases ht

theorem skip_ne_nil_of_readItems? {depth fuel : Nat} {t rest : Text} {vs : List Json}
    (h : readItems? depth fuel t = some (vs, rest)) : skip t ≠ [] := by
  cases fuel with
  | zero => cases h
  | succ fuel =>
    obtain ⟨v, r, hv, -⟩ := readItems?_iff.mp h
    exact skip_ne_nil_of_readValue? hv

theorem skip_ne_nil_of_readFields? {depth fuel : Nat} {acc fs : List (Text × Json)} {t rest : Text}
    (h : readFields? depth fuel acc t = some (fs, rest)) : skip t ≠ [] := by
  cases fuel with
  | zero => cases h
  | succ fuel =>
    obtain ⟨t', k, r, t'', v, r', ht, -⟩ := readFields?_iff.mp h
    rw [ht]
    exact List.cons_ne_nil _ _

theorem skip_skip (t : Text) : skip (skip t) = skip t := List.dropWhile_idempotent isSpace t

/-! ## Text added behind -/

/-- Whether what was read cannot go on in text added behind it. Objects cannot, other values are
known not to by what follows them. -/
def Ended (v : Json) (rest : Text) : Prop := rest ≠ [] ∨ ∃ fields, v = .obj fields

theorem ended_of_skip {v : Json} {rest r : Text} {c : Char} (h : skip rest = c :: r) :
    Ended v rest := by
  refine Or.inl ?_
  rintro rfl
  cases h

/-- Text added behind a value is left over, if it is behind the lists and fields inside. -/
theorem Reads.append {depth fuel fuel' : Nat} {t rest : Text} {v : Json}
    (h : Reads depth fuel t v rest) (he : Ended v rest) (u : Text)
    (hitems : ∀ d t vs rest, readItems? d fuel t = some (vs, rest) →
      readItems? d fuel' (t ++ u) = some (vs, rest ++ u))
    (hfields : ∀ d acc t fs rest, readFields? d fuel acc t = some (fs, rest) →
      readFields? d fuel' acc (t ++ u) = some (fs, rest ++ u)) :
    Reads depth fuel' (t ++ u) v (rest ++ u) := by
  have hrest : ∀ {negative t}, readNumber? negative t = some (v, rest) → rest ≠ [] := by
    intro negative t h
    rcases he with hne | ⟨fields, rfl⟩
    · exact hne
    · exact absurd h readNumber?_ne_obj
  cases h with
  | null => exact .null (rest ++ u)
  | true => exact .true (rest ++ u)
  | false => exact .false (rest ++ u)
  | notANumber => exact .notANumber (rest ++ u)
  | infinity => exact .infinity (rest ++ u)
  | minusInfinity => exact .minusInfinity (rest ++ u)
  | @str t s _ h =>
    have hlen : t.length + 1 ≤ (t ++ u).length + 1 := by
      rw [List.length_append]
      omega
    exact .str (readText?_append h hlen u)
  | noItems hd h => exact .noItems hd (skip_append_of_eq h u)
  | @items t vs _ d hd hne h =>
    have hskip : skip t ≠ [] := by
      rw [← skip_skip]
      exact skip_ne_nil_of_readItems? h
    have happ : skip (t ++ u) = skip t ++ u := skip_append hskip u
    have hhead : (skip (t ++ u)).head? = (skip t).head? := by
      rw [happ, List.head?_append_of_ne_nil _ hskip]
    exact .items hd (hhead ▸ hne) (happ ▸ hitems d _ vs _ h)
  | noFields hd h => exact .noFields hd (skip_append_of_eq h u)
  | @fields t fs _ d hd hne h =>
    have hskip : skip t ≠ [] := by
      rw [← skip_skip]
      exact skip_ne_nil_of_readFields? h
    have happ : skip (t ++ u) = skip t ++ u := skip_append hskip u
    have hhead : (skip (t ++ u)).head? = (skip t).head? := by
      rw [happ, List.head?_append_of_ne_nil _ hskip]
    exact .fields hd (hhead ▸ hne) (happ ▸ hfields d [] _ fs _ h)
  | number h => exact .number (readNumber?_append h (hrest h) u)
  | minus h => exact .minus (readNumber?_append h (hrest h) u)

/-- With more fuel and text added behind, the same is read, and the text added is left over. -/
theorem read_append (u : Text) (fuel : Nat) : ∀ fuel', fuel ≤ fuel' →
    (∀ d t v rest, readValue? d fuel t = some (v, rest) → Ended v rest →
      readValue? d fuel' (t ++ u) = some (v, rest ++ u)) ∧
    (∀ d t vs rest, readItems? d fuel t = some (vs, rest) →
      readItems? d fuel' (t ++ u) = some (vs, rest ++ u)) ∧
    ∀ d acc t fs rest, readFields? d fuel acc t = some (fs, rest) →
      readFields? d fuel' acc (t ++ u) = some (fs, rest ++ u) := by
  induction fuel with
  | zero =>
    intro fuel' _
    refine ⟨fun d t v rest h => ?_, fun d t vs rest h => ?_, fun d acc t fs rest h => ?_⟩
    all_goals cases h
  | succ fuel ih =>
    intro fuel' hf
    obtain ⟨fuel', rfl⟩ : ∃ n, fuel' = n + 1 := ⟨fuel' - 1, by omega⟩
    obtain ⟨hvalue, hitems, hfields⟩ := ih fuel' (by omega)
    refine ⟨fun d t v rest h he => ?_, fun d t vs rest h => ?_, fun d acc t fs rest h => ?_⟩
    · have hreads := (Reads.of_readValue? h).append he u hitems hfields
      exact hreads.readValue?_eq (skip_append (skip_ne_nil_of_readValue? h) u)
    · obtain ⟨v, r, hv, hrest⟩ := readItems?_iff.mp h
      refine readItems?_iff.mpr ⟨v, r ++ u, ?_, ?_⟩
      · rcases hrest with ⟨r', vs', hr, -⟩ | ⟨hr, -⟩ <;> exact hvalue d t v r hv (ended_of_skip hr)
      · rcases hrest with ⟨r', vs', hr, hvs, rfl⟩ | ⟨hr, rfl⟩
        · exact Or.inl ⟨r' ++ u, vs', skip_append_of_eq hr u, hitems d r' vs' rest hvs, rfl⟩
        · exact Or.inr ⟨skip_append_of_eq hr u, rfl⟩
    · obtain ⟨t', k, r, t'', v, r', ht, hk, hr, hv, hrest⟩ := readFields?_iff.mp h
      have hlen : t'.length + 1 ≤ (t' ++ u).length + 1 := by
        rw [List.length_append]
        omega
      refine readFields?_iff.mpr ⟨t' ++ u, k, r ++ u, t'' ++ u, v, r' ++ u, skip_append_of_eq ht u,
        readText?_append hk hlen u, skip_append_of_eq hr u, ?_, ?_⟩
      · rcases hrest with ⟨r'', hr', -⟩ | ⟨hr', -⟩ <;>
          exact hvalue d t'' v r' hv (ended_of_skip hr')
      · rcases hrest with ⟨r'', hr', hfs⟩ | ⟨hr', rfl⟩
        · exact Or.inl ⟨r'' ++ u, skip_append_of_eq hr' u, hfields d _ r'' fs rest hfs⟩
        · exact Or.inr ⟨skip_append_of_eq hr' u, rfl⟩

theorem readValue?_append {d fuel fuel' : Nat} {t rest : Text} {v : Json}
    (h : readValue? d fuel t = some (v, rest)) (he : Ended v rest) (hf : fuel ≤ fuel') (u : Text) :
    readValue? d fuel' (t ++ u) = some (v, rest ++ u) :=
  (read_append u fuel fuel' hf).1 d t v rest h he

end Outline.Json
