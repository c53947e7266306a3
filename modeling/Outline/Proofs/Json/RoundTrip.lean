import Outline.Json.Writer
import Outline.Proofs.Json.Reading

/-!
# Writing JSON and reading it back

A value without fractions whose fields have different names is read back from its rendering
(`read?_render`), and an object is not read from a part of its rendering (`read?_part`).
-/
namespace Outline

/-! ## Digits -/

namespace Text

theorem ofNat_eq_toDigits (n : Nat) : ofNat n = Nat.toDigits 10 n := by
  rw [ofNat, Nat.repr_eq_ofList_toDigits, String.toList_ofList]

theorem isAsciiDigit_of_mem_ofNat {n : Nat} {c : Char} (h : c ∈ ofNat n) :
    isAsciiDigit c = true := by
  rw [ofNat_eq_toDigits] at h
  exact Nat.isDigit_of_mem_toDigits (by decide) (by decide) h

theorem ofNat_ne_nil (n : Nat) : ofNat n ≠ [] := by
  rw [ofNat_eq_toDigits]
  exact Nat.toDigits_ne_nil

/-- No number but zero begins with a zero. -/
theorem head?_toDigits_ne {n : Nat} (hn : 0 < n) : (Nat.toDigits 10 n).head? ≠ some '0' := by
  have hdigit : ∀ d < 10, 0 < d → [Nat.digitChar d].head? ≠ some '0' := by decide
  induction n using Nat.strongRecOn with
  | ind n ih =>
    by_cases hlt : n < 10
    · rw [Nat.toDigits_of_lt_base hlt]
      exact hdigit n hlt hn
    · rw [Nat.toDigits_of_base_le (by decide) (Nat.le_of_not_lt hlt),
        List.head?_append_of_ne_nil _ Nat.toDigits_ne_nil]
      exact ih (n / 10) (by omega) (by omega)

theorem length_ofNat_of_zero {n : Nat} (h : (ofNat n).head? = some '0') : (ofNat n).length = 1 := by
  rw [ofNat_eq_toDigits] at h ⊢
  rcases Nat.eq_zero_or_pos n with rfl | hn
  · rfl
  · exact absurd h (head?_toDigits_ne hn)

end Text

namespace Json

theorem digitsValue_ofNat (n : Nat) : digitsValue (Text.ofNat n) = n := by
  have hvalue : digitsValue (Text.ofNat n) = Nat.ofDigitChars 10 (Nat.toDigits 10 n) 0 := by
    rw [Text.ofNat_eq_toDigits, Nat.ofDigitChars_eq_foldl]
    rfl
  rw [hvalue, Nat.ofDigitChars_ten_toDigits]

/-! ## Numbers -/

/-- What may follow a value: nothing, another value or the end of what it is inside of. -/
inductive Follows : Text → Prop
  | nil : Follows []
  | comma (rest : Text) : Follows (',' :: rest)
  | bracket (rest : Text) : Follows (']' :: rest)
  | brace (rest : Text) : Follows ('\x7d' :: rest)

theorem spanDigits_ofNat (n : Nat) {rest : Text} (h : Follows rest) :
    spanDigits (Text.ofNat n ++ rest) = (Text.ofNat n, rest) := by
  have hdigits : ∀ c ∈ Text.ofNat n, isAsciiDigit c = true := fun c =>
    Text.isAsciiDigit_of_mem_ofNat
  rw [spanDigits, List.takeWhile_append_of_pos hdigits, List.dropWhile_append_of_pos hdigits]
  cases h with
  | nil => exact Prod.ext (List.append_nil _) rfl
  | comma | bracket | brace => exact Prod.ext (List.append_nil _) rfl

theorem readNumber?_ofNat {n : Nat} (hn : (Text.ofNat n).length ≤ maxDigits) (negative : Bool)
    {rest : Text} (hrest : Follows rest) :
    readNumber? negative (Text.ofNat n ++ rest) =
      some (.int (if negative then -(n : Int) else n), rest) := by
  have hwhole : ¬((Text.ofNat n).isEmpty = true ∨
      (Text.ofNat n).head? = some '0' ∧ (Text.ofNat n).length ≠ 1) := by
    rintro (hempty | ⟨hzero, hlen⟩)
    · exact Text.ofNat_ne_nil n (List.isEmpty_iff.mp hempty)
    · exact hlen (Text.length_ofNat_of_zero hzero)
  have hfraction : readFraction? rest = some ([], rest) := by cases hrest <;> rfl
  have hpower : readPower? rest = some (none, rest) := by cases hrest <;> rfl
  rw [readNumber?_iff, spanDigits_ofNat n hrest]
  refine ⟨hwhole, [], rest, none, hfraction, hpower, ?_⟩
  rw [numberOf?, if_pos ⟨rfl, rfl⟩, if_neg (Nat.not_lt.mpr hn), digitsValue_ofNat]

/-! ## Texts -/

/-- The escape of a control character is read as that character. -/
theorem readEscape?_unitEscape {c : Char} (hc : c.toNat < 32) (rest : Text) :
    readEscape? ('u' :: hex4 c.toNat ++ rest) = some (c, rest) := by
  have hhex : ∀ n < 32, ((hex4 n).all fun x => (Text.hexDigit? x).isSome) = true ∧
      Text.hexValue (hex4 n) = n := by decide +kernel
  obtain ⟨hdigits, hvalue⟩ := hhex c.toNat hc
  have hunit : readUnit? (hex4 c.toNat ++ rest) = some (c.toNat, rest) := by
    have hread : readUnit? (hex4 c.toNat ++ rest) =
        if (hex4 c.toNat).all fun x => (Text.hexDigit? x).isSome then
          some (Text.hexValue (hex4 c.toNat), rest)
        else none := rfl
    rw [hread, if_pos hdigits, hvalue]
  rw [List.cons_append, readEscape?, hunit]
  simp only [Option.bind_eq_bind, Option.bind_some]
  rw [if_neg (by omega), if_neg (by omega), Char.ofNat_toNat]

theorem readText?_escape {e t s rest : Text} {c : Char} {fuel : Nat}
    (he : readEscape? (e ++ t) = some (c, t)) (h : readText? fuel t = some (s, rest)) :
    readText? (fuel + 1) ('\\' :: e ++ t) = some (c :: s, rest) := by
  rw [List.cons_append, readText?, if_neg (by decide), if_pos rfl, he]
  simp only [Option.bind_eq_bind, Option.bind_some]
  rw [h]
  rfl

/-- A character as it is written is read as that character. -/
theorem readText?_writeChar (c : Char) {fuel : Nat} {t s rest : Text}
    (h : readText? fuel t = some (s, rest)) :
    readText? (fuel + 1) (writeChar false c ++ t) = some (c :: s, rest) := by
  unfold writeChar
  split
  · exact readText?_escape (e := ['"']) rfl h
  · exact readText?_escape (e := ['\\']) rfl h
  · exact readText?_escape (e := ['n']) rfl h
  · exact readText?_escape (e := ['r']) rfl h
  · exact readText?_escape (e := ['t']) rfl h
  · exact readText?_escape (e := ['b']) rfl h
  · exact readText?_escape (e := ['f']) rfl h
  · rename_i hquote hslash _ _ _ _ _
    dsimp only
    split
    · rename_i hctl
      exact readText?_escape (readEscape?_unitEscape hctl t) h
    · rename_i hctl
      have hplain : (!false || decide (c.toNat < 127)) = true := rfl
      rw [if_pos hplain, List.cons_append, List.nil_append, readText?, if_neg hquote,
        if_neg hslash, if_neg hctl, h]
      rfl

theorem readText?_write (s : Text) {fuel : Nat} (hf : s.length < fuel) (rest : Text) :
    readText? fuel (s.flatMap (writeChar false) ++ '"' :: rest) = some (s, rest) := by
  induction s generalizing fuel with
  | nil =>
    obtain ⟨fuel, rfl⟩ : ∃ n, fuel = n + 1 := ⟨fuel - 1, by omega⟩
    rfl
  | cons c cs ih =>
    rw [List.length_cons] at hf
    obtain ⟨fuel, rfl⟩ : ∃ n, fuel = n + 1 := ⟨fuel - 1, by omega⟩
    rw [List.flatMap_cons, List.append_assoc]
    exact readText?_writeChar c (ih (by omega))

theorem length_flatMap_writeChar (s : Text) : s.length ≤ (s.flatMap (writeChar false)).length := by
  have hone : ∀ c, 1 ≤ (writeChar false c).length := by
    intro c
    unfold writeChar
    split
    any_goals decide
    dsimp only
    split
    · exact Nat.le_add_left 1 5
    · exact Nat.le_refl 1
  induction s with
  | nil => exact Nat.zero_le _
  | cons c cs ih =>
    rw [List.flatMap_cons, List.length_append, List.length_cons]
    have := hone c
    omega

/-! ## Values -/

/-- A value that can be read back: its whole numbers are not too long, the fields of an object have
different names, and it is nested at most `depth` deep. -/
inductive Writable : Nat → Json → Prop
  | null {depth} : Writable depth .null
  | bool {depth} (b : Bool) : Writable depth (.bool b)
  | int {depth} (i : Int) (h : (Text.ofNat i.natAbs).length ≤ maxDigits) : Writable depth (.int i)
  | str {depth} (t : Text) : Writable depth (.str t)
  | arr {depth} {items : List Json} (h : ∀ j ∈ items, Writable depth j) :
    Writable (depth + 1) (.arr items)
  | obj {depth} {fields : List (Text × Json)} (hk : (fields.map (·.1)).Nodup)
    (h : ∀ f ∈ fields, Writable depth f.2) : Writable (depth + 1) (.obj fields)

theorem not_isSpace_of_isAsciiDigit {c : Char} (h : isAsciiDigit c = true) :
    isSpace c = false ∧ c ≠ ']' := by
  constructor
  · rw [← Bool.not_eq_true]
    intro hspace
    simp only [isSpace, Bool.or_eq_true, beq_iff_eq] at hspace
    rcases hspace with ((rfl | rfl) | rfl) | rfl <;> exact absurd h (by decide)
  · rintro rfl
    exact absurd h (by decide)

/-- How a written value begins. -/
theorem head_write {depth : Nat} {j : Json} (h : Writable depth j) :
    ∃ c t, write false j = c :: t ∧ isSpace c = false ∧ c ≠ ']' := by
  cases h with
  | null => exact ⟨'n', _, rfl, rfl, by decide⟩
  | bool b =>
    cases b with
    | false => exact ⟨'f', _, rfl, rfl, by decide⟩
    | true => exact ⟨'t', _, rfl, rfl, by decide⟩
  | int i h =>
    rw [write, Text.ofInt]
    split
    · exact ⟨'-', _, rfl, rfl, by decide⟩
    · obtain ⟨c, t, ht⟩ := List.exists_cons_of_ne_nil (Text.ofNat_ne_nil i.natAbs)
      have hdigit : c ∈ Text.ofNat i.natAbs := ht ▸ List.mem_cons_self ..
      exact ⟨c, t, ht, not_isSpace_of_isAsciiDigit (Text.isAsciiDigit_of_mem_ofNat hdigit)⟩
  | str t => exact ⟨'"', _, rfl, rfl, by decide⟩
  | arr => exact ⟨'[', _, rfl, rfl, by decide⟩
  | obj => exact ⟨'\x7b', _, rfl, rfl, by decide⟩

theorem head_writeItems {depth : Nat} {v : Json} (h : Writable depth v) (vs : List Json) :
    ∃ c t, writeItems false (v :: vs) = c :: t ∧ isSpace c = false ∧ c ≠ ']' := by
  obtain ⟨c, t, hw, hc⟩ := head_write h
  cases vs with
  | nil => exact ⟨c, t, by rw [writeItems, hw], hc⟩
  | cons w vs =>
    refine ⟨c, t ++ [',', ' '] ++ writeItems false (w :: vs), ?_, hc⟩
    rw [writeItems, hw]
    rfl

theorem head_writeFields (f : Text × Json) (fs : List (Text × Json)) :
    ∃ t, writeFields false (f :: fs) = '"' :: t := by
  cases fs with
  | nil => exact ⟨_, rfl⟩
  | cons g fs => exact ⟨_, rfl⟩

theorem readValue?_space (depth fuel : Nat) (t : Text) :
    readValue? depth fuel (' ' :: t) = readValue? depth fuel t := by
  cases fuel with
  | zero => rfl
  | succ fuel => rw [readValue?, readValue?, skip_cons_space rfl]

theorem readItems?_space (depth fuel : Nat) (t : Text) :
    readItems? depth fuel (' ' :: t) = readItems? depth fuel t := by
  cases fuel with
  | zero => rfl
  | succ fuel => rw [readItems?, readItems?, readValue?_space]

theorem readFields?_space (depth fuel : Nat) (acc : List (Text × Json)) (t : Text) :
    readFields? depth fuel acc (' ' :: t) = readFields? depth fuel acc t := by
  cases fuel with
  | zero => rfl
  | succ fuel => rw [readFields?, readFields?, skip_cons_space rfl]

/-- A value is read back with fuel for its length, whatever may follow it. -/
def ReadsBack (depth : Nat) (j : Json) : Prop :=
  ∀ fuel rest, (write false j).length ≤ fuel → Follows rest →
    readValue? depth fuel (write false j ++ rest) = some (j, rest)

theorem readItems?_write {depth : Nat} {vs : List Json} (hne : vs ≠ [])
    (hvs : ∀ v ∈ vs, ReadsBack depth v) {fuel : Nat} (hf : (writeItems false vs).length < fuel)
    (rest : Text) :
    readItems? depth fuel (writeItems false vs ++ ']' :: rest) = some (vs, rest) := by
  obtain ⟨fuel, rfl⟩ : ∃ n, fuel = n + 1 := ⟨fuel - 1, by omega⟩
  induction vs generalizing fuel with
  | nil => exact absurd rfl hne
  | cons v vs ih =>
    have hv := hvs v (List.mem_cons_self ..)
    cases vs with
    | nil =>
      rw [writeItems] at hf ⊢
      exact readItems?_iff.mpr ⟨v, _, hv fuel _ (by omega) (.bracket rest), Or.inr ⟨rfl, rfl⟩⟩
    | cons w vs =>
      simp only [writeItems, List.length_append, List.length_cons, List.append_assoc,
        List.cons_append, List.nil_append] at hf ⊢
      refine readItems?_iff.mpr
        ⟨v, _, hv fuel _ (by omega) (.comma _), Or.inl ⟨_, w :: vs, rfl, ?_, rfl⟩⟩
      obtain ⟨fuel, rfl⟩ : ∃ n, fuel = n + 1 := ⟨fuel - 1, by omega⟩
      rw [readItems?_space]
      exact ih (List.cons_ne_nil _ _) (fun j hj => hvs j (List.mem_cons_of_mem _ hj)) fuel
        (by omega)

theorem putField_of_not_mem {k : Text} {v : Json} {acc : List (Text × Json)}
    (h : k ∉ acc.map (·.1)) : putField k v acc = acc ++ [(k, v)] := by
  induction acc with
  | nil => rfl
  | cons f acc ih =>
    rw [List.map_cons, List.mem_cons, not_or] at h
    rw [putField, if_neg (Ne.symm h.1), ih h.2, List.cons_append]

/-- One field, with what comes behind it. -/
theorem readFields?_field {depth fuel : Nat} {k : Text} {v : Json} {acc fs : List (Text × Json)}
    {tail rest : Text} (hv : ReadsBack depth v) (hf : (write false v).length ≤ fuel)
    (htail : Follows tail)
    (h : (∃ r, skip tail = ',' :: r ∧
        readFields? depth fuel (putField k v acc) r = some (fs, rest)) ∨
      skip tail = '\x7d' :: rest ∧ fs = putField k v acc) :
    readFields? depth (fuel + 1) acc
      (writeText false k ++ [':', ' '] ++ write false v ++ tail) = some (fs, rest) := by
  have htext : writeText false k ++ [':', ' '] ++ write false v ++ tail =
      '"' :: (k.flatMap (writeChar false) ++ '"' :: ':' :: ' ' :: (write false v ++ tail)) := by
    simp [writeText]
  rw [htext]
  refine readFields?_iff.mpr ⟨_, k, _, _, v, tail, rfl, readText?_write k ?_ _, rfl, ?_, h⟩
  · have := length_flatMap_writeChar k
    rw [List.length_append]
    omega
  · rw [readValue?_space]
    exact hv fuel tail hf htail

theorem readFields?_write {depth : Nat} {fs : List (Text × Json)} (hne : fs ≠ [])
    (hfs : ∀ f ∈ fs, ReadsBack depth f.2) {acc : List (Text × Json)}
    (hk : ((acc ++ fs).map (·.1)).Nodup) {fuel : Nat} (hf : (writeFields false fs).length < fuel)
    (rest : Text) :
    readFields? depth fuel acc (writeFields false fs ++ '\x7d' :: rest) =
      some (acc ++ fs, rest) := by
  obtain ⟨fuel, rfl⟩ : ∃ n, fuel = n + 1 := ⟨fuel - 1, by omega⟩
  induction fs generalizing fuel acc with
  | nil => exact absurd rfl hne
  | cons f fs ih =>
    obtain ⟨k, v⟩ := f
    have hv := hfs (k, v) (List.mem_cons_self ..)
    have hput : putField k v acc = acc ++ [(k, v)] := by
      refine putField_of_not_mem fun hmem => ?_
      rw [List.map_append, List.map_cons, List.nodup_append] at hk
      exact hk.2.2 k hmem k (List.mem_cons_self ..) rfl
    cases fs with
    | nil =>
      rw [writeFields] at hf ⊢
      rw [List.length_append] at hf
      exact readFields?_field hv (by omega) (.brace rest) (Or.inr ⟨rfl, hput.symm⟩)
    | cons g fs =>
      have htext : writeFields false ((k, v) :: g :: fs) ++ '\x7d' :: rest =
          writeText false k ++ [':', ' '] ++ write false v ++
            (',' :: ' ' :: (writeFields false (g :: fs) ++ '\x7d' :: rest)) := by
        simp [writeFields]
      simp only [writeFields, List.length_append, List.length_cons] at hf
      rw [htext]
      refine readFields?_field hv (by omega) (.comma _) (Or.inl ⟨_, rfl, ?_⟩)
      obtain ⟨fuel, rfl⟩ : ∃ n, fuel = n + 1 := ⟨fuel - 1, by omega⟩
      rw [readFields?_space, hput]
      have hassoc : acc ++ (k, v) :: g :: fs = acc ++ [(k, v)] ++ g :: fs := by simp
      rw [hassoc] at hk ⊢
      exact ih (List.cons_ne_nil _ _) (fun f hf => hfs f (List.mem_cons_of_mem _ hf)) hk fuel
        (by omega)

/-- Nothing is skipped in front of a text that begins with no white space. -/
theorem skip_of_eq_cons {c : Char} {t w : Text} (hw : w = c :: t) (hc : isSpace c = false)
    (rest : Text) : skip (w ++ rest) = w ++ rest := by
  rw [hw, List.cons_append, skip_cons hc]

theorem Writable.readsBack_of_reads {depth : Nat} {j : Json} (h : Writable depth j)
    (hr : ∀ fuel rest, (write false j).length ≤ fuel + 1 → Follows rest →
      Reads depth fuel (write false j ++ rest) j rest) : ReadsBack depth j := by
  intro fuel rest hf hrest
  obtain ⟨c, t, hw, hc, -⟩ := head_write h
  obtain ⟨fuel, rfl⟩ : ∃ n, fuel = n + 1 := by
    rw [hw, List.length_cons] at hf
    exact ⟨fuel - 1, by omega⟩
  exact (hr fuel rest hf hrest).readValue?_eq (skip_of_eq_cons hw hc rest)

section

variable {depth fuel : Nat} {rest : Text}

theorem reads_int {i : Int} (h : (Text.ofNat i.natAbs).length ≤ maxDigits)
    (hrest : Follows rest) : Reads depth fuel (write false (.int i) ++ rest) (.int i) rest := by
  have hread := fun negative => readNumber?_ofNat h negative hrest
  rw [write, Text.ofInt]
  split
  · rename_i hneg
    have hi : -(i.natAbs : Int) = i := by omega
    rw [List.cons_append]
    refine .minus ?_
    rw [hread true, if_pos rfl, hi]
  · rename_i hpos
    have hi : (i.natAbs : Int) = i := by omega
    refine .number ?_
    rw [hread false, if_neg (by decide), hi]

theorem reads_str (t rest : Text) :
    Reads depth fuel (write false (.str t) ++ rest) (.str t) rest := by
  have htext : write false (.str t) ++ rest =
      '"' :: (t.flatMap (writeChar false) ++ '"' :: rest) := by
    simp [write, writeText]
  have hlen := length_flatMap_writeChar t
  rw [htext]
  exact .str (readText?_write t (by rw [List.length_append]; omega) rest)

theorem reads_arr {items : List Json} (h : ∀ j ∈ items, Writable depth j)
    (hback : ∀ j ∈ items, ReadsBack depth j)
    (hf : (write false (.arr items)).length ≤ fuel + 1) :
    Reads (depth + 1) fuel (write false (.arr items) ++ rest) (.arr items) rest := by
  have htext : write false (.arr items) ++ rest =
      '[' :: (writeItems false items ++ ']' :: rest) := by
    simp [write]
  rw [htext]
  cases items with
  | nil => exact .noItems (Nat.succ_ne_zero _) rfl
  | cons v vs =>
    obtain ⟨c, t, hw, hc, hclose⟩ := head_writeItems (h v (List.mem_cons_self ..)) vs
    have hskip := skip_of_eq_cons hw hc (']' :: rest)
    refine .items rfl ?_ ?_
    · rw [hskip, hw]
      exact fun heq => hclose (Option.some.inj heq)
    · rw [hskip]
      refine readItems?_write (List.cons_ne_nil _ _) hback ?_ rest
      rw [write] at hf
      simp only [List.length_append, List.length_cons, List.length_nil] at hf
      omega

theorem reads_obj {fields : List (Text × Json)} (hk : (fields.map (·.1)).Nodup)
    (hback : ∀ f ∈ fields, ReadsBack depth f.2)
    (hf : (write false (.obj fields)).length ≤ fuel + 1) :
    Reads (depth + 1) fuel (write false (.obj fields) ++ rest) (.obj fields) rest := by
  have htext : write false (.obj fields) ++ rest =
      '\x7b' :: (writeFields false fields ++ '\x7d' :: rest) := by
    simp [write]
  rw [htext]
  cases fields with
  | nil => exact .noFields (Nat.succ_ne_zero _) rfl
  | cons f fs =>
    obtain ⟨t, hw⟩ := head_writeFields f fs
    have hskip := skip_of_eq_cons hw rfl ('\x7d' :: rest)
    refine .fields rfl ?_ ?_
    · rw [hskip, hw]
      exact fun heq => absurd (Option.some.inj heq) (by decide)
    · rw [hskip]
      refine readFields?_write (List.cons_ne_nil _ _) hback hk ?_ rest
      rw [write] at hf
      simp only [List.length_append, List.length_cons, List.length_nil] at hf
      omega

end

theorem Writable.readsBack {depth : Nat} {j : Json} (h : Writable depth j) :
    ReadsBack depth j := by
  induction h with
  | null => exact Writable.null.readsBack_of_reads fun _ rest _ _ => .null rest
  | bool b =>
    refine (Writable.bool b).readsBack_of_reads fun _ rest _ _ => ?_
    cases b with
    | false => exact .false rest
    | true => exact .true rest
  | int i h => exact (Writable.int i h).readsBack_of_reads fun _ _ _ => reads_int h
  | str t => exact (Writable.str t).readsBack_of_reads fun _ rest _ _ => reads_str t rest
  | arr h ih => exact (Writable.arr h).readsBack_of_reads fun _ _ hf _ => reads_arr h ih hf
  | obj hk h ih => exact (Writable.obj hk h).readsBack_of_reads fun _ _ hf _ => reads_obj hk ih hf

/-! ## Renderings -/

/-- A value is read back from its rendering. -/
theorem read?_render {depth : Nat} {j : Json} (h : Writable depth j) :
    read? depth j.render = some j := by
  have hread : readValue? depth (2 * j.render.length + 2) (j.render ++ []) = some (j, []) :=
    h.readsBack _ [] (by rw [render]; omega) .nil
  rw [List.append_nil] at hread
  rw [read?, hread]
  rfl

/-- What is read from the front of an object is an object. -/
theorem ended_of_brace {depth fuel : Nat} {t rest : Text} {v : Json}
    (h : readValue? depth fuel ('\x7b' :: t) = some (v, rest)) : Ended v rest := by
  cases fuel with
  | zero => cases h
  | succ fuel =>
    have hreads := Reads.of_readValue? h
    rw [skip_cons rfl] at hreads
    generalize ht : '\x7b' :: t = t' at hreads
    cases hreads with
    | noFields => exact Or.inr ⟨_, rfl⟩
    | fields => exact Or.inr ⟨_, rfl⟩
    | number h =>
      obtain ⟨c, t', rfl, hc⟩ := head_of_readNumber? h
      cases ht
      exact absurd hc (by decide)
    | null | true | false | notANumber | infinity | minusInfinity | str | noItems | items | minus =>
      cases ht

/-- An object is read from its whole rendering only. -/
theorem read?_part {depth : Nat} {fields : List (Text × Json)} (h : Writable depth (.obj fields))
    {p u : Text} (hpart : render (.obj fields) = p ++ u) (hu : u ≠ []) : read? depth p = none := by
  rw [Option.eq_none_iff_forall_ne_some]
  intro v hv
  obtain ⟨⟨v', rest⟩, hread, -⟩ := Option.bind_eq_some_iff.mp hv
  have hended : Ended v' rest := by
    cases p with
    | nil => exact absurd rfl (skip_ne_nil_of_readValue? hread)
    | cons c p =>
      have hc : '\x7b' = c := by
        have hwrite : render (.obj fields) = '\x7b' :: _ := rfl
        rw [hwrite] at hpart
        exact (List.cons.inj hpart).1
      subst hc
      exact ended_of_brace hread
  -- the same would be read from the whole rendering, with what is missing left over
  have hwhole := readValue?_append hread hended (Nat.le_add_right _ (render (.obj fields)).length) u
  have hback := h.readsBack (2 * p.length + 2 + (render (.obj fields)).length) []
    (by rw [render]; omega) .nil
  rw [List.append_nil] at hback
  rw [← hpart] at hwhole
  have hrest : rest ++ u = [] := (Prod.mk.inj (Option.some.inj (hwhole.symm.trans hback))).2
  exact hu (List.append_eq_nil_iff.mp hrest).2

end Json

end Outline
