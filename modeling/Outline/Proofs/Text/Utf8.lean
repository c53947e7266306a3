import Outline.Text.Utf8

/-!
# Bytes and back

The bytes of a text spell that text (`decode_encode`).
-/
namespace Outline.Utf8

/-! ## One character -/

section

variable {lead lo hi b c d : Nat}

theorem front_two (h : lo ≤ b ∧ b ≤ hi) (hb : isTail b = true) (rest : List Nat) :
    front lead lo hi 1 (b :: rest) = .char (Char.ofNat (lead * 64 + (b - 0x80))) 2 := by
  simp [front, h, hb]

theorem front_three (h : lo ≤ b ∧ b ≤ hi) (hb : isTail b = true) (hc : isTail c = true)
    (rest : List Nat) :
    front lead lo hi 2 (b :: c :: rest) =
      .char (Char.ofNat ((lead * 64 + (b - 0x80)) * 64 + (c - 0x80))) 3 := by
  simp [front, h, hb, hc]

theorem front_four (h : lo ≤ b ∧ b ≤ hi) (hb : isTail b = true) (hc : isTail c = true)
    (hd : isTail d = true) (rest : List Nat) :
    front lead lo hi 3 (b :: c :: d :: rest) =
      .char (Char.ofNat (((lead * 64 + (b - 0x80)) * 64 + (c - 0x80)) * 64 + (d - 0x80))) 4 := by
  simp [front, h, hb, hc, hd]

end

theorem isTail_add {n : Nat} (h : n < 64) : isTail (0x80 + n) = true := by
  simp only [isTail, Bool.and_eq_true, decide_eq_true_eq]
  omega

/-- The bytes of a character are read as that character, whatever follows. -/
theorem frontOf_encodeChar (c : Char) (rest : List Nat) :
    ∃ a bs, encodeChar c = a :: bs ∧ frontOf a (bs ++ rest) = .char c (bs.length + 1) := by
  have hvalid : c.toNat < 0xD800 ∨ 0xDFFF < c.toNat ∧ c.toNat < 0x110000 := c.valid
  have hback : ∀ n, n = c.toNat → Char.ofNat n = c := by
    rintro n rfl
    exact Char.ofNat_toNat c
  rw [encodeChar]
  generalize c.toNat = n at hvalid hback ⊢
  split
  · rename_i h
    refine ⟨n, [], rfl, ?_⟩
    rw [frontOf, if_pos h, hback n rfl]
    rfl
  · split
    · refine ⟨_, _, rfl, ?_⟩
      rw [frontOf, if_neg (by omega), if_neg (by omega), if_pos (by omega), List.cons_append,
        front_two (by omega) (isTail_add (by omega)), hback _ (by omega)]
      rfl
    · split
      · refine ⟨_, _, rfl, ?_⟩
        rw [frontOf, if_neg (by omega), if_neg (by omega), if_neg (by omega), if_pos (by omega),
          List.cons_append, List.cons_append,
          front_three (by split <;> split <;> omega) (isTail_add (by omega))
            (isTail_add (by omega)), hback _ (by omega)]
        rfl
      · refine ⟨_, _, rfl, ?_⟩
        rw [frontOf, if_neg (by omega), if_neg (by omega), if_neg (by omega), if_neg (by omega),
          if_pos (by omega), List.cons_append, List.cons_append, List.cons_append,
          front_four (by split <;> split <;> omega) (isTail_add (by omega))
            (isTail_add (by omega)) (isTail_add (by omega)), hback _ (by omega)]
        rfl

/-! ## Texts -/

/-- Bytes that belong to a character already read are passed over. -/
theorem decodeFrom_append (pos : Nat) (bs rest : List Nat) :
    decodeFrom pos bs.length (bs ++ rest) = decodeFrom (pos + bs.length) 0 rest := by
  induction bs generalizing pos with
  | nil => rfl
  | cons b bs ih =>
    rw [List.cons_append, List.length_cons, decodeFrom, ih]
    congr 1
    omega

theorem decodeFrom_encode (pos : Nat) (t : Text) : decodeFrom pos 0 (encode t) = .ok t := by
  induction t generalizing pos with
  | nil => rfl
  | cons c cs ih =>
    obtain ⟨a, bs, hbytes, hfront⟩ := frontOf_encodeChar c (encode cs)
    have hencode : encode (c :: cs) = a :: (bs ++ encode cs) := by
      rw [encode, List.flatMap_cons, hbytes]
      rfl
    rw [hencode, decodeFrom, hfront]
    dsimp only
    rw [Nat.add_sub_cancel, decodeFrom_append, ih]
    rfl

theorem decode_encode (t : Text) : decode (encode t) = .ok t := decodeFrom_encode 0 t

end Outline.Utf8
