import FacetedSearch.Text.Utf8

/-!
# Reading back UTF-8

The bytes of a text are read as this text again.  A character has one to four bytes, of which the first tells how many
there are; the others hold six bits each.

* `decode_encodeChar_append`: a character is read from the front of its bytes.
* `decode_encode`: a text is read from its bytes.
-/

namespace FacetedSearch

namespace Utf8

theorem toNat_ofNat {n : Nat} (h : n < 0x100) : (UInt8.ofNat n).toNat = n := UInt8.toNat_ofNat_of_lt' h

/-- A byte that holds six bits. -/
theorem isTail_ofNat {n : Nat} (h : n < 0x40) : isTail (.ofNat (0x80 + n)) = true := by
  rw [isTail, toNat_ofNat (by omega), Bool.and_eq_true, decide_eq_true_eq, decide_eq_true_eq]
  omega

theorem tailBits_ofNat {n : Nat} (h : n < 0x40) : tailBits (.ofNat (0x80 + n)) = n := by
  rw [tailBits, toNat_ofNat (by omega)]
  omega

/-! ### Characters of each width -/

section

variable {a b c d : UInt8} (s : List UInt8)

theorem decode_one (ha : width a = 1) : decode (a :: s) = Char.ofNat a.toNat :: decode s := by
  rw [decode.eq_def]
  simp only [ha]

theorem decode_two (ha : width a = 2) (hb : isTail b = true) :
    decode (a :: b :: s) = Char.ofNat (a.toNat % 0x20 * 0x40 + tailBits b) :: decode s := by
  rw [decode.eq_def]
  simp only [ha, hb, if_true]

theorem decode_three (ha : width a = 3) (hb : isSecond a b = true) (hc : isTail c = true) :
    decode (a :: b :: c :: s) =
      Char.ofNat ((a.toNat % 0x10 * 0x40 + tailBits b) * 0x40 + tailBits c) :: decode s := by
  rw [decode.eq_def]
  simp only [ha, hb, hc, if_true]

theorem decode_four (ha : width a = 4) (hb : isSecond a b = true) (hc : isTail c = true) (hd : isTail d = true) :
    decode (a :: b :: c :: d :: s) =
      Char.ofNat (((a.toNat % 8 * 0x40 + tailBits b) * 0x40 + tailBits c) * 0x40 + tailBits d) :: decode s := by
  rw [decode.eq_def]
  simp only [ha, hb, hc, hd, if_true]

end

/-! ### The bytes of a code point -/

section

variable {n : Nat}

theorem width_one (h : n < 0x80) : width (.ofNat n) = 1 := by
  rw [width, toNat_ofNat (by omega), if_pos h]

theorem width_two (h : 0x80 ≤ n) (hlt : n < 0x800) : width (.ofNat (0xC0 + n / 0x40)) = 2 := by
  rw [width, toNat_ofNat (by omega), if_neg (by omega), if_neg (by omega), if_pos (by omega)]

theorem width_three (hlt : n < 0x10000) : width (.ofNat (0xE0 + n / 0x1000)) = 3 := by
  rw [width, toNat_ofNat (by omega), if_neg (by omega), if_neg (by omega), if_neg (by omega), if_pos (by omega)]

theorem width_four (hlt : n < 0x110000) : width (.ofNat (0xF0 + n / 0x40000)) = 4 := by
  rw [width, toNat_ofNat (by omega), if_neg (by omega), if_neg (by omega), if_neg (by omega), if_neg (by omega),
    if_pos (by omega)]

/-- The second byte tells that there is no shorter way to write the code point, and that it is no surrogate. -/
theorem isSecond_three (h : 0x800 ≤ n) (hlt : n < 0x10000) (hvalid : n < 0xD800 ∨ 0xDFFF < n) :
    isSecond (.ofNat (0xE0 + n / 0x1000)) (.ofNat (0x80 + n / 0x40 % 0x40)) = true := by
  rw [isSecond, isTail_ofNat (by omega), toNat_ofNat (by omega), toNat_ofNat (by omega), Bool.true_and]
  split <;> first | rfl | exact decide_eq_true (by omega)

/-- The second byte tells that there is no shorter way to write the code point, and that it is not too large. -/
theorem isSecond_four (h : 0x10000 ≤ n) (hlt : n < 0x110000) :
    isSecond (.ofNat (0xF0 + n / 0x40000)) (.ofNat (0x80 + n / 0x1000 % 0x40)) = true := by
  rw [isSecond, isTail_ofNat (by omega), toNat_ofNat (by omega), toNat_ofNat (by omega), Bool.true_and]
  split <;> first | rfl | exact decide_eq_true (by omega)

end

/-! ### Texts -/

/-- A character is read from the front of its bytes. -/
theorem decode_encodeChar_append (c : Char) (s : List UInt8) : decode (encodeChar c ++ s) = c :: decode s := by
  have hvalid : c.toNat < 0xD800 ∨ 0xDFFF < c.toNat ∧ c.toNat < 0x110000 := c.valid
  -- the bits of the bytes, put together, are the code point
  have hread : ∀ {n : Nat}, n = c.toNat → Char.ofNat n = c := fun h => by rw [h, Char.ofNat_toNat]
  rw [encodeChar]
  split
  · rename_i h1
    rw [List.cons_append, List.nil_append, decode_one _ (width_one h1), toNat_ofNat (by omega), Char.ofNat_toNat]
  split
  · rename_i h1 h2
    rw [List.cons_append, List.cons_append, List.nil_append,
      decode_two _ (width_two (by omega) h2) (isTail_ofNat (by omega)), tailBits_ofNat (by omega),
      toNat_ofNat (by omega), hread (by omega)]
  split
  · rename_i h1 h2 h3
    rw [List.cons_append, List.cons_append, List.cons_append, List.nil_append,
      decode_three _ (width_three h3) (isSecond_three (by omega) h3 (by omega)) (isTail_ofNat (by omega)),
      tailBits_ofNat (by omega), tailBits_ofNat (by omega), toNat_ofNat (by omega), hread (by omega)]
  · rename_i h1 h2 h3
    rw [List.cons_append, List.cons_append, List.cons_append, List.cons_append, List.nil_append,
      decode_four _ (width_four (by omega)) (isSecond_four (by omega) (by omega)) (isTail_ofNat (by omega))
        (isTail_ofNat (by omega)),
      tailBits_ofNat (by omega), tailBits_ofNat (by omega), tailBits_ofNat (by omega), toNat_ofNat (by omega),
      hread (by omega)]

/-- A text is read from its bytes. -/
theorem decode_encode (s : List Char) : decode (encode s) = s := by
  induction s with
  | nil => rfl
  | cons c s ih =>
    rw [encode, List.flatMap_cons, decode_encodeChar_append]
    exact congrArg (c :: ·) ih

end Utf8

end FacetedSearch
