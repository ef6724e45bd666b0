import FacetedSearch.Proofs.Text.Utf8
import FacetedSearch.Proofs.Text.Visible
import FacetedSearch.Url.Form

/-!
# Form fields

The named values of a query are read as they were written.  No mark between them occurs in a written name or value, so
the query falls apart where it was put together, and every escape stands for one byte.

* `Form.isWritten`: the characters that queries are written with.
* `isWritten_of_mem_encode`: there are no others.
* `decodeText_encodeText`: names and values are read back.
* `decode_append`: a pair is added to those that a query has, whatever the query looks like.
* `decode_encode`: all pairs are read back.
-/

namespace FacetedSearch

/-! ### Escapes -/

/-- An upper-case hexadecimal digit is a letter or a digit, and has its value. -/
theorem hexDigit_upper {n : Nat} (h : n < 16) :
    (Nat.digitChar n).toUpper.isAlphanum = true ∧ Hex.value? (Nat.digitChar n).toUpper = some n := by
  have hall : ∀ n < 16,
      (Nat.digitChar n).toUpper.isAlphanum = true ∧ Hex.value? (Nat.digitChar n).toUpper = some n := by decide
  exact hall n h

namespace Percent

theorem mem_escape {b : UInt8} {c : Char} (h : c ∈ escape b) : c = '%' ∨ c.isAlphanum = true := by
  have hb := b.toNat_lt
  rcases List.mem_cons.1 h with rfl | h
  · exact Or.inl rfl
  rcases List.mem_cons.1 h with rfl | h
  · exact Or.inr (hexDigit_upper (by omega)).1
  · exact Or.inr (List.mem_singleton.1 h ▸ (hexDigit_upper (by omega)).1)

/-- An escape is read as the byte that it stands for. -/
theorem decode_escape_append (b : UInt8) (s : List Char) : decode (escape b ++ s) = b :: decode s := by
  have hb := b.toNat_lt
  have hvalue : 16 * (b.toNat / 16) + b.toNat % 16 = b.toNat := by omega
  rw [escape, Hex.upperByte, Hex.lowerByte, List.map_cons, List.map_cons, List.map_nil, List.cons_append,
    List.cons_append, List.cons_append, List.nil_append, decode]
  simp only [(hexDigit_upper (show b.toNat / 16 < 16 by omega)).2,
    (hexDigit_upper (show b.toNat % 16 < 16 by omega)).2, hvalue, UInt8.ofNat_toNat]

theorem decode_cons {c : Char} (h : c ≠ '%') (s : List Char) : decode (c :: s) = Utf8.encodeChar c ++ decode s := by
  rw [decode.eq_def]
  split
  · rename_i heq
    cases heq
  · rename_i heq
    cases heq
    exact absurd rfl h
  · rename_i heq
    cases heq
    rfl

end Percent

/-- A character of a class is none that is not in it. -/
theorem ne_of_class {p : Char → Bool} {c d : Char} (hc : p c = true) (hd : p d = false) : c ≠ d := by
  rintro rfl
  exact Bool.eq_false_iff.1 hd hc

namespace Form

/-! ### Characters -/

/-- The characters of which written names and values consist. -/
def isFieldChar (c : Char) : Bool := isPlain c || ['+', '%'].contains c

/-- The characters of which queries are written. -/
def isWritten (c : Char) : Bool := isFieldChar c || ['&', '='].contains c

theorem isVisible_of_isWritten {c : Char} (h : isWritten c = true) : IsVisible c := by
  simp only [isWritten, isFieldChar, isPlain, Bool.or_eq_true, List.contains_eq_mem, decide_eq_true_eq,
    List.mem_cons, List.not_mem_nil, or_false] at h
  rcases h with ((h | rfl | rfl | rfl | rfl) | rfl | rfl) | rfl | rfl
  · exact .of_isAlphanum h
  all_goals exact ⟨by decide, by decide⟩

theorem isWritten_of_isFieldChar {c : Char} (h : isFieldChar c = true) : isWritten c = true := by
  rw [isWritten, h, Bool.true_or]

theorem isFieldChar_of_isPlain {c : Char} (h : isPlain c = true) : isFieldChar c = true := by
  rw [isFieldChar, h, Bool.true_or]

/-- A byte is written as a plus sign, as itself, or as an escape. -/
theorem encodeByte_cases (b : UInt8) :
    (b = 0x20 ∧ encodeByte b = ['+']) ∨ (∃ c, isPlain c = true ∧ Utf8.encodeChar c = [b] ∧ encodeByte b = [c]) ∨
      encodeByte b = Percent.escape b := by
  rw [encodeByte]
  split
  · exact Or.inl ⟨‹_›, rfl⟩
  split
  · rename_i hplain
    refine Or.inr (Or.inl ⟨_, hplain, ?_, rfl⟩)
    have hvalid : b.toNat.isValidChar := Or.inl (by have := b.toNat_lt; omega)
    have hcode : (Char.ofNat b.toNat).toNat = b.toNat := by
      rw [Char.ofNat, dif_pos hvalid]
      rfl
    have hlt := (isVisible_of_isWritten (isWritten_of_isFieldChar (isFieldChar_of_isPlain hplain))).below
    rw [Utf8.encodeChar, if_pos (by omega), hcode, UInt8.ofNat_toNat]
  · exact Or.inr (Or.inr rfl)

theorem isFieldChar_of_mem_encodeText {s : String} {c : Char} (h : c ∈ encodeText s) : isFieldChar c = true := by
  obtain ⟨b, -, hc⟩ := List.mem_flatMap.1 h
  rcases encodeByte_cases b with ⟨-, heq⟩ | ⟨d, hd, -, heq⟩ | heq <;> rw [heq] at hc
  · rw [List.mem_singleton.1 hc]
    rfl
  · exact isFieldChar_of_isPlain (List.mem_singleton.1 hc ▸ hd)
  · rcases Percent.mem_escape hc with rfl | h
    · rfl
    · exact isFieldChar_of_isPlain (by rw [isPlain, h, Bool.true_or])

theorem isFieldChar_of_mem_encodePair {p : String × String} {c : Char} (h : c ∈ encodePair p) :
    isFieldChar c = true ∨ c = '=' := by
  rcases List.mem_append.1 h with h | h
  · exact Or.inl (isFieldChar_of_mem_encodeText h)
  rcases List.mem_cons.1 h with rfl | h
  · exact Or.inr rfl
  · exact Or.inl (isFieldChar_of_mem_encodeText h)

theorem isWritten_of_mem_append {q : List Char} {p : String × String} (hq : ∀ c ∈ q, isWritten c = true) :
    ∀ c ∈ append q p, isWritten c = true := by
  have hpair : ∀ c ∈ encodePair p, isWritten c = true := by
    intro c hc
    rcases isFieldChar_of_mem_encodePair hc with h | rfl
    · exact isWritten_of_isFieldChar h
    · rfl
  intro c hc
  rw [append] at hc
  split at hc
  · exact hpair c hc
  rcases List.mem_append.1 hc with hc | hc
  · exact hq c hc
  rcases List.mem_cons.1 hc with rfl | hc
  · rfl
  · exact hpair c hc

/-- Queries are written with letters, digits and the marks `*-._+%&=` only. -/
theorem isWritten_of_mem_encode {ps : List (String × String)} : ∀ c ∈ encode ps, isWritten c = true := by
  have hfold : ∀ q : List Char, (∀ c ∈ q, isWritten c = true) → ∀ c ∈ ps.foldl append q, isWritten c = true := by
    induction ps with
    | nil => exact fun _ hq => hq
    | cons p ps ih => exact fun _ hq => ih _ (isWritten_of_mem_append hq)
  exact hfold [] nofun

/-! ### Names and values -/

/-- A written byte is read as it was. -/
theorem decode_encodeByte_append (b : UInt8) (s : List Char) :
    Percent.decode ((encodeByte b ++ s).map fun c => if c = '+' then ' ' else c) =
      b :: Percent.decode (s.map fun c => if c = '+' then ' ' else c) := by
  have hkept : ∀ t : List Char, (∀ c ∈ t, c ≠ '+') → t.map (fun c => if c = '+' then ' ' else c) = t := fun t ht =>
    (List.map_congr_left fun c hc => if_neg (ht c hc)).trans (List.map_id t)
  rw [List.map_append]
  rcases encodeByte_cases b with ⟨rfl, heq⟩ | ⟨c, hc, hbytes, heq⟩ | heq <;> rw [heq]
  · exact Percent.decode_cons (by decide) _
  · rw [hkept [c] fun d hd => ne_of_class (List.mem_singleton.1 hd ▸ hc) rfl, List.singleton_append,
      Percent.decode_cons (ne_of_class hc rfl), hbytes, List.singleton_append]
  · rw [hkept (Percent.escape b) fun c hc => ?_, Percent.decode_escape_append]
    rcases Percent.mem_escape hc with rfl | h
    · decide
    · exact ne_of_class h rfl

/-- A name or a value is read back. -/
theorem decodeText_encodeText (s : String) : decodeText (encodeText s) = s := by
  have hbytes : ∀ bs : List UInt8,
      Percent.decode ((bs.flatMap encodeByte).map fun c => if c = '+' then ' ' else c) = bs := by
    intro bs
    induction bs with
    | nil => rfl
    | cons b bs ih => rw [List.flatMap_cons, decode_encodeByte_append, ih]
  rw [decodeText, encodeText, hbytes, Utf8.decode_encode, String.ofList_toList]

/-! ### Pairs -/

/-- A pair is read back. -/
theorem decodePair_encodePair (p : String × String) : decodePair (encodePair p) = p := by
  have hname : ∀ c ∈ encodeText p.1, (c != '=') = true := fun c hc =>
    bne_iff_ne.2 (ne_of_class (isFieldChar_of_mem_encodeText hc) rfl)
  rw [decodePair, encodePair, List.takeWhile_append_of_pos hname, List.dropWhile_append_of_pos hname,
    List.takeWhile_cons_of_neg (by decide), List.dropWhile_cons_of_neg (by decide), List.append_nil, List.drop_one,
    List.tail_cons, decodeText_encodeText, decodeText_encodeText]

/-- A pair is added to those that a query has, whatever the query looks like. -/
theorem decode_append (q : List Char) (p : String × String) : decode (append q p) = decode q ++ [p] := by
  have hpair : cutAt '&' (encodePair p) = [encodePair p] := by
    refine cutWhere_eq_singleton fun c hc => beq_eq_false_iff_ne.2 ?_
    rcases isFieldChar_of_mem_encodePair hc with h | rfl
    · exact ne_of_class h rfl
    · decide
  have hsome : (encodePair p).isEmpty = false := by
    rw [encodePair]
    cases encodeText p.1 <;> rfl
  have hone : decode (encodePair p) = [p] := by
    rw [decode, hpair, List.filter_cons_of_pos (by rw [hsome]; rfl), List.filter_nil, List.map_cons, List.map_nil,
      decodePair_encodePair]
  rw [append]
  split
  · rename_i hq
    rw [List.isEmpty_iff.1 hq, hone]
    rfl
  · rw [decode, cutAt, cutWhere_append_cons (by rfl), List.filter_append, List.map_append]
    exact congrArg _ hone

/-- All pairs are read back. -/
theorem decode_encode (ps : List (String × String)) : decode (encode ps) = ps := by
  have hfold : ∀ q : List Char, decode (ps.foldl append q) = decode q ++ ps := by
    induction ps with
    | nil => exact fun q => (List.append_nil _).symm
    | cons p ps ih =>
      intro q
      rw [List.foldl_cons, ih, decode_append, List.append_assoc, List.singleton_append]
  exact hfold []

end Form

end FacetedSearch
