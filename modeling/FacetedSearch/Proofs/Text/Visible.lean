import FacetedSearch.Text.Blank

/-!
# Visible characters

Encoded text consists of characters that take up ink: nothing in it is dropped with the blanks around a text.

* `IsVisible`: the printed characters of ASCII but the blank.
* `trimmed_eq_self`: a text keeps its ends if they are no blanks.
-/

namespace FacetedSearch

/-- A printed character of ASCII that is not the blank. -/
structure IsVisible (c : Char) : Prop where
  above : 0x20 < c.toNat
  below : c.toNat < 0x7F

theorem isBlank_eq_false_of_code {c : Char} (h : 0x20 < c.toNat) (hlt : c.toNat < 0x85) : isBlank c = false := by
  simp only [isBlank, isBlankCode, Bool.or_eq_false_iff, Bool.and_eq_false_iff, decide_eq_false_iff_not,
    beq_eq_false_iff_ne]
  omega

theorem IsVisible.not_blank {c : Char} (h : IsVisible c) : isBlank c = false :=
  isBlank_eq_false_of_code h.above (by have := h.below; omega)

/-- What is true of all codes of ASCII is true of each of its characters. -/
theorem forall_ascii {p : Char → Prop} (h : ∀ n < 0x80, p (Char.ofNat n)) {c : Char} (hc : c.toNat < 0x80) : p c := by
  have hp := h c.toNat hc
  rwa [Char.ofNat_toNat] at hp

/-- Letters and digits are visible. -/
theorem IsVisible.of_isAlphanum {c : Char} (h : c.isAlphanum = true) : IsVisible c := by
  have hupper : c.isUpper = true → 0x41 ≤ c.toNat ∧ c.toNat ≤ 0x5A := of_decide_eq_true
  have hlower : c.isLower = true → 0x61 ≤ c.toNat ∧ c.toNat ≤ 0x7A := fun h =>
    ((Bool.and_eq_true _ _).mp h).imp of_decide_eq_true of_decide_eq_true
  have hdigit : c.isDigit = true → 0x30 ≤ c.toNat ∧ c.toNat ≤ 0x39 := fun h =>
    ((Bool.and_eq_true _ _).mp h).imp of_decide_eq_true of_decide_eq_true
  have hcases : (c.isUpper = true ∨ c.isLower = true) ∨ c.isDigit = true :=
    ((Bool.or_eq_true _ _).mp h).imp_left (Bool.or_eq_true _ _).mp
  rcases hcases with (h | h) | h
  · obtain ⟨hlow, hhigh⟩ := hupper h
    constructor <;> omega
  · obtain ⟨hlow, hhigh⟩ := hlower h
    constructor <;> omega
  · obtain ⟨hlow, hhigh⟩ := hdigit h
    constructor <;> omega

/-- Nothing is dropped in front of a text that does not begin with anything to drop. -/
theorem dropWhile_eq_self {α : Type} {p : α → Bool} {s : List α} (h : ∀ c ∈ s.head?, p c = false) :
    s.dropWhile p = s := by
  cases s with
  | nil => rfl
  | cons c s => exact List.dropWhile_cons_of_neg (Bool.eq_false_iff.1 (h c rfl))

/-- A text keeps its ends if they are not to be dropped. -/
theorem dropEnds_eq_self {α : Type} {p : α → Bool} {s : List α} (hhead : ∀ c ∈ s.head?, p c = false)
    (hlast : ∀ c ∈ s.getLast?, p c = false) : ((s.dropWhile p).reverse.dropWhile p).reverse = s := by
  rw [dropWhile_eq_self hhead, dropWhile_eq_self (by rwa [List.head?_reverse]), List.reverse_reverse]

theorem trimmed_eq_self {s : String} (hhead : ∀ c ∈ s.toList.head?, isBlank c = false)
    (hlast : ∀ c ∈ s.toList.getLast?, isBlank c = false) : trimmed s = s := by
  rw [trimmed, trimBlank, dropEnds_eq_self hhead hlast, String.ofList_toList]

theorem trimmed_eq_self_of_visible {s : String} (h : ∀ c ∈ s.toList, IsVisible c) : trimmed s = s :=
  trimmed_eq_self (fun c hc => (h c (List.mem_of_mem_head? hc)).not_blank)
    (fun c hc => (h c (List.mem_of_getLast? hc)).not_blank)

end FacetedSearch
