/-!
# Cutting texts

A text is cut at every character of a class; the characters themselves are dropped. There is always one piece more
than there are cuts.

* `length_cutWhere`: the number of pieces.
* `cutWhere_append_cons`: a text falls apart at any cut.
-/

namespace FacetedSearch

/-- Cuts a text at every character of a class. -/
def cutWhere (p : Char → Bool) : List Char → List (List Char)
  | [] => [[]]
  | c :: s =>
    if p c then [] :: cutWhere p s
    else
      match cutWhere p s with
      | [] => [[c]]
      | w :: ws => (c :: w) :: ws

/-- Cuts a text at every occurrence of a character. -/
def cutAt (sep : Char) (s : List Char) : List (List Char) := cutWhere (· == sep) s

theorem length_cutWhere (p : Char → Bool) (s : List Char) : (cutWhere p s).length = s.countP p + 1 := by
  induction s with
  | nil => rfl
  | cons c s ih =>
    cases h : p c with
    | true => simp [cutWhere, h, ih]
    | false => cases hw : cutWhere p s <;> simp_all [cutWhere]

theorem cutWhere_append_cons {p : Char → Bool} {c : Char} (h : p c = true) (s t : List Char) :
    cutWhere p (s ++ c :: t) = cutWhere p s ++ cutWhere p t := by
  induction s with
  | nil =>
    have hcut : cutWhere p (c :: t) = [] :: cutWhere p t := by rw [cutWhere, if_pos h]
    exact hcut
  | cons d s ih =>
    rw [List.cons_append, cutWhere, cutWhere, ih]
    split
    · rfl
    · cases hs : cutWhere p s with
      | nil =>
        have hlen := length_cutWhere p s
        rw [hs] at hlen
        cases hlen
      | cons w ws => rfl

theorem cutWhere_eq_singleton {p : Char → Bool} {s : List Char} (h : ∀ c ∈ s, p c = false) : cutWhere p s = [s] := by
  induction s with
  | nil => rfl
  | cons c s ih =>
    rw [cutWhere, if_neg (Bool.eq_false_iff.1 (h c (List.mem_cons_self ..))),
      ih fun d hd => h d (List.mem_cons_of_mem _ hd)]

end FacetedSearch
