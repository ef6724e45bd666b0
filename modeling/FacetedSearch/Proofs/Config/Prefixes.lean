import FacetedSearch.Config.Basic

/-!
# The longest prefix of a key

A key may stand under several declared prefixes.  All of them begin the key, so of two such prefixes the shorter one
begins the longer one, and there is only one longest.

* `Config.LongestPrefix`: a declared prefix that a key stands under, and no longer one is.
* `nestedPrefix_eq_some_iff`: this is the prefix that is found.
* `nestedPrefix_eq_none_iff`: none is found when the key stands under none.
* `StandsUnder`: what it means to stand under a prefix, name by name.
* `standsUnder_of_size`: of two prefixes of one key, the longer one stands under the shorter one.
* `nestedPrefix_eq_some_iff_lowest`: the prefix that is found stands under all others that the key stands under.
-/

namespace FacetedSearch

/-- A prefix that a key stands under begins the key. -/
theorem prefix_of_isUnder {key pre : String} (h : isUnder key pre = true) : pre.toList <+: key.toList := by
  rw [isUnder, Bool.or_eq_true, beq_iff_eq, List.isPrefixOf_iff_prefix] at h
  rcases h with rfl | h
  · exact List.prefix_rfl
  · exact (List.prefix_append _ _).trans h

/-- A text and one that it begins have one size only if they are equal. -/
theorem eq_of_prefix_of_size {p q : String} (h : p.toList <+: q.toList) (hsize : q.utf8ByteSize ≤ p.utf8ByteSize) :
    p = q := by
  obtain ⟨rest, hrest⟩ := h
  have hq : q = p ++ String.ofList rest := by
    rw [← String.toList_inj, String.toList_append, String.toList_ofList, hrest]
  rw [hq, String.utf8ByteSize_append] at hsize
  have hempty : (String.ofList rest).utf8ByteSize = 0 := by omega
  rw [hq, String.utf8ByteSize_eq_zero_iff.1 hempty, String.append_empty]

/-- Two prefixes of one key that are equally long are equal. -/
theorem eq_of_isUnder {key p q : String} (hp : isUnder key p = true) (hq : isUnder key q = true)
    (hpq : p.utf8ByteSize = q.utf8ByteSize) : p = q := by
  rcases List.prefix_or_prefix_of_prefix (prefix_of_isUnder hp) (prefix_of_isUnder hq) with h | h
  · exact eq_of_prefix_of_size h (Nat.le_of_eq hpq.symm)
  · exact (eq_of_prefix_of_size h (Nat.le_of_eq hpq)).symm

namespace Config

/-- The longest of the declared prefixes that a key stands under. -/
structure LongestPrefix (c : Config) (key p : String) : Prop where
  declared : p ∈ c.nested
  under : isUnder key p = true
  longest : ∀ q ∈ c.nested, isUnder key q = true → q.utf8ByteSize ≤ p.utf8ByteSize

theorem LongestPrefix.unique {c : Config} {key p q : String} (hp : c.LongestPrefix key p)
    (hq : c.LongestPrefix key q) : p = q :=
  eq_of_isUnder hp.under hq.under
    (Nat.le_antisymm (hq.longest p hp.declared hp.under) (hp.longest q hq.declared hq.under))

private theorem exists_longer (a q : String) :
    ∃ b, longer (some a) q = some b ∧ a.utf8ByteSize ≤ b.utf8ByteSize ∧ q.utf8ByteSize ≤ b.utf8ByteSize := by
  rw [longer]
  split
  · rename_i hlt
    exact ⟨a, rfl, Nat.le_refl _, Nat.le_of_lt hlt⟩
  · rename_i hle
    exact ⟨q, rfl, Nat.le_of_not_lt hle, Nat.le_refl _⟩

/-- Of some texts, a longest one is found. -/
private theorem exists_longest (a : String) (ps : List String) :
    ∃ p, ps.foldl longer (some a) = some p ∧ ∀ q ∈ a :: ps, q.utf8ByteSize ≤ p.utf8ByteSize := by
  induction ps generalizing a with
  | nil => exact ⟨a, rfl, fun q hq => Nat.le_of_eq (by rw [List.mem_singleton.1 hq])⟩
  | cons q ps ih =>
    obtain ⟨b, hb, hab, hqb⟩ := exists_longer a q
    obtain ⟨p, hp, hle⟩ := ih b
    obtain ⟨hbp, hps⟩ := List.forall_mem_cons.1 hle
    rw [List.foldl_cons, hb]
    exact ⟨p, hp, List.forall_mem_cons.2 ⟨Nat.le_trans hab hbp, List.forall_mem_cons.2 ⟨Nat.le_trans hqb hbp, hps⟩⟩⟩

/-- Nothing is found for a key that stands under no prefix, and the longest prefix for any other key. -/
theorem nestedPrefix_cases (c : Config) (key : String) :
    (c.nestedPrefix key = none ∧ ∀ p ∈ c.nested, isUnder key p = false) ∨
      ∃ p, c.nestedPrefix key = some p ∧ c.LongestPrefix key p := by
  cases hps : c.nested.filter (isUnder key) with
  | nil =>
    refine Or.inl ⟨by rw [nestedPrefix, hps]; rfl, fun p hp => ?_⟩
    exact Bool.eq_false_iff.2 (List.filter_eq_nil_iff.1 hps p hp)
  | cons a ps =>
    obtain ⟨p, hp, hle⟩ := exists_longest a ps
    have hfound : c.nestedPrefix key = some p := by
      rw [nestedPrefix, hps]
      exact hp
    obtain ⟨hdeclared, hunder⟩ := mem_of_nestedPrefix hfound
    refine Or.inr ⟨p, hfound, hdeclared, hunder, fun q hq hqunder => hle q ?_⟩
    rw [← hps]
    exact List.mem_filter.2 ⟨hq, hqunder⟩

theorem nestedPrefix_eq_some_iff {c : Config} {key p : String} :
    c.nestedPrefix key = some p ↔ c.LongestPrefix key p := by
  rcases c.nestedPrefix_cases key with ⟨hnone, hfree⟩ | ⟨q, hfound, hq⟩
  · rw [hnone]
    exact iff_of_false nofun fun h => Bool.eq_false_iff.1 (hfree p h.declared) h.under
  · rw [hfound, Option.some.injEq]
    exact ⟨fun h => h ▸ hq, fun h => hq.unique h⟩

theorem nestedPrefix_eq_none_iff {c : Config} {key : String} :
    c.nestedPrefix key = none ↔ ∀ p ∈ c.nested, isUnder key p = false := by
  rcases c.nestedPrefix_cases key with ⟨hnone, hfree⟩ | ⟨q, hfound, hq⟩
  · exact iff_of_true hnone hfree
  · rw [hfound]
    exact iff_of_false nofun fun h => Bool.eq_false_iff.1 (h q hq.declared) hq.under

end Config

/-! ### Name by name -/

/-- A key is a prefix, or goes on with a point after it. -/
def StandsUnder (key pre : String) : Prop := key = pre ∨ ∃ rest, key = pre ++ "." ++ rest

private theorem standsUnder_iff_toList {key pre : String} :
    StandsUnder key pre ↔ key = pre ∨ ∃ rest, key.toList = pre.toList ++ '.' :: rest := by
  refine or_congr_right ⟨?_, ?_⟩
  · rintro ⟨rest, rfl⟩
    exact ⟨rest.toList, by simp⟩
  · rintro ⟨rest, hrest⟩
    exact ⟨String.ofList rest, by rw [← String.toList_inj, hrest]; simp⟩

theorem isUnder_iff {key pre : String} : isUnder key pre = true ↔ StandsUnder key pre := by
  rw [isUnder, Bool.or_eq_true, beq_iff_eq, List.isPrefixOf_iff_prefix, standsUnder_iff_toList]
  refine or_congr_right (exists_congr fun rest => ?_)
  rw [List.append_assoc, eq_comm]
  rfl

theorem StandsUnder.size_le {key pre : String} (h : StandsUnder key pre) : pre.utf8ByteSize ≤ key.utf8ByteSize := by
  rcases h with rfl | ⟨rest, rfl⟩
  · exact Nat.le_refl _
  · rw [String.utf8ByteSize_append, String.utf8ByteSize_append]
    omega

/-- Of two prefixes that a key stands under, the longer one stands under the shorter one. -/
theorem standsUnder_of_size {key p q : String} (hp : StandsUnder key p) (hq : StandsUnder key q)
    (hsize : q.utf8ByteSize ≤ p.utf8ByteSize) : StandsUnder p q := by
  have hpkey := prefix_of_isUnder (isUnder_iff.2 hp)
  have hqp : q.toList <+: p.toList := by
    rcases List.prefix_or_prefix_of_prefix hpkey (prefix_of_isUnder (isUnder_iff.2 hq)) with h | h
    · obtain rfl := eq_of_prefix_of_size h hsize
      exact h
    · exact h
  obtain ⟨t, ht⟩ := hqp
  obtain ⟨u, hu⟩ := hpkey
  cases t with
  | nil => exact Or.inl (String.toList_inj.1 (by rw [← ht, List.append_nil]))
  | cons d t =>
    -- the first character that `p` has after `q` is the one that the key has there
    rw [← ht, List.append_assoc, List.cons_append] at hu
    rcases standsUnder_iff_toList.1 hq with rfl | ⟨rest, hrest⟩
    · exact absurd (congrArg List.length hu) (by simp)
    · rw [hrest] at hu
      have hd : d = '.' := (List.cons.inj (List.append_cancel_left hu)).1
      exact standsUnder_iff_toList.2 (Or.inr ⟨t, by rw [← ht, hd]⟩)

namespace Config

/-- The prefix that is found is the declared one that stands under all others that the key stands under. -/
theorem nestedPrefix_eq_some_iff_lowest {c : Config} {key p : String} :
    c.nestedPrefix key = some p ↔
      p ∈ c.nested ∧ StandsUnder key p ∧ ∀ q ∈ c.nested, StandsUnder key q → StandsUnder p q := by
  rw [nestedPrefix_eq_some_iff]
  constructor
  · intro h
    have hp : StandsUnder key p := isUnder_iff.1 h.under
    exact ⟨h.declared, hp, fun q hq hunder => standsUnder_of_size hp hunder (h.longest q hq (isUnder_iff.2 hunder))⟩
  · rintro ⟨hdeclared, hunder, hlowest⟩
    exact ⟨hdeclared, isUnder_iff.2 hunder, fun q hq h => (hlowest q hq (isUnder_iff.1 h)).size_le⟩

end Config

end FacetedSearch
