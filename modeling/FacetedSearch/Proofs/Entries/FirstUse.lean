import FacetedSearch.Proofs.Entries.Lookup

/-!
# The order of first use

Names are gathered one after the other, and one that is there already is passed over.  What comes out is the list
without its later repetitions.  Entries are gathered by their names in the same way, so of each name the first entry
stays.

* `gather_eq`: gathering, as an equation.
* `nodup_eraseDups`: nothing is gathered twice.
* `find?_eraseDups`: what comes first comes first among what is gathered.
* `get?_addMissing`, `names_addMissing`: what gathering entries does to look-ups and to the names.
-/

namespace FacetedSearch

/-- The names that are there, and behind them the new ones in the order of first use. -/
def gather (seen new : List String) : List String :=
  new.foldl (fun acc x => if acc.contains x then acc else acc ++ [x]) seen

theorem gather_cons (seen : List String) (x : String) (new : List String) :
    gather seen (x :: new) = gather (if seen.contains x then seen else seen ++ [x]) new := rfl

theorem gather_append (seen new more : List String) : gather seen (new ++ more) = gather (gather seen new) more :=
  List.foldl_append

theorem gather_eq (seen new : List String) : gather seen new = seen ++ (new.removeAll seen).eraseDups := by
  induction new generalizing seen with
  | nil => exact (List.append_nil seen).symm
  | cons x new ih =>
    rw [gather_cons, ih]
    by_cases hmem : x ∈ seen
    · simp [hmem, List.removeAll]
    · have hrest : new.removeAll (seen ++ [x]) = (new.removeAll seen).filter fun y => !y == x := by
        simp only [List.removeAll, List.filter_filter]
        apply List.filter_congr
        intro y _
        by_cases hy : y = x <;> simp [hy]
      have hcons : (x :: new).removeAll seen = x :: new.removeAll seen := by simp [List.removeAll, hmem]
      rw [if_neg (by simpa using hmem), hrest, hcons, List.eraseDups_cons, List.append_assoc]
      rfl

theorem gather_nil (new : List String) : gather [] new = new.eraseDups := by
  rw [gather_eq, List.removeAll_nil, List.nil_append]

theorem nodup_gather {seen : List String} (hseen : seen.Nodup) (new : List String) : (gather seen new).Nodup := by
  induction new generalizing seen with
  | nil => exact hseen
  | cons x new ih =>
    rw [gather_cons]
    apply ih
    split
    · exact hseen
    · rename_i hnew
      refine List.nodup_append.2 ⟨hseen, List.pairwise_singleton .., fun y hy z hz heq => hnew ?_⟩
      rw [← List.mem_singleton.1 hz, ← heq]
      exact List.contains_iff_mem.2 hy

theorem nodup_eraseDups (xs : List String) : xs.eraseDups.Nodup := by
  rw [← gather_nil]
  exact nodup_gather List.nodup_nil xs

theorem find?_gather (p : String → Bool) (seen new : List String) :
    (gather seen new).find? p = (seen.find? p).or (new.find? p) := by
  induction new generalizing seen with
  | nil => exact (Option.or_none ..).symm
  | cons x new ih =>
    rw [gather_cons, ih]
    by_cases hmem : x ∈ seen
    · -- a text that is there already is found there, if it is to be found at all
      rw [if_pos (List.contains_iff_mem.2 hmem)]
      cases hfound : seen.find? p with
      | some y => rfl
      | none => rw [List.find?_cons_of_neg (List.find?_eq_none.1 hfound x hmem)]
    · rw [if_neg (by simpa using hmem), List.find?_append, Option.or_assoc]
      by_cases hx : p x <;> simp [hx]

/-- The first text of a kind is the first one without the repetitions, too. -/
theorem find?_eraseDups (p : String → Bool) (xs : List String) : xs.eraseDups.find? p = xs.find? p := by
  rw [← gather_nil, find?_gather, List.find?_nil, Option.none_or]

namespace Entries

variable {α : Type}

/-- Entries that are there keep their values. -/
theorem get?_addMissing (es new : Entries α) (key : String) :
    (es.addMissing new).get? key = (es.get? key).or (new.get? key) := by
  induction new generalizing es with
  | nil => exact (Option.or_none ..).symm
  | cons e new ih =>
    obtain ⟨n, v⟩ := e
    have hrest := ih (if (es.get? n).isSome then es else es ++ [(n, v)])
    rw [addMissing] at hrest ⊢
    rw [List.foldl_cons, hrest, get?_cons]
    by_cases hkey : key = n
    · rw [if_pos hkey, hkey]
      cases hn : es.get? n with
      | some w => simp [hn]
      | none => simp [hn, get?_append, get?_cons]
    · rw [if_neg hkey]
      split
      · rfl
      · rw [get?_append, get?_cons, if_neg hkey]
        cases es.get? key <;> rfl

theorem names_addMissing (es new : Entries α) : (es.addMissing new).names = gather es.names (names new) := by
  induction new generalizing es with
  | nil => rfl
  | cons e new ih =>
    obtain ⟨n, v⟩ := e
    have hrest := ih (if (es.get? n).isSome then es else es ++ [(n, v)])
    rw [addMissing] at hrest ⊢
    have hnames : names ((n, v) :: new) = n :: names new := rfl
    rw [List.foldl_cons, hrest, hnames, gather_cons]
    congr 1
    by_cases hn : n ∈ es.names
    · rw [if_pos (isSome_get?_iff.2 hn), if_pos (List.contains_iff_mem.2 hn)]
    · rw [if_neg (fun h => hn (isSome_get?_iff.1 h)), if_neg (fun h => hn (List.contains_iff_mem.1 h))]
      exact List.map_append

end Entries

end FacetedSearch
