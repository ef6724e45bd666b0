import FacetedSearch.Entries

/-!
# Looking up entries

What is found under a name is an entry of that name, the only one if no name is repeated.  Putting a value changes it in
place or adds it at the end, so names stay distinct.

* `mem_of_get?`, `get?_of_mem`: look-ups and membership.
* `get?_eq_none_iff`, `isSome_get?_iff`: look-ups and names.
* `get?_append`: looking up in two lists of entries.
* `nodup_names_put`, `mem_of_mem_put`, `put_new`: what putting a value does.
* `put_of_get?`: putting the value that stands there.
* `get?_last`, `put_last`: the last entry.
* `foldl_put`: what putting several values does.
-/

namespace FacetedSearch

namespace Entries

variable {α : Type}

theorem get?_nil (k : String) : get? ([] : Entries α) k = none := rfl

theorem mem_of_get? {es : Entries α} {k : String} {v : α} (h : es.get? k = some v) :
    (k, v) ∈ es := by
  induction es with
  | nil => cases h
  | cons e es ih =>
    obtain ⟨n, w⟩ := e
    rw [get?_cons] at h
    split at h
    · rename_i hk
      cases h
      simp [hk]
    · exact List.mem_cons_of_mem _ (ih h)

theorem get?_of_mem {es : Entries α} {k : String} {v : α} (hnd : es.names.Nodup)
    (h : (k, v) ∈ es) : es.get? k = some v := by
  induction es with
  | nil => cases h
  | cons e es ih =>
    obtain ⟨n, w⟩ := e
    simp only [names, List.map_cons, List.nodup_cons] at hnd
    rw [get?_cons]
    rcases List.mem_cons.1 h with heq | htail
    · cases heq
      simp
    · have hne : k ≠ n := by
        intro hk
        rw [hk] at htail
        exact hnd.1 (List.mem_map.2 ⟨(n, v), htail, rfl⟩)
      rw [if_neg hne]
      exact ih hnd.2 htail

theorem get?_eq_none_iff {es : Entries α} {k : String} :
    es.get? k = none ↔ k ∉ es.names := by
  induction es with
  | nil => simp [Entries.get?, names]
  | cons e es ih =>
    obtain ⟨n, w⟩ := e
    rw [get?_cons]
    simp only [names, List.map_cons, List.mem_cons, not_or] at ih ⊢
    split
    · rename_i hk
      simp [hk]
    · rename_i hk
      simp [hk, ih]

theorem isSome_get?_iff {es : Entries α} {k : String} : (es.get? k).isSome = true ↔ k ∈ es.names := by
  rw [← Option.ne_none_iff_isSome, ne_eq, get?_eq_none_iff, Classical.not_not]

theorem get?_append (es fs : Entries α) (key : String) :
    get? (es ++ fs) key = (es.get? key).or (fs.get? key) := by
  induction es with
  | nil => rfl
  | cons e es ih =>
    obtain ⟨n, v⟩ := e
    rw [List.cons_append, get?_cons, get?_cons, ih]
    split <;> rfl

theorem nodup_names_put {es : Entries α} (h : es.names.Nodup) (key : String) (v : α) :
    (es.put key v).names.Nodup := by
  rw [names_put]
  split
  · exact h
  · rename_i hnew
    refine List.nodup_append.2 ⟨h, List.pairwise_singleton .., fun a ha b hb hab => hnew ?_⟩
    rwa [← List.mem_singleton.1 hb, ← hab]

theorem mem_of_mem_put {es : Entries α} {key : String} {v : α} {e : String × α}
    (h : e ∈ es.put key v) : e ∈ es ∨ e.2 = v := by
  induction es with
  | nil => exact Or.inr (by rw [List.mem_singleton.1 h])
  | cons d es ih =>
    obtain ⟨n, w⟩ := d
    rw [put] at h
    split at h
    · rcases List.mem_cons.1 h with rfl | h
      · exact Or.inr rfl
      · exact Or.inl (List.mem_cons_of_mem _ h)
    · rcases List.mem_cons.1 h with rfl | h
      · exact Or.inl (List.mem_cons_self ..)
      · exact (ih h).imp_left (List.mem_cons_of_mem _)

theorem put_new {es : Entries α} {name : String} (h : name ∉ es.names) (v : α) :
    es.put name v = es ++ [(name, v)] := by
  induction es with
  | nil => rfl
  | cons e es ih =>
    obtain ⟨n, w⟩ := e
    rw [names, List.map_cons, List.mem_cons, not_or] at h
    rw [put, if_neg (Ne.symm h.1), ih h.2]
    rfl

theorem put_of_get? {es : Entries α} {name : String} {v : α} (h : es.get? name = some v) : es.put name v = es := by
  induction es with
  | nil => cases h
  | cons e es ih =>
    obtain ⟨n, w⟩ := e
    rw [get?_cons] at h
    rw [put]
    by_cases hn : n = name
    · rw [if_pos hn.symm] at h
      rw [if_pos hn, Option.some.inj h]
    · rw [if_neg (Ne.symm hn)] at h
      rw [if_neg hn, ih h]

theorem get?_last {es : Entries α} {name : String} (h : name ∉ es.names) (v : α) :
    get? (es ++ [(name, v)]) name = some v := by
  rw [get?_append, get?_eq_none_iff.2 h, Option.none_or, get?_cons, if_pos rfl]

theorem put_last {es : Entries α} {name : String} (h : name ∉ es.names) (v w : α) :
    put (es ++ [(name, v)]) name w = es ++ [(name, w)] := by
  induction es with
  | nil => rw [List.nil_append, put, if_pos rfl, List.nil_append]
  | cons e es ih =>
    rw [names, List.map_cons, List.mem_cons, not_or] at h
    rw [List.cons_append, put, if_neg (Ne.symm h.1), ih h.2]
    rfl

/-- Putting entries of new and distinct names one after the other adds them in their order. -/
theorem foldl_put (acc es : Entries α) (h : (acc.names ++ es.names).Nodup) :
    es.foldl (fun acc (k, v) => put acc k v) acc = acc ++ es := by
  induction es generalizing acc with
  | nil => exact (List.append_nil acc).symm
  | cons e es ih =>
    obtain ⟨k, v⟩ := e
    have hnew : k ∉ acc.names := fun hmem => (List.nodup_append.1 h).2.2 _ hmem _ (List.mem_cons_self ..) rfl
    rw [List.foldl_cons]
    show es.foldl _ (put acc k v) = _
    rw [put_new hnew, ih, List.append_assoc]
    · rfl
    · rw [names, List.map_append, List.append_assoc]
      exact h

end Entries

end FacetedSearch
