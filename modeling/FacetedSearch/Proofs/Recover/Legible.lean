import FacetedSearch.Document
import FacetedSearch.Proofs.Clause.Reread
import FacetedSearch.Proofs.Json.Legible
import FacetedSearch.Proofs.Text.Reading

/-!
# Legible documents

A document that was read from a legible value is written as a legible value: the names of its entries are distinct, its
page numbers are words, and everything else was written by hand or stands in the value that was read.

* `Clause.legible_ofJson`: the query.
* `Document.Legible`: all parts; `legible_of_read`.
* `Document.Legible.toShared`: the document as links carry it.
-/

namespace FacetedSearch

/-! ### Clauses -/

namespace Clause

theorem legible_armEntries {m s : List Json} (hm : ∀ v ∈ m, v.Legible) (hs : ∀ v ∈ s, v.Legible) :
    (Json.obj (armEntry "must" m ++ armEntry "should" s)).Legible := by
  have harm : ∀ {key vs}, (∀ v ∈ vs, Json.Legible v) → ∀ e ∈ armEntry key vs, e.2.Legible := by
    intro key vs hvs e he
    cases vs with
    | nil => cases he
    | cons v vs =>
      rw [List.mem_singleton.1 he]
      exact .arr hvs
  refine .obj ?_ fun e he => (List.mem_append.1 he).elim (harm hm e) (harm hs e)
  cases m <;> cases s <;> simp [armEntry, Entries.names]

theorem legible_textEntries (q : TextQuery) : (Json.obj q.entries).Legible := by
  obtain ⟨text, field, operator⟩ := q
  cases field <;> cases operator <;> simp [TextQuery.entries, Entries.names]

/-- A clause is written as a legible value if its members are. -/
theorem legible_toJson {q : Clause} (hraw : ∀ u, q = .raw u → u.Legible) (h : ∀ m ∈ q.members, m.toJson.Legible) :
    q.toJson.Legible := by
  have hlist : ∀ {cs : List Clause}, (∀ m ∈ cs, m.toJson.Legible) → ∀ v ∈ toJsonList cs, v.Legible := by
    intro cs hcs v hv
    rw [toJsonList_eq_map] at hv
    obtain ⟨m, hm, rfl⟩ := List.mem_map.1 hv
    exact hcs m hm
  cases q with
  | matchAll | term | missing | range => simp [toJson, Entries.names]
  | text q => exact Json.legible_keyed_iff.2 (legible_textEntries q)
  | bool m s =>
    exact Json.legible_keyed_iff.2 (legible_armEntries (hlist fun q hq => h q (List.mem_append_left _ hq))
      (hlist fun q hq => h q (List.mem_append_right _ hq)))
  | and cs => exact Json.legible_keyed_iff.2 (.arr (hlist h))
  | nested p q => simpa [toJson, Entries.names, members] using h
  | filtered q f => simpa [toJson, Entries.names, members] using h
  | raw v => exact hraw v rfl

theorem Plain.legible_toJson {q : Clause} (h : q.Plain) : q.toJson.Legible := by
  refine Clause.legible_toJson (fun u hu => ?_) fun m hm => ?_
  · rw [hu] at h
    exact h.elim
  · cases q with
    | bool | and | nested | filtered | raw => exact h.elim
    | _ => cases hm

/-- A clause that was read from a legible value is written as one. -/
theorem legible_ofJson (v : Json) (hv : v.Legible) : (ofJson v).toJson.Legible := by
  rcases form_ofJson v with hkept | hform
  · rw [hkept]
    exact hv
  · generalize hq : ofJson v = q at hform
    cases hform with
    | part hw => exact legible_ofJson _ (hv.inside hw)
    | built hraw hmem =>
      refine legible_toJson (fun u hu => absurd hu (hraw u)) fun m hm => ?_
      rcases hmem m hm with hplain | ⟨w, hw, rfl⟩
      · exact hplain.legible_toJson
      · exact legible_ofJson w (hv.inside hw)
termination_by v
decreasing_by all_goals exact hw.sizeOf_lt

end Clause

/-! ### Documents -/

theorem appendDigits_lt {ds : List Char} {m n : Nat} (hm : m < wordLimit) (h : appendDigits m ds = .ok n) :
    n < wordLimit := by
  induction ds generalizing m with
  | nil =>
    cases h
    exact hm
  | cons c ds ih =>
    rw [appendDigits] at h
    split at h
    · cases h
    · dsimp only at h
      split at h
      · exact ih ‹_› h
      · cases h

/-- A number that is read from a text is a word. -/
theorem word?_lt {s : String} {n : Nat} (h : word? s = some n) : n < wordLimit := by
  have hzero : 0 < wordLimit := by decide
  have hread := eq_ok_of_toOption h
  rw [readWord] at hread
  split at hread
  · cases hread
  · cases hread
  · exact appendDigits_lt hzero hread
  · exact appendDigits_lt hzero hread

namespace Document

/-- A page number is a word, or was written as a number in the value. -/
theorem legible_readNumber {v : Json} {n : Nat} (hv : v.Legible) (h : readNumber v = some n) :
    (Json.ofNat n).Legible := by
  cases v with
  | str s =>
    have hn := word?_lt h
    exact .num (JsonNumber.legible_integer (by omega) (by omega))
  | num m =>
    cases m with
    | integer k =>
      simp only [readNumber, Json.nat?, Option.ite_none_right_eq_some, Option.some.injEq] at h
      obtain ⟨hk, rfl⟩ := h
      rwa [Json.ofNat, Int.toNat_of_nonneg hk]
    | real x => cases h
  | _ => cases h

theorem legible_readSort {v : Option Json} (hv : ∀ w, v = some w → w.Legible) : ∀ w ∈ readSort v, w.Legible := by
  intro w hw
  rw [readSort.eq_def] at hw
  split at hw
  · exact Json.legible_arr_iff.1 (hv _ rfl) w hw
  · cases hw
  · cases hw
  · rw [List.mem_singleton.1 hw]
    exact hv _ rfl

/-- The entries of a document stand in a fixed order, and some may be left out. -/
theorem names_baseEntries_sublist (d : Document) : (Entries.names d.baseEntries).Sublist
    ["query", "from", "size", "sort", "fields", "partial_fields"] := by
  obtain ⟨query, offset, size, sort, fields, partialFields, facets⟩ := d
  have hnumber : ∀ key n, (Entries.names (numberEntry key n)).Sublist [key] := fun key n => by
    cases n <;> simp [numberEntry, Entries.names]
  have hsort : (Entries.names (sortEntry sort)).Sublist ["sort"] := by
    cases sort <;> simp [sortEntry, Entries.names]
  have hfields : (Entries.names (fieldsEntry fields)).Sublist ["fields"] := by
    cases fields <;> simp [fieldsEntry, Entries.names]
  have hpartial : (Entries.names (partialEntry partialFields)).Sublist ["partial_fields"] := by
    cases partialFields <;> simp [partialEntry, Entries.names]
  simp only [Entries.names] at *
  simp only [baseEntries, List.map_append, List.map_cons]
  exact ((((hnumber "from" offset).cons_cons "query").append (hnumber "size" size)).append hsort).append hfields
    |>.append hpartial

/-- Each part of the document is written as a legible value. -/
structure Legible (d : Document) : Prop where
  query : d.query.toJson.Legible
  offset : ∀ n, d.offset = some n → (Json.ofNat n).Legible
  size : ∀ n, d.size = some n → (Json.ofNat n).Legible
  sort : ∀ v ∈ d.sort, v.Legible
  partialFields : ∀ v, d.partialFields = some v → v.Legible
  facets : (Json.obj d.facets).Legible

/-- The parts of a document that was read from a legible value stand in it. -/
theorem legible_of_read {v : Json} {d : Document} (hread : ofJson v = .ok d) (hv : v.Legible) : d.Legible := by
  cases v with
  | obj es =>
    cases hread
    have hget : ∀ {key : String} {w : Json}, Entries.get? es key = some w → w.Legible := fun h =>
      hv.inside (.of_get? h)
    have hnumber : ∀ key n, (Entries.get? es key).bind readNumber = some n → (Json.ofNat n).Legible := by
      intro key n h
      obtain ⟨w, hw, hn⟩ := Option.bind_eq_some_iff.1 h
      exact legible_readNumber (hget hw) hn
    refine ⟨?_, hnumber "from", hnumber "size", legible_readSort fun _ => hget, fun _ => hget, ?_⟩
    · rw [ofEntries]
      cases h : Entries.get? es "query" with
      | none => simp [Clause.toJson, Entries.names]
      | some w => exact Clause.legible_ofJson w (hget h)
    · rw [ofEntries]
      cases h : (Entries.get? es "facets").bind Json.entries? with
      | none => simp [Entries.names]
      | some fs =>
        obtain ⟨w, hw, hfs⟩ := Option.bind_eq_some_iff.1 h
        cases w with
        | obj gs =>
          cases hfs
          exact hget hw
        | _ => cases hfs
  | _ => cases hread

theorem Legible.baseEntries {d : Document} (h : d.Legible) : ∀ e ∈ d.baseEntries, e.2.Legible := by
  obtain ⟨query, offset, size, sort, fields, partialFields, facets⟩ := d
  have hnumber : ∀ key n, (∀ m, n = some m → (Json.ofNat m).Legible) → ∀ e ∈ numberEntry key n, e.2.Legible := by
    intro key n hn
    cases n with
    | none => nofun
    | some m => simpa [numberEntry] using hn
  have hsort : ∀ e ∈ sortEntry sort, e.2.Legible := by
    cases sort with
    | nil => nofun
    | cons v vs => simpa [sortEntry] using h.sort
  have hfields : ∀ e ∈ fieldsEntry fields, e.2.Legible := by
    cases fields with
    | none => nofun
    | some fs => simp [fieldsEntry, Json.ofStrings]
  have hpartial : ∀ e ∈ partialEntry partialFields, e.2.Legible := by
    cases partialFields with
    | none => nofun
    | some v => simpa [partialEntry] using h.partialFields
  simp only [Document.baseEntries, List.forall_mem_append, List.forall_mem_cons]
  exact ⟨⟨⟨⟨⟨h.query, hnumber "from" _ h.offset⟩, hnumber "size" _ h.size⟩, hsort⟩, hfields⟩, hpartial⟩

/-- Such a document travels as a legible value, with its facet requests or without. -/
theorem Legible.toShared {d : Document} (h : d.Legible) (withFacets : Bool) : (d.toShared withFacets).Legible := by
  have hnames := names_baseEntries_sublist d
  rw [Document.toShared]
  cases withFacets with
  | false => exact .obj (hnames.nodup (by decide)) h.baseEntries
  | true =>
    refine .obj ?_ (List.forall_mem_append.2 ⟨h.baseEntries, List.forall_mem_singleton.2 h.facets⟩)
    rw [Entries.names, List.map_append]
    exact (hnames.append (List.Sublist.refl ["facets"])).nodup (by decide)

end Document

end FacetedSearch
