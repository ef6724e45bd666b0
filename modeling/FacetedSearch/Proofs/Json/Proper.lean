import FacetedSearch.Json.Basic
import FacetedSearch.Proofs.Entries.Lookup

/-!
# Proper JSON values

A value can be written down with a name twice in an object, or with a double that is no number.  A proper value has
neither, at any depth; every value that was read from a text or from settings is proper.

* `Json.Inside`: one value stands inside another one.
* `same_refl`: a proper value equals itself.
* `get?_of_same`: equal proper objects hold equal values under the same names.
-/

namespace FacetedSearch

/-- A finite double equals itself. -/
private theorem float_beq_self {x : Float} (h : x.isFinite = true) : (x == x) = true := by
  show (x.toModel.unpack.compare x.toModel.unpack == some .eq) = true
  have hf : x.toModel.unpack.isFinite = true := h
  cases hx : x.toModel.unpack with
  | notANumber => rw [hx] at hf; cases hf
  | infinity => rw [hx] at hf; cases hf
  | zero => rfl
  | finite sign m e =>
    have hm : compare m m = .eq := Std.ReflCmp.compare_self
    have he : compare e e = .eq := Std.ReflCmp.compare_self
    cases sign with
    | positive =>
      show (some ((compare e e).then (compare m m)) == some .eq) = true
      rw [hm, he]
      rfl
    | negative =>
      show (some ((compare e e).then (compare m m)).swap == some .eq) = true
      rw [hm, he]
      rfl

namespace Json

/-- One value stands inside another one: as an item, as the value of an entry, or deeper. -/
inductive Inside : Json → Json → Prop
  | item {w : Json} {vs : List Json} (h : w ∈ vs) : Inside w (.arr vs)
  | entry {k : String} {w : Json} {es : List (String × Json)} (h : (k, w) ∈ es) : Inside w (.obj es)
  | trans {u w v : Json} (h : Inside u w) (h' : Inside w v) : Inside u v

theorem Inside.sizeOf_lt {w v : Json} (h : w.Inside v) : sizeOf w < sizeOf v := by
  induction h with
  | item h =>
    have := List.sizeOf_lt_of_mem h
    simp only [Json.arr.sizeOf_spec]
    omega
  | entry h =>
    have := List.sizeOf_lt_of_mem h
    simp only [Json.obj.sizeOf_spec, Prod.mk.sizeOf_spec] at this ⊢
    omega
  | trans _ _ ih ih' => omega

theorem Inside.of_get? {es : Entries Json} {k : String} {w : Json} (h : es.get? k = some w) :
    w.Inside (.obj es) :=
  .entry (Entries.mem_of_get? h)

/-- The value itself repeats no name and is no double without a value. -/
def Sound : Json → Prop
  | .num (.real x) => x.isFinite = true
  | .obj es => (Entries.names es).Nodup
  | _ => True

/-- The value and everything inside it is sound. -/
def Proper (v : Json) : Prop := v.Sound ∧ ∀ w : Json, w.Inside v → w.Sound

theorem Proper.inside {w v : Json} (h : v.Proper) (hw : w.Inside v) : w.Proper :=
  ⟨h.2 w hw, fun _ hu => h.2 _ (hu.trans hw)⟩

/-- What stands inside a value is a part of it or stands inside a part. -/
private theorem inside_part {w v : Json} (h : w.Inside v) :
    ∃ u : Json, (∀ vs, v = .arr vs → u ∈ vs) ∧ (∀ es, v = .obj es → ∃ e ∈ es, e.2 = u) ∧
      ((∃ vs, v = .arr vs) ∨ ∃ es, v = .obj es) ∧ (w = u ∨ w.Inside u) := by
  induction h with
  | @item w vs h =>
    refine ⟨w, fun _ heq => ?_, nofun, Or.inl ⟨vs, rfl⟩, Or.inl rfl⟩
    cases heq
    exact h
  | @entry k w es h =>
    refine ⟨w, nofun, fun _ heq => ?_, Or.inr ⟨es, rfl⟩, Or.inl rfl⟩
    cases heq
    exact ⟨(k, w), h, rfl⟩
  | trans h _ _ ih =>
    obtain ⟨u, harr, hobj, hshape, hin⟩ := ih
    refine ⟨u, harr, hobj, hshape, Or.inr ?_⟩
    rcases hin with rfl | hin
    · exact h
    · exact h.trans hin

/-- A value without parts is proper if it is sound. -/
theorem proper_of_sound {v : Json} (h : v.Sound) (harr : ∀ vs, v ≠ .arr vs) (hobj : ∀ es, v ≠ .obj es) :
    v.Proper := by
  refine ⟨h, fun w hw => ?_⟩
  obtain ⟨-, -, -, ⟨vs, heq⟩ | ⟨es, heq⟩, -⟩ := inside_part hw
  · exact absurd heq (harr vs)
  · exact absurd heq (hobj es)

theorem proper_arr {vs : List Json} (h : ∀ v ∈ vs, v.Proper) : (Json.arr vs).Proper := by
  refine ⟨trivial, fun w hw => ?_⟩
  obtain ⟨u, harr, -, -, rfl | hin⟩ := inside_part hw
  · exact (h _ (harr vs rfl)).1
  · exact (h u (harr vs rfl)).2 w hin

theorem proper_obj {es : List (String × Json)} (hnodup : (Entries.names es).Nodup) (h : ∀ e ∈ es, e.2.Proper) :
    (Json.obj es).Proper := by
  refine ⟨hnodup, fun w hw => ?_⟩
  obtain ⟨u, -, hobj, -, hin⟩ := inside_part hw
  obtain ⟨e, he, rfl⟩ := hobj es rfl
  rcases hin with rfl | hin
  · exact (h e he).1
  · exact (h e he).2 w hin

theorem proper_keyed {key : String} {v : Json} (h : v.Proper) : (Json.keyed key v).Proper := by
  refine proper_obj (List.pairwise_singleton ..) fun e he => ?_
  rw [List.mem_singleton.1 he]
  exact h

theorem sameItems_refl {vs : List Json} (h : ∀ v ∈ vs, v.same v = true) : sameItems vs vs = true := by
  induction vs with
  | nil => rfl
  | cons v vs ih =>
    rw [sameItems, h v (by simp), ih fun w hw => h w (by simp [hw])]
    rfl

private theorem sameEntries_of_mem {es fs : List (String × Json)}
    (h : ∀ e ∈ es, ∃ w, Entries.get? fs e.1 = some w ∧ e.2.same w = true) : sameEntries es fs = true := by
  induction es with
  | nil => rfl
  | cons e es ih =>
    obtain ⟨k, v⟩ := e
    obtain ⟨w, hw, hsame⟩ := h (k, v) (by simp)
    simp only at hw hsame
    rw [sameEntries, hw, ih fun e he => h e (by simp [he])]
    simp [hsame]

private theorem mem_of_sameEntries {es fs : List (String × Json)} (h : sameEntries es fs = true) :
    ∀ e ∈ es, ∃ w, Entries.get? fs e.1 = some w ∧ e.2.same w = true := by
  induction es with
  | nil => simp
  | cons e es ih =>
    obtain ⟨k, v⟩ := e
    simp only [sameEntries, Bool.and_eq_true] at h
    intro d hd
    rcases List.mem_cons.1 hd with rfl | hd
    · cases hw : Entries.get? fs k with
      | none => simp [hw] at h
      | some w => exact ⟨w, rfl, by simpa [hw] using h.1⟩
    · exact ih h.2 d hd

/-- A proper value equals itself. -/
theorem same_refl (v : Json) (h : v.Proper) : v.same v = true := by
  match v with
  | .null => rfl
  | .bool b => simp [same]
  | .num (.integer n) => simp [same, JsonNumber.same]
  | .num (.real x) => exact float_beq_self h.1
  | .str s => simp [same]
  | .arr vs =>
    rw [same]
    exact sameItems_refl fun w hw => same_refl w (h.inside (.item hw))
  | .obj es =>
    have hentries : sameEntries es es = true := sameEntries_of_mem fun e he =>
      ⟨e.2, Entries.get?_of_mem h.1 he, same_refl e.2 (h.inside (.entry (k := e.1) he))⟩
    rw [same, hentries]
    simp
termination_by v
decreasing_by
  · exact (Inside.item hw).sizeOf_lt
  · exact (Inside.entry (k := e.1) he).sizeOf_lt

/-- Equal objects, the first without repeated names: the names are the same, and so are the values under them. -/
theorem get?_of_same {es fs : Entries Json} (h : same (.obj es) (.obj fs) = true) (hnd : es.names.Nodup)
    (k : String) :
    (es.get? k = none ∧ fs.get? k = none) ∨
      ∃ v w, es.get? k = some v ∧ fs.get? k = some w ∧ v.same w = true := by
  rw [same, Bool.and_eq_true] at h
  have hfind := mem_of_sameEntries h.2
  cases hk : es.get? k with
  | some v =>
    obtain ⟨w, hw, hsame⟩ := hfind (k, v) (Entries.mem_of_get? hk)
    exact Or.inr ⟨v, w, rfl, hw, hsame⟩
  | none =>
    -- the names of the first object are as many as those of the second and all among them, so there are no others
    refine Or.inl ⟨rfl, Entries.get?_eq_none_iff.2 fun hmem => ?_⟩
    have hsub : k :: es.names ⊆ fs.names := by
      intro n hn
      rcases List.mem_cons.1 hn with rfl | hn
      · exact hmem
      · obtain ⟨e, he, rfl⟩ := List.mem_map.1 hn
        obtain ⟨w, hw, -⟩ := hfind e he
        exact List.mem_map.2 ⟨(e.1, w), Entries.mem_of_get? hw, rfl⟩
    have hle := (List.nodup_cons.2 ⟨Entries.get?_eq_none_iff.1 hk, hnd⟩).length_le_of_subset hsub
    have hlen : es.length = fs.length := by simpa using h.1
    simp only [Entries.names, List.length_cons, List.length_map] at hle
    omega

end Json

end FacetedSearch
