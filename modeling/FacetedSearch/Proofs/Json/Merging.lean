import FacetedSearch.Compile
import FacetedSearch.Proofs.Json.Proper

/-!
# Merging objects

Entries are merged into others name by name: a name that is there already keeps its place, and a new one goes to the
end.  Objects under one name are merged in the same way, and any other value is replaced.

* `names_mergeInto`: the names of merged entries, in order.
* `get?_mergeInto`: the value of each name.
* `Json.reaches`: the paths that merging in a value touches.
* `valueAt?_deepMerge`: the value at each path of a merged value.
* `deepMerge_deepMerge`: merging once more changes nothing.
* `deepMerge_overrides_named`: what is named is overridden, and nothing else is.
-/

namespace FacetedSearch

namespace Json

/-- A value under a name, merged into what stands there. -/
def mergedOver (old : Option Json) (v : Json) : Json :=
  match old with
  | some w => w.deepMerge v
  | none => v

theorem mergeInto_cons (es fs : Entries Json) (k : String) (v : Json) :
    mergeInto es ((k, v) :: fs) = mergeInto (Entries.put es k (mergedOver (Entries.get? es k) v)) fs := by
  rw [mergeInto]
  rfl

/-- The names that are there keep their order, and the new ones follow in theirs. -/
theorem names_mergeInto {es fs : Entries Json} (hnodup : fs.names.Nodup) :
    Entries.names (mergeInto es fs) = es.names ++ fs.names.filter fun name => name ∉ es.names := by
  induction fs generalizing es with
  | nil => exact (List.append_nil _).symm
  | cons e fs ih =>
    obtain ⟨k, v⟩ := e
    obtain ⟨hk, hnodup⟩ := List.nodup_cons.1 hnodup
    have hnames : Entries.names ((k, v) :: fs) = k :: Entries.names fs := rfl
    rw [mergeInto_cons, ih hnodup, Entries.names_put, hnames, List.filter_cons]
    by_cases hmem : k ∈ es.names
    · simp [hmem]
    · -- the new name is none of the later ones
      have hlater : (Entries.names fs).filter (fun name => name ∉ es.names ++ [k]) =
          (Entries.names fs).filter fun name => name ∉ es.names := by
        apply List.filter_congr
        intro name hname
        have hne : name ≠ k := by
          rintro rfl
          exact hk hname
        simp [hne]
      rw [if_neg hmem, hlater]
      simp [hmem]

/-- A name that is merged in has its value merged into the old one, and all other names keep their values. -/
theorem get?_mergeInto {es fs : Entries Json} (hnodup : fs.names.Nodup) (name : String) :
    Entries.get? (mergeInto es fs) name =
      match fs.get? name with
      | some v => some (mergedOver (es.get? name) v)
      | none => es.get? name := by
  induction fs generalizing es with
  | nil => rfl
  | cons e fs ih =>
    obtain ⟨k, v⟩ := e
    obtain ⟨hk, hnodup⟩ := List.nodup_cons.1 hnodup
    rw [mergeInto_cons, ih hnodup, Entries.get?_cons, Entries.get?_put]
    by_cases hname : name = k
    · subst hname
      have hnone : Entries.get? fs name = none := Entries.get?_eq_none_iff.2 hk
      simp [hnone]
    · simp only [hname, if_false]

/-! ### Values -/

theorem eq_obj_of_entries? {v : Json} {es : Entries Json} (h : v.entries? = some es) : v = .obj es := by
  cases v with
  | obj fs => exact congrArg Json.obj (Option.some.inj h)
  | _ => cases h

theorem get?_of_entries? {v : Json} (h : v.entries? = none) (name : String) : v.get? name = none := by
  cases v with
  | obj es => cases h
  | _ => rfl

/-- A value replaces another one unless both are objects. -/
theorem deepMerge_eq_right {t s : Json} (h : t.entries? = none ∨ s.entries? = none) : t.deepMerge s = s := by
  rw [deepMerge.eq_def]
  split
  · rcases h with h | h <;> cases h
  · rfl

theorem mergedOver_eq (old : Option Json) (v : Json) : mergedOver old v = (old.getD .null).deepMerge v := by
  cases old with
  | some w => rfl
  | none => exact (deepMerge_eq_right (Or.inl rfl)).symm

theorem exists_deepMerge_obj (t : Json) (fs : Entries Json) :
    ∃ ms : Entries Json, t.deepMerge (.obj fs) = .obj ms := by
  cases ht : t.entries? with
  | some es => exact ⟨mergeInto es fs, by rw [eq_obj_of_entries? ht, deepMerge]⟩
  | none => exact ⟨fs, deepMerge_eq_right (Or.inl ht)⟩

/-- What stands under a name after an object was merged in, be it into an object or into anything else. -/
theorem get?_deepMerge {fs : Entries Json} (hnodup : fs.names.Nodup) (t : Json) (name : String) :
    (t.deepMerge (.obj fs)).get? name =
      match fs.get? name with
      | some w => some (mergedOver (t.get? name) w)
      | none => t.get? name := by
  cases ht : t.entries? with
  | some es =>
    rw [eq_obj_of_entries? ht, deepMerge]
    exact get?_mergeInto hnodup name
  | none =>
    rw [deepMerge_eq_right (Or.inl ht), get?_of_entries? ht, get?]
    cases fs.get? name <;> rfl

/-! ### Values at a path -/

/-- The value at a path of names. -/
def valueAt? : Json → List String → Option Json
  | v, [] => some v
  | v, name :: path => (v.get? name).bind fun w => w.valueAt? path

/-- Whether merging in a value touches a path: it has something there or, on the way, something that is no object and
so replaces all that stood below.  Only an object misses a path, namely when it lacks the next name. -/
def reaches : Json → List String → Bool
  | .obj es, name :: path =>
    match Entries.get? es name with
    | some v => v.reaches path
    | none => false
  | _, _ => true

theorem valueAt?_obj_cons (es : Entries Json) (name : String) (path : List String) :
    (Json.obj es).valueAt? (name :: path) = (es.get? name).bind fun w => w.valueAt? path := rfl

theorem reaches_of_valueAt? {s w : Json} {path : List String} (h : s.valueAt? path = some w) :
    s.reaches path = true := by
  induction path generalizing s with
  | nil => cases s <;> rfl
  | cons name path ih =>
    cases s with
    | obj es =>
      rw [valueAt?_obj_cons] at h
      obtain ⟨v, hv, hw⟩ := Option.bind_eq_some_iff.1 h
      rw [reaches, hv]
      exact ih hw
    | _ => rfl

theorem reaches_of_entries? {s : Json} (h : s.entries? = none) (path : List String) : s.reaches path = true := by
  cases s with
  | obj es => cases h
  | _ => cases path <;> rfl

/-- At a path that the value merged in reaches stands what it has there, merged over the old value; at any other path
stands the old value. -/
theorem valueAt?_deepMerge (t : Json) {s : Json} (hs : s.Proper) (path : List String) :
    (t.deepMerge s).valueAt? path =
      if s.reaches path then (s.valueAt? path).map (mergedOver (t.valueAt? path)) else t.valueAt? path := by
  induction path generalizing t s with
  | nil =>
    rw [reaches_of_valueAt? (s := s) rfl]
    rfl
  | cons name path ih =>
    cases hfs : s.entries? with
    | none =>
      -- the value takes the place of all of the old one
      rw [deepMerge_eq_right (Or.inr hfs), reaches_of_entries? hfs, valueAt?, get?_of_entries? hfs]
      rfl
    | some fs =>
      obtain rfl := eq_obj_of_entries? hfs
      rw [valueAt?, get?_deepMerge hs.1, reaches, valueAt?_obj_cons, valueAt?]
      cases hw : fs.get? name with
      | none => rfl
      | some w =>
        cases t.get? name with
        | some v => exact ih v (hs.inside (.of_get? hw))
        | none =>
          -- nothing stood there, so the path leads on in the value itself
          show w.valueAt? path = if w.reaches path then (w.valueAt? path).map (mergedOver none) else none
          cases hu : w.valueAt? path with
          | some u =>
            rw [reaches_of_valueAt? hu]
            rfl
          | none => split <;> rfl

/-! ### Merging again -/

theorem mergeInto_eq_self {es fs : Entries Json}
    (h : ∀ e ∈ fs, ∃ w, es.get? e.1 = some w ∧ w.deepMerge e.2 = w) : mergeInto es fs = es := by
  induction fs with
  | nil => rfl
  | cons e fs ih =>
    obtain ⟨w, hw, hkept⟩ := h e (List.mem_cons_self ..)
    have hput : Entries.put es e.1 (mergedOver (es.get? e.1) e.2) = es := by
      rw [hw, mergedOver, hkept]
      exact Entries.put_of_get? hw
    rw [mergeInto_cons, hput]
    exact ih fun e he => h e (List.mem_cons_of_mem _ he)

/-- Merging the same value in once more changes nothing. -/
theorem deepMerge_deepMerge (t : Json) {s : Json} (hs : s.Proper) : (t.deepMerge s).deepMerge s = t.deepMerge s := by
  match s with
  | .obj fs =>
    -- where nothing stood under a name, its value was taken over, which is the same as merging it into null
    have hkept : ∀ e ∈ fs, ∀ old, (mergedOver old e.2).deepMerge e.2 = mergedOver old e.2 := by
      intro e he old
      rw [mergedOver_eq]
      exact deepMerge_deepMerge _ (hs.inside (.entry (k := e.1) he))
    obtain ⟨ms, hms⟩ := exists_deepMerge_obj t fs
    have hget := get?_deepMerge hs.1 t
    rw [hms] at hget
    rw [hms, deepMerge]
    refine congrArg Json.obj (mergeInto_eq_self fun e he => ⟨_, ?_, hkept e he (t.get? e.1)⟩)
    have hfound := hget e.1
    rwa [Entries.get?_of_mem hs.1 he] at hfound
  | .null | .bool _ | .num _ | .str _ | .arr _ =>
    exact (deepMerge_eq_right (Or.inr rfl)).trans (deepMerge_eq_right (Or.inr rfl)).symm
termination_by s
decreasing_by exact (Inside.entry (k := e.1) he).sizeOf_lt

/-- Merging overrides exactly what is named.  A value that is merged in replaces the old one unless both are objects.
Then the names of the old object stay in their order and the new ones follow in theirs; what both have under a name is
merged in the same way, and what only one has under a name is taken from there.  Hence a path that the value merged in
does not reach keeps what it had, all that is no object in that value is found in the result at its path, and merging it
in a second time changes nothing. -/
theorem deepMerge_overrides_named (t : Json) {s : Json} (hs : s.Proper) :
    (t.entries? = none ∨ s.entries? = none → t.deepMerge s = s) ∧
      (∀ es fs : Entries Json, t = .obj es → s = .obj fs →
        ∃ ms : Entries Json, t.deepMerge s = .obj ms ∧
          ms.names = es.names ++ fs.names.filter (fun name => name ∉ es.names) ∧
          ∀ name,
            (∀ v w, es.get? name = some v → fs.get? name = some w → ms.get? name = some (v.deepMerge w)) ∧
            (fs.get? name = none → ms.get? name = es.get? name) ∧
            (es.get? name = none → ms.get? name = fs.get? name)) ∧
      (∀ path, s.reaches path = false → (t.deepMerge s).valueAt? path = t.valueAt? path) ∧
      (∀ path w, s.valueAt? path = some w → w.entries? = none → (t.deepMerge s).valueAt? path = some w) ∧
      (t.deepMerge s).deepMerge s = t.deepMerge s := by
  refine ⟨deepMerge_eq_right, ?_, fun path hmissed => ?_, fun path w hw hplain => ?_, deepMerge_deepMerge t hs⟩
  · rintro es fs rfl rfl
    have hnodup : fs.names.Nodup := hs.1
    refine ⟨mergeInto es fs, by rw [deepMerge], names_mergeInto hnodup, fun name => ?_⟩
    rw [get?_mergeInto hnodup]
    refine ⟨fun v w hv hw => ?_, fun hnone => ?_, fun hnone => ?_⟩
    · rw [hw, hv]
      rfl
    · rw [hnone]
    · rw [hnone]
      cases fs.get? name <;> rfl
  · rw [valueAt?_deepMerge t hs, hmissed]
    rfl
  · rw [valueAt?_deepMerge t hs, reaches_of_valueAt? hw, hw, if_pos rfl, Option.map_some, mergedOver_eq,
      deepMerge_eq_right (Or.inr hplain)]

/-- An extra request for the years asks for more of them and gives the nested path as an object: the field stays, both
settings are overridden, and the new one comes last. -/
theorem year_request_overridden :
    let own : Json := .obj [("terms", .obj [("field", .str "year"), ("size", .ofNat 5)]), ("nested", .str "stats")]
    let extra : Json := .obj
      [("missing", .null), ("nested", .obj [("path", .str "stats")]), ("terms", .obj [("size", .ofNat 50)])]
    extra.Proper ∧
      own.deepMerge extra = .obj
        [("terms", .obj [("field", .str "year"), ("size", .ofNat 50)]), ("nested", .obj [("path", .str "stats")]),
          ("missing", .null)] ∧
      extra.reaches ["terms", "field"] = false ∧
      (own.deepMerge extra).valueAt? ["terms", "field"] = some (.str "year") ∧
      (own.deepMerge extra).valueAt? ["nested", "path"] = some (.str "stats") ∧
      (own.deepMerge extra).valueAt? ["terms", "size"] = some (.ofNat 50) ∧
      (own.deepMerge extra).deepMerge extra = own.deepMerge extra := by
  intro own extra
  have hproper : extra.Proper := by
    refine proper_obj (by decide) fun e he => ?_
    simp only [List.mem_cons, List.not_mem_nil, or_false] at he
    rcases he with rfl | rfl | rfl
    · exact proper_of_sound trivial nofun nofun
    · exact proper_keyed (proper_of_sound trivial nofun nofun)
    · exact proper_keyed (proper_of_sound trivial nofun nofun)
  obtain ⟨-, -, hkept, hfound, hagain⟩ := deepMerge_overrides_named own hproper
  exact ⟨hproper, rfl, rfl, hkept _ rfl, hfound _ _ rfl rfl, hfound _ _ rfl rfl, hagain⟩

end Json

end FacetedSearch
