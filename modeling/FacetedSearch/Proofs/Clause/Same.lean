import FacetedSearch.Proofs.Clause.Reread

/-!
# Equal clauses

A clause that was read from a proper value equals itself.  It equals only clauses that are written out, too: a clause
with raw members that could be read is never equal to one that was read.

* `same_ofJson`: a clause that was read from a proper value equals itself.
* `ofJson_of_same`: a value that is kept is equal only to values that are kept.
* `reread_of_same`: rereading a clause that equals one that was read keeps it.
-/

namespace FacetedSearch

namespace Json

/-! ### What equal values have in common -/

theorem str?_of_same {v w : Json} (h : v.same w = true) : w.str? = v.str? := by
  cases v <;> cases w <;> simp_all [same, str?]

theorem isSome_scalarText_of_same {v w : Json} (h : v.same w = true) :
    w.scalarText.isSome = v.scalarText.isSome := by
  cases v <;> cases w <;> simp_all [same, scalarText]

theorem isSome_items?_of_same {v w : Json} (h : v.same w = true) : w.items?.isSome = v.items?.isSome := by
  cases v <;> cases w <;> simp_all [same, items?]

/-- Equal values hold equal values under the same names. -/
theorem get?_value_of_same {v w : Json} (hv : v.Sound) (h : v.same w = true) (key : String) :
    (v.get? key = none ∧ w.get? key = none) ∨
      ∃ a b, v.get? key = some a ∧ w.get? key = some b ∧ a.same b = true := by
  cases v with
  | obj es =>
    cases w with
    | obj fs => exact get?_of_same h hv key
    | _ => simp [same] at h
  | _ =>
    cases w with
    | obj fs => simp [same] at h
    | _ => exact Or.inl ⟨rfl, rfl⟩

theorem eq_of_single? {es : Entries Json} {k : String} {a : Json} (h : (Json.obj es).single? = some (k, a)) :
    es = [(k, a)] := by
  rcases es with _ | ⟨e, _ | ⟨d, es⟩⟩ <;> cases h
  rfl

theorem inside_of_single? {v a : Json} {k : String} (h : v.single? = some (k, a)) : a.Inside v := by
  cases v with
  | obj es =>
    rw [eq_of_single? h]
    exact .entry (k := k) (List.mem_singleton.2 rfl)
  | _ => cases h

/-- Equal values have equal single entries, if any. -/
theorem single?_of_same {v w : Json} (h : v.same w = true) :
    (v.single? = none ∧ w.single? = none) ∨
      ∃ k a b, v.single? = some (k, a) ∧ w.single? = some (k, b) ∧ a.same b = true := by
  cases v with
  | obj es =>
    cases w with
    | obj fs =>
      rw [same, Bool.and_eq_true, beq_iff_eq] at h
      obtain ⟨hlen, hentries⟩ := h
      -- both objects are empty, or have a single entry, or have more than one
      rcases es with _ | ⟨⟨k, a⟩, _ | ⟨e, es⟩⟩ <;> rcases fs with _ | ⟨⟨k', b⟩, _ | ⟨f, fs⟩⟩
      case cons.nil.cons.nil =>
        rw [sameEntries, Entries.get?_cons, Entries.get?_nil] at hentries
        by_cases hk : k = k'
        · simp only [hk, if_true, Bool.and_eq_true] at hentries
          exact Or.inr ⟨k, a, b, rfl, by rw [hk]; rfl, hentries.1⟩
        · simp [hk] at hentries
      all_goals first | exact Or.inl ⟨rfl, rfl⟩ | cases hlen
    | _ => simp [same] at h
  | _ =>
    cases w with
    | obj fs => simp [same] at h
    | _ => exact Or.inl ⟨rfl, rfl⟩

end Json

namespace Clause

/-! ### Equal values are read alike -/

private theorem isSome_eitherKey {v w : Json} (hv : v.Sound) (h : v.same w = true) (key other : String) :
    (eitherKey v key other = none ∧ eitherKey w key other = none) ∨
      ∃ a b, eitherKey v key other = some a ∧ eitherKey w key other = some b ∧ a.same b = true := by
  rcases Json.get?_value_of_same hv h key with ⟨hv', hw'⟩ | ⟨a, b, ha, hb, hab⟩
  · simp only [eitherKey, hv', hw']
    exact Json.get?_value_of_same hv h other
  · simp only [eitherKey, ha, hb]
    exact Or.inr ⟨a, b, rfl, rfl, hab⟩

private theorem isSome_readTerm {v w : Json} (h : v.same w = true) : (readTerm w).isSome = (readTerm v).isSome := by
  rcases Json.single?_of_same h with ⟨hv, hw⟩ | ⟨k, a, b, ha, hb, hab⟩
  · simp [readTerm, hv, hw]
  · have hscalar := Json.isSome_scalarText_of_same hab
    cases hx : a.scalarText <;> cases hy : b.scalarText <;> simp_all [readTerm]

private theorem mapM_of_sameItems {vs ws : List Json} (h : Json.sameItems vs ws = true) :
    ws.mapM (fun n => n.str?.map Clause.missing) = vs.mapM fun n => n.str?.map Clause.missing := by
  induction vs generalizing ws with
  | nil =>
    cases ws with
    | nil => rfl
    | cons w ws => cases h
  | cons v vs ih =>
    cases ws with
    | nil => cases h
    | cons w ws =>
      rw [Json.sameItems, Bool.and_eq_true] at h
      rw [List.mapM_cons, List.mapM_cons, ih h.2, Json.str?_of_same h.1]

private theorem isSome_readMissing {v w : Json} (hv : v.Sound) (h : v.same w = true) :
    (readMissing w).isSome = (readMissing v).isSome := by
  rcases Json.get?_value_of_same hv h "field" with ⟨hv', hw'⟩ | ⟨a, b, ha, hb, hab⟩
  · simp [readMissing, hv', hw']
  · cases a <;> cases b <;> simp [Json.same] at hab
    case str.str => simp [readMissing, ha, hb]
    case arr.arr => simp [readMissing, ha, hb, mapM_of_sameItems hab]
    all_goals simp [readMissing, ha, hb]

private theorem isSome_readRange {v w : Json} (hv : v.Proper) (h : v.same w = true) :
    (readRange w).isSome = (readRange v).isSome := by
  rcases Json.single?_of_same h with ⟨hv', hw'⟩ | ⟨k, a, b, ha, hb, hab⟩
  · simp [readRange, hv', hw']
  · have hsound : a.Sound := hv.2 a (Json.inside_of_single? ha)
    have hscalar : ∀ {x y : Json}, x.same y = true → (y.scalarText = none ↔ x.scalarText = none) := by
      intro x y hxy
      rw [← Option.not_isSome_iff_eq_none, ← Option.not_isSome_iff_eq_none, Json.isSome_scalarText_of_same hxy]
    rcases isSome_eitherKey hsound hab "from" "gte" with ⟨h1, h2⟩ | ⟨x, y, hx, hy, hxy⟩
    · simp [readRange, ha, hb, h1, h2]
    · rcases isSome_eitherKey hsound hab "to" "lte" with ⟨h1, h2⟩ | ⟨x', y', hx', hy', hxy'⟩
      · simp [readRange, ha, hb, hx, hy, h1, h2]
      · rw [Bool.eq_iff_iff, Option.isSome_iff_ne_none, Option.isSome_iff_ne_none]
        have h1 := hscalar hxy
        have h2 := hscalar hxy'
        cases hxs : x.scalarText <;> cases hys : y.scalarText <;> cases hxs' : x'.scalarText <;>
          cases hys' : y'.scalarText <;> simp_all [readRange]

private theorem isSome_readText {v w : Json} (hv : v.Sound) (h : v.same w = true) :
    (readText w).isSome = (readText v).isSome := by
  rcases Json.get?_value_of_same hv h "query" with ⟨hv', hw'⟩ | ⟨a, b, ha, hb, hab⟩
  · simp [readText, hv', hw']
  · have hstr := Json.str?_of_same hab
    cases hx : a.str? <;> simp_all [readText]

private theorem isSome_readPath {v w : Json} (hv : v.Sound) (h : v.same w = true) :
    (readPath w).isSome = (readPath v).isSome := by
  rcases Json.get?_value_of_same hv h "path" with ⟨hv', hw'⟩ | ⟨a, b, ha, hb, hab⟩
  · simp [readPath, hv', hw']
  · have hstr := Json.str?_of_same hab
    simp [readPath, ha, hb, hstr]

private theorem isSome_clauseAt {es fs : Entries Json} (hv : es.names.Nodup)
    (h : (Json.obj es).same (.obj fs) = true) (key : String) :
    (clauseAt fs key).isSome = (clauseAt es key).isSome := by
  rw [clauseAt_eq, clauseAt_eq]
  rcases Json.get?_of_same h hv key with ⟨h1, h2⟩ | ⟨a, b, ha, hb, -⟩
  · rw [h1, h2]
  · rw [ha, hb]
    rfl

private theorem isSome_itemsAt {es fs : Entries Json} (hv : es.names.Nodup)
    (h : (Json.obj es).same (.obj fs) = true) (key : String) :
    (itemsAt fs key).isSome = (itemsAt es key).isSome := by
  rw [itemsAt_eq, itemsAt_eq]
  rcases Json.get?_of_same h hv key with ⟨h1, h2⟩ | ⟨a, b, ha, hb, hab⟩
  · rw [h1, h2]
  · rw [ha, hb]
    simp only [Option.bind_some, Option.isSome_map]
    exact Json.isSome_items?_of_same hab

private theorem onlyArms_of_same {es fs : Entries Json} (hv : es.names.Nodup)
    (h : (Json.obj es).same (.obj fs) = true) : onlyArms fs = onlyArms es := by
  have hnames : ∀ k, k ∈ fs.names ↔ k ∈ es.names := by
    intro k
    rcases Json.get?_of_same h hv k with ⟨h1, h2⟩ | ⟨a, b, ha, hb, -⟩
    · rw [Entries.get?_eq_none_iff] at h1 h2
      exact ⟨fun hk => absurd hk h2, fun hk => absurd hk h1⟩
    · have h1 : k ∈ es.names := List.mem_map.2 ⟨_, Entries.mem_of_get? ha, rfl⟩
      have h2 : k ∈ fs.names := List.mem_map.2 ⟨_, Entries.mem_of_get? hb, rfl⟩
      exact ⟨fun _ => h1, fun _ => h2⟩
  have harms : ∀ gs : Entries Json, onlyArms gs = true ↔ ∀ k ∈ gs.names, k = "must" ∨ k = "should" := by
    intro gs
    simp only [onlyArms, List.all_eq_true, Bool.or_eq_true, beq_iff_eq, Entries.names, List.mem_map]
    constructor
    · rintro hall k ⟨e, he, rfl⟩
      exact hall e he
    · exact fun hall e he => hall e.1 ⟨e, he, rfl⟩
  rw [Bool.eq_iff_iff, harms, harms]
  constructor
  · exact fun hall k hk => hall k ((hnames k).2 hk)
  · exact fun hall k hk => hall k ((hnames k).1 hk)

/-- Whether a body can be read is the same for equal bodies. -/
private theorem isSome_readBody {kind : String} {v w : Json} (hv : v.Proper) (h : v.same w = true) :
    (readBody kind w).isSome = (readBody kind v).isSome := by
  cases v with
  | obj es =>
    cases w with
    | obj fs =>
      simp only [readBody]
      split
      · rfl
      · exact isSome_readTerm h
      · exact isSome_readMissing hv.1 h
      · exact isSome_readRange hv h
      · exact isSome_readText hv.1 h
      · simp only [onlyArms_of_same hv.1 h]
        split <;> rfl
      · simp only [Option.isSome_map, isSome_itemsAt hv.1 h]
      · have hpath := isSome_readPath hv.1 h
        have hquery := isSome_clauseAt hv.1 h "query"
        cases hp : readPath (.obj es) <;> cases hp' : readPath (.obj fs) <;> cases hq : clauseAt es "query" <;>
          cases hq' : clauseAt fs "query" <;> simp_all
      · cases clauseAt es "filter" <;> cases clauseAt fs "filter" <;> rfl
      · rfl
    | _ => simp [Json.same] at h
  | arr vs =>
    cases w with
    | arr ws =>
      simp only [readBody]
      split <;> rfl
    | _ => simp [Json.same] at h
  | _ =>
    cases w with
    | obj fs => simp [Json.same] at h
    | arr ws => simp [Json.same] at h
    | _ => simp only [readBody]

/-- A proper value that is kept is equal only to values that are kept. -/
theorem ofJson_of_same {v w : Json} (hv : v.Proper) (hkept : ofJson v = .raw v) (h : v.same w = true) :
    ofJson w = .raw w := by
  rw [ofJson.eq_def]
  split
  · -- the other value has one entry, so the first one has it too, and neither body can be read
    rename_i kind body
    cases hv' : v with
    | obj es =>
      rw [hv'] at h hkept hv
      rcases Json.single?_of_same h with ⟨-, hnone⟩ | ⟨k, a, b, ha, hb, hab⟩
      · cases hnone
      · cases hb
        have hsingle : es = [(kind, a)] := Json.eq_of_single? ha
        subst hsingle
        have hbody : (readBody kind body).isSome = false := by
          rw [isSome_readBody (hv.inside (.entry (k := kind) (List.mem_singleton.2 rfl))) hab,
            readBody_eq_none_of_kept hkept]
          rfl
        rw [Option.isSome_eq_false_iff, Option.isNone_iff_eq_none] at hbody
        rw [hbody]
        rfl
    | _ =>
      rw [hv'] at h
      simp [Json.same] at h
  · rfl

/-! ### Clauses that were read -/

private theorem sameList_refl {cs : List Clause} (h : ∀ m ∈ cs, m.same m = true) : sameList cs cs = true := by
  induction cs with
  | nil => rfl
  | cons c cs ih =>
    rw [sameList, h c (List.mem_cons_self ..), ih fun m hm => h m (List.mem_cons_of_mem _ hm)]
    rfl

/-- A clause equals itself if its members do. -/
private theorem same_refl_of_members {q : Clause} (hraw : ∀ u, q ≠ .raw u) (h : ∀ m ∈ q.members, m.same m = true) :
    q.same q = true := by
  cases q with
  | raw v => exact absurd rfl (hraw v)
  | bool m s =>
    rw [same, sameList_refl fun c hc => h c (List.mem_append_left _ hc),
      sameList_refl fun c hc => h c (List.mem_append_right _ hc)]
    rfl
  | and cs =>
    rw [same]
    exact sameList_refl h
  | nested p q => simp [same, h q (List.mem_singleton.2 rfl)]
  | filtered q f => simp [same, h q (List.mem_cons_self ..), h f (List.mem_cons_of_mem _ (List.mem_singleton.2 rfl))]
  | _ => simp [same]

private theorem Plain.ne_raw {q : Clause} (h : q.Plain) (u : Json) : q ≠ .raw u := by
  rintro rfl
  exact h

private theorem Plain.members_eq {q : Clause} (h : q.Plain) : q.members = [] := by
  cases q with
  | bool _ _ | and _ | nested _ _ | filtered _ _ | raw _ => exact h.elim
  | _ => rfl

/-- A clause that was read from a proper value equals itself. -/
theorem same_ofJson (v : Json) (hv : v.Proper) : (ofJson v).same (ofJson v) = true := by
  rcases form_ofJson v with hkept | hform
  · rw [hkept, same]
    exact Json.same_refl v hv
  · generalize hq : ofJson v = q at hform
    cases hform with
    | part hw => exact same_ofJson _ (hv.inside hw)
    | built hraw hmem =>
      apply same_refl_of_members hraw
      intro m hm
      rcases hmem m hm with hplain | ⟨w, hw, rfl⟩
      · exact same_refl_of_members hplain.ne_raw (by rw [hplain.members_eq]; nofun)
      · exact same_ofJson w (hv.inside hw)
termination_by v
decreasing_by all_goals exact hw.sizeOf_lt

private theorem mem_of_sameList {cs ds : List Clause} (h : sameList cs ds = true) :
    ∀ d ∈ ds, ∃ c ∈ cs, c.same d = true := by
  induction cs generalizing ds with
  | nil =>
    cases ds with
    | nil => nofun
    | cons d ds => cases h
  | cons c cs ih =>
    cases ds with
    | nil => nofun
    | cons d ds =>
      rw [sameList, Bool.and_eq_true] at h
      intro e he
      rcases List.mem_cons.1 he with rfl | he
      · exact ⟨c, List.mem_cons_self .., h.1⟩
      · obtain ⟨b, hb, hsame⟩ := ih h.2 e he
        exact ⟨b, List.mem_cons_of_mem _ hb, hsame⟩

/-- Every member of a clause equals a member of an equal one. -/
private theorem members_of_same {p q : Clause} (hraw : ∀ u, p ≠ .raw u) (h : p.same q = true) :
    (∀ u, q ≠ .raw u) ∧ ∀ m ∈ q.members, ∃ n ∈ p.members, n.same m = true := by
  have hq : ∀ u, q ≠ .raw u := by
    rintro u rfl
    cases p with
    | raw v => exact hraw v rfl
    | _ => simp [same] at h
  refine ⟨hq, ?_⟩
  cases p <;> cases q <;> simp only [same, Bool.and_eq_true, Bool.false_eq_true] at h
  case bool.bool m s m' s' =>
    intro d hd
    rcases List.mem_append.1 hd with hd | hd
    · obtain ⟨c, hc, hsame⟩ := mem_of_sameList h.1 d hd
      exact ⟨c, List.mem_append_left _ hc, hsame⟩
    · obtain ⟨c, hc, hsame⟩ := mem_of_sameList h.2 d hd
      exact ⟨c, List.mem_append_right _ hc, hsame⟩
  case and.and => exact mem_of_sameList h
  case nested.nested =>
    intro d hd
    rw [List.mem_singleton.1 hd]
    exact ⟨_, List.mem_singleton.2 rfl, h.2⟩
  case filtered.filtered =>
    intro d hd
    rcases List.mem_cons.1 hd with rfl | hd
    · exact ⟨_, List.mem_cons_self .., h.1⟩
    · rw [List.mem_singleton.1 hd]
      exact ⟨_, List.mem_cons_of_mem _ (List.mem_singleton.2 rfl), h.2⟩
  case raw.raw v _ => exact absurd rfl (hraw v)
  all_goals nofun

/-- A clause that equals one read from a proper value holds no raw clause that could be read. -/
theorem reread_of_same (v : Json) (hv : v.Proper) {q : Clause} (h : (ofJson v).same q = true) : q.reread = q := by
  rcases form_ofJson v with hkept | hform
  · rw [hkept] at h
    cases q with
    | raw w =>
      rw [same] at h
      rw [reread]
      exact ofJson_of_same hv hkept h
    | _ => simp [same] at h
  · generalize hp : ofJson v = p at hform h
    cases hform with
    | part hw => exact reread_of_same _ (hv.inside hw) h
    | built hraw hmem =>
      obtain ⟨hq, hmembers⟩ := members_of_same hraw h
      apply reread_eq_self hq
      intro m hm
      obtain ⟨n, hn, hsame⟩ := hmembers m hm
      rcases hmem n hn with hplain | ⟨w, hw, rfl⟩
      · obtain ⟨hraw', hnone⟩ := members_of_same hplain.ne_raw hsame
        refine reread_eq_self hraw' fun d hd => ?_
        obtain ⟨c, hc, -⟩ := hnone d hd
        rw [hplain.members_eq] at hc
        cases hc
      · exact reread_of_same w (hv.inside hw) hsame
termination_by v
decreasing_by all_goals exact hw.sizeOf_lt

end Clause

end FacetedSearch
