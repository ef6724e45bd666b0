import FacetedSearch.Proofs.Json.Proper
import FacetedSearch.Toml.Parser

/-!
# No name twice in a table

Every table of a file that was read names each of its keys once, at any depth.  While the file is read this holds of
the table under construction: a key is only put, which changes a value in place or adds it at the end, or moved to the
end.

* `TableNode.Tidy.descend`: changing a table somewhere down a path keeps this.
* `tidy_of_readValue`, `tidy_of_parse`: what is read is tidy.
* `proper_of_toJson?`: a tidy value has proper JSON.
-/

namespace FacetedSearch

namespace Toml

/-- Every table of a value, at any depth, names each key once. -/
inductive Tidy : Toml → Prop
  | leaf {v : Toml} (harr : ∀ vs, v ≠ .arr vs) (htable : ∀ es, v ≠ .table es) : Tidy v
  | arr {vs : List Toml} (h : ∀ v ∈ vs, Tidy v) : Tidy (.arr vs)
  | table {es : Entries Toml} (hnodup : es.names.Nodup) (h : ∀ e ∈ es, Tidy e.2) : Tidy (.table es)

/-- Every table under construction names each key once. -/
inductive Node.Tidy : Node → Prop
  | closed {v : Toml} (h : v.Tidy) : Tidy (.closed v)
  | table {origin : Origin} {es : Entries Node} (hnodup : es.names.Nodup) (h : ∀ e ∈ es, Tidy e.2) :
    Tidy (.table origin es)
  | elements {ts : List (Entries Node)} (hnodup : ∀ es ∈ ts, es.names.Nodup) (h : ∀ es ∈ ts, ∀ e ∈ es, Tidy e.2) :
    Tidy (.elements ts)

namespace TableNode

/-- A table under construction names each key once, and so do the tables below. -/
structure Tidy (t : TableNode) : Prop where
  nodup : t.entries.names.Nodup
  entries : ∀ e ∈ t.entries, e.2.Tidy

theorem tidy_empty (origin : Origin) : (empty origin).Tidy := ⟨List.nodup_nil, nofun⟩

variable {t : TableNode}

theorem Tidy.node (h : t.Tidy) : (Node.table t.origin t.entries).Tidy := .table h.nodup h.entries

theorem Tidy.get? (h : t.Tidy) {key : String} {n : Node} (hn : t.entries.get? key = some n) : n.Tidy :=
  h.entries (key, n) (Entries.mem_of_get? hn)

theorem Tidy.put (h : t.Tidy) (key : String) {n : Node} (hn : n.Tidy) :
    Tidy { t with entries := t.entries.put key n } := by
  refine ⟨Entries.nodup_names_put h.nodup key n, fun e he => ?_⟩
  rcases Entries.mem_of_mem_put he with he | he
  · exact h.entries e he
  · rwa [he]

/-- Changing a table at the end of a path keeps the tables around it tidy. -/
theorem Tidy.descend {dotted : Bool} {change : TableNode → Option TableNode}
    (hchange : ∀ {s s' : TableNode}, s.Tidy → change s = some s' → s'.Tidy) {path : List String} (h : t.Tidy)
    {t' : TableNode} (ht' : descend dotted change path t = some t') : t'.Tidy := by
  induction path generalizing t t' with
  | nil => exact hchange h ht'
  | cons key path ih =>
    rw [TableNode.descend] at ht'
    split at ht'
    · obtain ⟨s, hs, heq⟩ := Option.bind_eq_some_iff.1 ht'
      cases heq
      exact h.put key (ih (tidy_empty _) hs).node
    · rename_i origin es hget
      split at ht'
      · cases ht'
      · obtain ⟨s, hs, heq⟩ := Option.bind_eq_some_iff.1 ht'
        cases heq
        cases h.get? hget with
        | table hnodup hentries => exact h.put key (ih ⟨hnodup, hentries⟩ hs).node
    · rename_i ts hget
      split at ht'
      · cases ht'
      · -- only the last table of an array can be changed
        rename_i last before hreverse
        obtain ⟨s, hs, heq⟩ := Option.bind_eq_some_iff.1 ht'
        cases heq
        have hts : ts = before.reverse ++ [last] := by
          rw [← List.reverse_reverse ts, hreverse, List.reverse_cons]
        cases h.get? hget with
        | elements hnodup htables =>
          have hlast : last ∈ ts := by rw [hts]; exact List.mem_append_right _ (List.mem_singleton.2 rfl)
          have hs := ih ⟨hnodup last hlast, htables last hlast⟩ hs
          have hbefore : ∀ es ∈ before.reverse, es ∈ ts := fun es hes => by rw [hts]; exact List.mem_append_left _ hes
          refine h.put key (.elements (fun es hes => ?_) fun es hes => ?_)
          all_goals rcases List.mem_append.1 hes with hes | hes
          · exact hnodup es (hbefore es hes)
          · rw [List.mem_singleton.1 hes]; exact hs.nodup
          · exact htables es (hbefore es hes)
          · rw [List.mem_singleton.1 hes]; exact hs.entries
    · cases ht'

theorem Tidy.assign (h : t.Tidy) {path : List String} {key : String} {v : Toml} (hv : v.Tidy) {t' : TableNode}
    (ht' : assign path key v t = some t') : t'.Tidy := by
  refine h.descend (fun {s s'} hs hs' => ?_) ht'
  split at hs'
  · cases hs'
  · cases hs'
    exact hs.put key (.closed hv)

theorem Tidy.openTable (h : t.Tidy) {path : List String} {key : String} {t' : TableNode}
    (ht' : openTable path key t = some t') : t'.Tidy := by
  refine h.descend (fun {s s'} hs hs' => ?_) ht'
  split at hs'
  · cases hs'
    exact hs.put key (.table List.nodup_nil nofun)
  · -- the table moves to the end, and no other entry has its name
    rename_i es hget
    cases hs'
    have hrest : ((s.entries.filter (·.1 != key)).map Prod.fst).Nodup :=
      hs.nodup.sublist (List.filter_sublist.map _)
    constructor
    · show ((s.entries.filter _ ++ [(key, _)]).map Prod.fst).Nodup
      rw [List.map_append, List.nodup_append]
      refine ⟨hrest, List.pairwise_singleton .., fun a ha b hb hab => ?_⟩
      obtain ⟨e, he, rfl⟩ := List.mem_map.1 ha
      have hne := (List.mem_filter.1 he).2
      rw [hab, List.mem_singleton.1 hb, bne_self_eq_false] at hne
      cases hne
    · intro e he
      rcases List.mem_append.1 he with he | he
      · exact hs.entries e (List.mem_filter.1 he).1
      · rw [List.mem_singleton.1 he]
        cases hs.get? hget with
        | table hnodup hentries => exact .table hnodup hentries
  · cases hs'

theorem Tidy.openElement (h : t.Tidy) {path : List String} {key : String} {t' : TableNode}
    (ht' : openElement path key t = some t') : t'.Tidy := by
  refine h.descend (fun {s s'} hs hs' => ?_) ht'
  split at hs'
  · cases hs'
    refine hs.put key (.elements (fun es hes => ?_) fun es hes => ?_)
    all_goals rw [List.mem_singleton.1 hes]
    · exact List.nodup_nil
    · exact nofun
  · rename_i ts hget
    cases hs'
    cases hs.get? hget with
    | elements hnodup htables =>
      refine hs.put key (.elements (fun es hes => ?_) fun es hes => ?_)
      all_goals rcases List.mem_append.1 hes with hes | hes
      · exact hnodup es hes
      · rw [List.mem_singleton.1 hes]; exact List.nodup_nil
      · exact htables es hes
      · rw [List.mem_singleton.1 hes]; exact nofun
  · cases hs'

end TableNode

/-! ### What has been built -/

private theorem names_finishEntries (es : Entries Node) : Entries.names (finishEntries es) = es.names := by
  induction es with
  | nil => rfl
  | cons e es ih => exact congrArg (e.1 :: ·) ih

private theorem mem_finishEntries {es : Entries Node} {e : String × Toml} (h : e ∈ finishEntries es) :
    ∃ d ∈ es, e.2 = d.2.finish := by
  induction es with
  | nil => cases h
  | cons d es ih =>
    rcases List.mem_cons.1 h with rfl | h
    · exact ⟨d, List.mem_cons_self .., rfl⟩
    · obtain ⟨d', hd', heq⟩ := ih h
      exact ⟨d', List.mem_cons_of_mem _ hd', heq⟩

private theorem mem_finishTables {ts : List (Entries Node)} {v : Toml} (h : v ∈ finishTables ts) :
    ∃ es ∈ ts, v = .table (finishEntries es) := by
  induction ts with
  | nil => cases h
  | cons es ts ih =>
    rcases List.mem_cons.1 h with rfl | h
    · exact ⟨es, List.mem_cons_self .., rfl⟩
    · obtain ⟨es', hes', heq⟩ := ih h
      exact ⟨es', List.mem_cons_of_mem _ hes', heq⟩

theorem Node.Tidy.finish {n : Node} (h : n.Tidy) : n.finish.Tidy := by
  induction h with
  | closed h => exact h
  | table hnodup _ ih =>
    refine .table (by rwa [names_finishEntries]) fun e he => ?_
    obtain ⟨d, hd, heq⟩ := mem_finishEntries he
    rw [heq]
    exact ih d hd
  | elements hnodup _ ih =>
    refine .arr fun v hv => ?_
    obtain ⟨es, hes, rfl⟩ := mem_finishTables hv
    refine .table (by rw [names_finishEntries]; exact hnodup es hes) fun e he => ?_
    obtain ⟨d, hd, heq⟩ := mem_finishEntries he
    rw [heq]
    exact ih es hes d hd

theorem TableNode.Tidy.finish {t : TableNode} (h : t.Tidy) : (Toml.table t.finish).Tidy := h.node.finish

/-! ### What has been read -/

private theorem tidy_of_scalar? {s : List Char} {v : Toml} (h : scalar? s = some v) : v.Tidy := by
  rw [scalar?] at h
  split at h
  · cases h
    exact .leaf nofun nofun
  · split at h
    · cases h
      exact .leaf nofun nofun
    · split at h
      · split at h <;> cases h
        exact .leaf nofun nofun
      · cases h
        exact .leaf nofun nofun
      · cases h
        exact .leaf nofun nofun
      · cases h

section

variable {item : Reader Toml} (hitem : ∀ {s s' : List Char} {v : Toml}, item s = some (v, s') → v.Tidy)
include hitem

private theorem tidy_of_readItems {n : Nat} {s s' : List Char} {vs : List Toml}
    (h : readItems item n s = some (vs, s')) : ∀ v ∈ vs, v.Tidy := by
  induction n generalizing s vs with
  | zero => cases h
  | succ n ih =>
    rw [readItems] at h
    obtain ⟨s₁, -, h⟩ := Option.bind_eq_some_iff.1 h
    split at h
    · cases h
      exact nofun
    · obtain ⟨⟨v, s₂⟩, hv, h⟩ := Option.bind_eq_some_iff.1 h
      obtain ⟨s₃, -, h⟩ := Option.bind_eq_some_iff.1 h
      split at h
      · cases h
        intro w hw
        rw [List.mem_singleton.1 hw]
        exact hitem hv
      · obtain ⟨⟨ws, s₄⟩, hws, heq⟩ := Option.bind_eq_some_iff.1 h
        cases heq
        intro w hw
        rcases List.mem_cons.1 hw with rfl | hw
        · exact hitem hv
        · exact ih hws w hw
      · cases h

private theorem tidy_of_readEntries {n : Nat} {t t' : TableNode} (ht : t.Tidy) {s s' : List Char}
    (h : readEntries item n t s = some (t', s')) : t'.Tidy := by
  induction n generalizing t s with
  | zero => cases h
  | succ n ih =>
    rw [readEntries] at h
    obtain ⟨s₁, -, h⟩ := Option.bind_eq_some_iff.1 h
    split at h
    · cases h
      exact ht
    · obtain ⟨⟨⟨path, key⟩, s₂⟩, -, h⟩ := Option.bind_eq_some_iff.1 h
      obtain ⟨s₃, -, h⟩ := Option.bind_eq_some_iff.1 h
      split at h
      · obtain ⟨s₄, -, h⟩ := Option.bind_eq_some_iff.1 h
        obtain ⟨⟨v, s₅⟩, hv, h⟩ := Option.bind_eq_some_iff.1 h
        obtain ⟨u, hu, h⟩ := Option.bind_eq_some_iff.1 h
        have hu : u.Tidy := ht.assign (hitem hv) hu
        obtain ⟨s₆, -, h⟩ := Option.bind_eq_some_iff.1 h
        split at h
        · cases h
          exact hu
        · exact ih hu h
        · cases h
      · cases h

end

private theorem tidy_of_readValue_step {depth : Nat}
    (hinner : ∀ n, depth = n + 1 → ∀ {s s' : List Char} {v : Toml}, readValue n s = some (v, s') → v.Tidy)
    {s s' : List Char} {v : Toml} (h : readValue depth s = some (v, s')) : v.Tidy := by
  rw [readValue.eq_def] at h
  split at h
  split at h
  · obtain ⟨⟨text, rest⟩, -, heq⟩ := Option.map_eq_some_iff.1 h
    cases heq
    exact .leaf nofun nofun
  · obtain ⟨⟨text, rest⟩, -, heq⟩ := Option.map_eq_some_iff.1 h
    cases heq
    exact .leaf nofun nofun
  · cases h
  · cases h
  · obtain ⟨⟨vs, rest⟩, hvs, heq⟩ := Option.map_eq_some_iff.1 h
    cases heq
    exact .arr (tidy_of_readItems (hinner _ rfl) hvs)
  · obtain ⟨⟨t, rest⟩, ht, heq⟩ := Option.map_eq_some_iff.1 h
    cases heq
    exact (tidy_of_readEntries (hinner _ rfl) (TableNode.tidy_empty _) ht).finish
  · obtain ⟨w, hw, heq⟩ := Option.bind_eq_some_iff.1 h
    cases heq
    exact tidy_of_scalar? hw

theorem tidy_of_readValue {depth : Nat} {s s' : List Char} {v : Toml} (h : readValue depth s = some (v, s')) :
    v.Tidy := by
  induction depth generalizing s s' v with
  | zero => exact tidy_of_readValue_step (fun _ hn => Nat.noConfusion hn) h
  | succ depth ih =>
    refine tidy_of_readValue_step (fun n hn => ?_) h
    cases hn
    exact ih

private theorem Section.tidy_assign {sec : Section} {path : List String} {key : String} {v : Toml} (hv : v.Tidy)
    {t t' : TableNode} (ht : t.Tidy) (h : sec.assign path key v t = some t') : t'.Tidy :=
  ht.descend (fun hs hs' => hs.assign hv hs') h

private theorem tidy_of_readLines {n : Nat} {sec : Section} {t t' : TableNode} (ht : t.Tidy) {s : List Char}
    (h : readLines n sec t s = some t') : t'.Tidy := by
  induction n generalizing sec t s with
  | zero => cases h
  | succ n ih =>
    rw [readLines] at h
    obtain ⟨s₁, -, h⟩ := Option.bind_eq_some_iff.1 h
    split at h
    · cases h
      exact ht
    · obtain ⟨⟨⟨path, key⟩, s₂⟩, -, h⟩ := Option.bind_eq_some_iff.1 h
      dsimp only at h
      split at h
      · obtain ⟨u, hu, h⟩ := Option.bind_eq_some_iff.1 h
        obtain ⟨s₃, -, h⟩ := Option.bind_eq_some_iff.1 h
        exact ih (ht.openElement hu) h
      · cases h
    · obtain ⟨⟨⟨path, key⟩, s₂⟩, -, h⟩ := Option.bind_eq_some_iff.1 h
      dsimp only at h
      split at h
      · obtain ⟨u, hu, h⟩ := Option.bind_eq_some_iff.1 h
        obtain ⟨s₃, -, h⟩ := Option.bind_eq_some_iff.1 h
        exact ih (ht.openTable hu) h
      · cases h
    · obtain ⟨⟨⟨path, key⟩, s₂⟩, -, h⟩ := Option.bind_eq_some_iff.1 h
      dsimp only at h
      split at h
      · obtain ⟨⟨v, s₃⟩, hv, h⟩ := Option.bind_eq_some_iff.1 h
        obtain ⟨u, hu, h⟩ := Option.bind_eq_some_iff.1 h
        obtain ⟨s₄, -, h⟩ := Option.bind_eq_some_iff.1 h
        exact ih (Section.tidy_assign (tidy_of_readValue hv) ht hu) h
      · cases h

/-- A file that was read names no key twice in one table. -/
theorem tidy_of_parse {text : String} {es : Entries Toml} (h : parse text = some es) : (Toml.table es).Tidy := by
  rw [parse] at h
  obtain ⟨t, ht, rfl⟩ := Option.map_eq_some_iff.1 h
  exact (tidy_of_readLines (TableNode.tidy_empty _) ht).finish

/-! ### As JSON -/

private theorem names_of_toJsonEntries? {es : Entries Toml} {fs : Entries Json} (h : toJsonEntries? es = some fs) :
    fs.names = es.names := by
  induction es generalizing fs with
  | nil => cases h; rfl
  | cons e es ih =>
    rw [toJsonEntries?] at h
    split at h
    · rename_i w ws _ hws
      cases h
      exact congrArg (e.1 :: ·) (ih hws)
    · cases h

private theorem mem_of_toJsonEntries? {es : Entries Toml} {fs : Entries Json} (h : toJsonEntries? es = some fs) :
    ∀ f ∈ fs, ∃ e ∈ es, e.2.toJson? = some f.2 := by
  induction es generalizing fs with
  | nil => cases h; exact nofun
  | cons e es ih =>
    rw [toJsonEntries?] at h
    split at h
    · rename_i w ws hw hws
      cases h
      intro f hf
      rcases List.mem_cons.1 hf with rfl | hf
      · exact ⟨e, List.mem_cons_self .., hw⟩
      · obtain ⟨d, hd, hdf⟩ := ih hws f hf
        exact ⟨d, List.mem_cons_of_mem _ hd, hdf⟩
    · cases h

private theorem mem_of_toJsonItems? {vs : List Toml} {ws : List Json} (h : toJsonItems? vs = some ws) :
    ∀ w ∈ ws, ∃ v ∈ vs, v.toJson? = some w := by
  induction vs generalizing ws with
  | nil => cases h; exact nofun
  | cons v vs ih =>
    rw [toJsonItems?] at h
    split at h
    · rename_i w ws' hw hws
      cases h
      intro u hu
      rcases List.mem_cons.1 hu with rfl | hu
      · exact ⟨v, List.mem_cons_self .., hw⟩
      · obtain ⟨d, hd, hdu⟩ := ih hws u hu
        exact ⟨d, List.mem_cons_of_mem _ hd, hdu⟩
    · cases h

/-- The JSON of a value that names no key twice is proper; doubles without a value became null. -/
theorem proper_of_toJson? {v : Toml} (hv : v.Tidy) {w : Json} (h : v.toJson? = some w) : w.Proper := by
  induction hv generalizing w with
  | @leaf v harr htable =>
    cases v with
    | arr vs => exact absurd rfl (harr vs)
    | table es => exact absurd rfl (htable es)
    | int n =>
      rw [toJson?] at h
      split at h <;> cases h
      exact Json.proper_of_sound trivial nofun nofun
    | float x =>
      rw [toJson?] at h
      cases h
      split
      · rename_i hfinite
        exact Json.proper_of_sound hfinite nofun nofun
      · exact Json.proper_of_sound trivial nofun nofun
    | str _ | bool _ | moment _ =>
      cases h
      exact Json.proper_of_sound trivial nofun nofun
  | arr _ ih =>
    rw [toJson?] at h
    obtain ⟨ws, hws, rfl⟩ := Option.map_eq_some_iff.1 h
    refine Json.proper_arr fun u hu => ?_
    obtain ⟨d, hd, hdu⟩ := mem_of_toJsonItems? hws u hu
    exact ih d hd hdu
  | table hnodup _ ih =>
    rw [toJson?] at h
    obtain ⟨fs, hfs, rfl⟩ := Option.map_eq_some_iff.1 h
    refine Json.proper_obj (by rw [names_of_toJsonEntries? hfs]; exact hnodup) fun f hf => ?_
    obtain ⟨e, he, hef⟩ := mem_of_toJsonEntries? hfs f hf
    exact ih e he hef

end Toml

end FacetedSearch
