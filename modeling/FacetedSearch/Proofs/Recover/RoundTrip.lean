import FacetedSearch.Proofs.Entries.FirstUse
import FacetedSearch.Proofs.Recover.Rebuild

/-!
# Opening what was compiled

A state is compiled to a document, the document is written and read, and the commands recovered from it are carried
out anew.  The state that results has the criteria that the walk did not pass over; when it passed over none, it has
the same selections, ranges, sort keys and search field, and the same query.

* `ofJson_toJson`, `ofJson_toShared`: a written document is read as it was, except that raw clauses are read, too.
* `reopened`: the state that results, whether the document was written or not.
* `reopened_same_state`: the round trip of a state.
* `loaded_same_state`: the same for settings files that were read.
-/

namespace FacetedSearch

/-! ### Reading a written document -/

namespace Document

private theorem get?_numberEntry (name key : String) (n : Option Nat) :
    Entries.get? (numberEntry name n) key = if key = name then n.map .ofNat else none := by
  cases n with
  | none => rw [numberEntry, Option.map_none, ite_self]; rfl
  | some n => rw [numberEntry, Entries.get?_cons]; rfl

private theorem get?_sortEntry (vs : List Json) (key : String) :
    Entries.get? (sortEntry vs) key = if key = "sort" then (if vs = [] then none else some (.arr vs)) else none := by
  cases vs with
  | nil => rw [sortEntry, if_pos rfl, ite_self]; rfl
  | cons v vs => exact Entries.get?_cons ..

private theorem get?_fieldsEntry (fs : Option (List String)) (key : String) :
    Entries.get? (fieldsEntry fs) key = if key = "fields" then fs.map .ofStrings else none := by
  cases fs with
  | none => rw [fieldsEntry, Option.map_none, ite_self]; rfl
  | some fs => rw [fieldsEntry, Entries.get?_cons]; rfl

private theorem get?_partialEntry (v : Option Json) (key : String) :
    Entries.get? (partialEntry v) key = if key = "partial_fields" then v else none := by
  cases v with
  | none => rw [partialEntry, ite_self]; rfl
  | some v => rw [partialEntry, Entries.get?_cons]; rfl

private theorem filterMap_str? (ss : List String) : (ss.map Json.str).filterMap Json.str? = ss := by
  induction ss with
  | nil => rfl
  | cons s ss ih =>
    rw [List.map_cons, List.filterMap_cons, ih]
    rfl

private theorem readSort_of_entry (vs : List Json) :
    readSort (if vs = [] then none else some (.arr vs)) = vs := by
  cases vs <;> rfl

private theorem readNumber_ofNat (n : Option Nat) : (n.map Json.ofNat).bind readNumber = n := by
  cases n with
  | none => rfl
  | some n => simp [Json.ofNat, readNumber, Json.nat?]

/-- All entries but the facet requests are read as they were, with raw clauses read, too. -/
private theorem ofEntries_baseEntries (d : Document) (tail : Entries Json)
    (htail : ∀ key, key ≠ "facets" → tail.get? key = none) :
    ofEntries (d.baseEntries ++ tail) =
      { d with query := d.query.reread, facets := ((tail.get? "facets").bind Json.entries?).getD [] } := by
  have hfields : ((d.fields.map Json.ofStrings).bind Json.items?).map (·.filterMap Json.str?) = d.fields := by
    cases d.fields with
    | none => rfl
    | some fs => exact congrArg some (filterMap_str? fs)
  rw [ofEntries]
  simp only [baseEntries, List.cons_append, Entries.get?_cons, Entries.get?_append, get?_numberEntry, get?_sortEntry,
    get?_fieldsEntry, get?_partialEntry]
  simp [htail, Clause.ofJson_toJson, readNumber_ofNat, readSort_of_entry, hfields]

/-- A document that travelled in a link is read as it was, with its raw clauses read, too. -/
theorem ofJson_toShared (d : Document) (withFacets : Bool) :
    ofJson (d.toShared withFacets) =
      .ok { d with query := d.query.reread, facets := if withFacets then d.facets else [] } := by
  cases withFacets with
  | true =>
    refine congrArg Except.ok ((ofEntries_baseEntries d [("facets", .obj d.facets)] fun key hkey => ?_).trans rfl)
    rw [Entries.get?_cons, if_neg hkey]
    rfl
  | false =>
    have hbase := ofEntries_baseEntries d [] fun _ _ => rfl
    rw [List.append_nil] at hbase
    exact congrArg Except.ok hbase

/-- A written document is read as it was, with its raw clauses read, too. -/
theorem ofJson_toJson (d : Document) : ofJson d.toJson = .ok { d with query := d.query.reread } :=
  ofJson_toShared d true

end Document

/-! ### The state that results -/

/-- Carrying out what was recovered from a state gives the criteria that were not passed over. -/
structure Reopened (c : Config) (s s' : SearchState) (ks : List Criterion) : Prop where
  selections : s'.selections = ks.flatMap Criterion.selections
  ranges : s'.ranges = ks.flatMap Criterion.ranges
  words : (s'.freeText, s'.searchField) = ks.foldl (fun words k => k.retext words) ("", none)
  sort : s'.sort = s.sort
  kinds : Config.KindByKind c s' ks

namespace Config

variable {c : Config} {s : SearchState}

/-- The commands of a state's page and sort keys. -/
def pageCommands (c : Config) (s : SearchState) : List Command :=
  recoverSort (c.compile s).sort ++ ((c.compile s).size.map .setPageSize).toList ++
    ((c.compile s).offset.map .setPage).toList

private theorem recover_compile (c : Config) (s : SearchState) :
    c.recover (c.compile s) = c.recoverClause (c.compileQuery s) ++ pageCommands c s := by
  rw [recover, pageCommands, List.append_assoc, List.append_assoc, List.append_assoc]
  rfl

/-- Opening a written document walks its query and restores the page and the sort keys at the end. -/
theorem recoverJson_compile (c : Config) (s : SearchState) :
    c.recoverJson (c.compile s).toJson = c.recoverClause (c.compileQuery s).reread ++ pageCommands c s := by
  rw [recoverJson, Document.ofJson_toJson]
  show c.recover { c.compile s with query := (c.compile s).query.reread } = _
  rw [recover, pageCommands, List.append_assoc, List.append_assoc, List.append_assoc]
  rfl

private theorem reopened_of_commands (hs : s.Coherent) (hr : s.Readable) (g : Clause → Clause) :
    Reopened c s (c.run c.startState ((c.recovered g s).flatMap Criterion.commands ++ pageCommands c s))
      (c.recovered g s) := by
  have hvalid : ∀ k ∈ c.recovered g s, k.Valid c := fun k hk =>
    valid_of_mem_criteria hs hr k (mem_recovered_iff.1 hk).1
  have htext : ((c.recovered g s).filterMap Criterion.text?).length ≤ 1 := by
    refine Nat.le_trans (text_recovered c s g).length_le ?_
    cases c.textQuery? s with
    | none => exact Nat.zero_le 1
    | some q => exact Nat.le_refl 1
  obtain ⟨hselections, hranges, hwords, hsort⟩ := replayed_commands (s := c.startState) hvalid
    (allAgree_recovered hs g) (pairwise_ranges_recovered hs g)
  rw [run_append]
  generalize c.run c.startState ((c.recovered g s).flatMap Criterion.commands) = s₁
    at hselections hranges hwords hsort
  obtain ⟨page, hpage⟩ := run_page c s₁ s.sort (c.compile s).size (c.compile s).offset
  have hrun : c.run s₁ (pageCommands c s) = { s₁ with sort := if s.sort = [] then s₁.sort else s.sort, page } := hpage
  rw [hrun]
  refine ⟨hselections, hranges, hwords, ?_,
    kindByKind_replayed hvalid (pairwise_apart_recovered c s g) htext hselections hranges hwords⟩
  show (if s.sort = [] then s₁.sort else s.sort) = s.sort
  split
  · rename_i hempty
    rw [hsort, hempty]
    rfl
  · rfl

/-- The state after the written document of a state was opened. -/
theorem reopened (hc : c.Sound) (hs : s.Coherent) (hr : s.Readable) :
    Reopened c s (c.run c.startState (c.recoverJson (c.compile s).toJson)) (c.recovered Clause.reread s) := by
  rw [recoverJson_compile, recoverClause_reread hc (valid_of_mem_criteria hs hr)]
  exact reopened_of_commands hs hr _

/-- The state after the document of a state was opened as it is. -/
theorem reopened_built (hc : c.Sound) (hs : s.Coherent) (hr : s.Readable) :
    Reopened c s (c.run c.startState (c.recover (c.compile s))) (c.recovered id s) := by
  rw [recover_compile, recoverClause_built hc (valid_of_mem_criteria hs hr)]
  exact reopened_of_commands hs hr _

/-- The first state has the selections, ranges, sort keys and search field of the second one, and the same query. -/
def ComesBack (c : Config) (s' s : SearchState) : Prop :=
  s'.selections.Perm s.selections ∧
    s'.ranges.Perm (s.ranges.filter fun r => (c.facets[r.facet]?).isSome) ∧ s'.sort = s.sort ∧
    (isBlankText s.freeText = false → s'.searchField = s.searchField) ∧
    (c.compile s').query = (c.compile s).query

/-- No filter equals the clause of a criterion or a clause around one. -/
def FiltersApart (c : Config) (s : SearchState) : Prop :=
  ∀ k ∈ c.criteria s, ∀ q ∈ k.clause :: (c.enclosing s (k.place c)).map Clause.reread, ∀ e ∈ c.filters,
    (Clause.ofJson e.2).same q = false

/-- When nothing was passed over, a reopened state is the state. -/
private theorem comesBack_of_reopened {s' : SearchState} {g : Clause → Clause} (h : Reopened c s s' (c.recovered g s))
    (hkept : ∀ k ∈ c.criteria s, c.skips g s k = false) : c.ComesBack s' s := by
  have hall : c.recovered g s = c.walkOrder s := by
    rw [recovered, List.filter_eq_self]
    intro k hk
    rw [hkept k ((walkOrder_perm c s).mem_iff.1 hk)]
    rfl
  rw [hall] at h
  have hwalk := walkOrder_perm c s
  refine ⟨?_, ?_, h.sort, fun htext => ?_, compileQuery_walked h.kinds⟩
  · rw [h.selections]
    exact (hwalk.flatMap_right _).trans (flatMap_selections_perm c s)
  · rw [h.ranges, ← flatMap_ranges_eq]
    exact hwalk.flatMap_right _
  · -- both states have the same text query, which holds the field
    have htexts : (c.textCriteria s').Perm (c.textCriteria s) := by
      rw [h.kinds.text, (kindByKind_criteria c s).text]
      exact hwalk.filter _
    have hq : c.textQuery? s =
        some ⟨fuzzifyText c.search.fuzziness s.freeText, s.searchField, some c.search.operator⟩ := by
      rw [textQuery?, htext]
      rfl
    rw [textCriteria, textCriteria, hq] at htexts
    have hq' := htexts.eq_singleton
    cases hq'' : c.textQuery? s' with
    | none => rw [hq''] at hq'; cases hq'
    | some q =>
      rw [hq''] at hq'
      have hsame := Criterion.text.inj (List.cons.inj hq').1
      rw [textQuery?] at hq''
      split at hq''
      · cases hq''
      · cases hq''
        exact congrArg TextQuery.field hsame

/-- In every sound configuration the state of commands with values from texts comes back. -/
private theorem comesBack_run (hc : c.Sound) {cmds : List Command} (htext : ∀ cmd ∈ cmds, cmd.FromText)
    (hs : s = c.run c.startState cmds) (hfilters : c.FiltersApart s) :
    ∀ s' ∈ [c.run c.startState (c.recoverJson (c.compile s).toJson), c.run c.startState (c.recover (c.compile s))],
      c.ComesBack s' s := by
  have hcoherent : s.Coherent := hs ▸ run_coherent c cmds
  have hreadable : s.Readable := hs ▸ run_readable htext
  -- no criterion is passed over, and in the query that was not written even fewer clauses equal filters
  have hkept : ∀ k ∈ c.criteria s, c.skips Clause.reread s k = false := by
    intro k hk
    have hnone : ∀ q ∈ k.clause :: (c.enclosing s (k.place c)).map Clause.reread, c.isImplied q = false := by
      intro q hq
      rw [Bool.eq_false_iff]
      intro himplied
      obtain ⟨e, he, hsame⟩ := isImplied_iff.1 himplied
      rw [hfilters k hk q hq e he] at hsame
      cases hsame
    rw [skips, hnone _ (List.mem_cons_self ..), Bool.false_or, List.any_eq_false]
    intro q hq himplied
    rw [hnone _ (List.mem_cons_of_mem _ (List.mem_map.2 ⟨q, hq, rfl⟩))] at himplied
    cases himplied
  intro s' hs'
  rcases List.mem_cons.1 hs' with rfl | hs'
  · exact comesBack_of_reopened (reopened hc hcoherent hreadable) hkept
  · rw [List.mem_singleton.1 hs']
    refine comesBack_of_reopened (reopened_built hc hcoherent hreadable) fun k hk => ?_
    rw [Bool.eq_false_iff]
    intro hskips
    have hskips := skips_reread hc hskips
    rw [hkept k hk] at hskips
    cases hskips

/-- With settings files that were read, the state of commands with values from texts comes back if no filter equals the
clause of a criterion or a clause around one. -/
theorem loaded_same_state {t : FileTree} {paths : List String} (hload : loadFiles t paths = .ok c)
    {cmds : List Command} (htext : ∀ cmd ∈ cmds, cmd.FromText) (hs : s = c.run c.startState cmds)
    (hfilters : c.FiltersApart s) :
    ∀ s' ∈ [c.run c.startState (c.recoverJson (c.compile s).toJson), c.run c.startState (c.recover (c.compile s))],
      c.ComesBack s' s :=
  comesBack_run (sound_of_loadFiles hload) htext hs hfilters

end Config

/-- A state that commands with values from texts lead to is compiled, and the commands recovered from its document
are carried out anew, whether the document was written and read or not.  If no filter equals the clause of a criterion
or a clause around one, the same selections and ranges come back, the same sort keys and search field, and the same
query. -/
theorem reopened_same_state (sources : List Source) (c : Config) (hmerge : Config.merge sources = .ok c)
    (hproper : ∀ src ∈ sources, ∀ e ∈ src.layer.filters, e.2.Proper) (cmds : List Command)
    (htext : ∀ cmd ∈ cmds, cmd.FromText)
    (hfilters : let s := c.run c.startState cmds
      ∀ k ∈ c.criteria s, ∀ q ∈ k.clause :: (c.enclosing s (k.place c)).map Clause.reread, ∀ e ∈ c.filters,
        (Clause.ofJson e.2).same q = false) :
    let s := c.run c.startState cmds
    let first := c.compile s
    ∀ s' ∈ [c.run c.startState (c.recoverJson first.toJson), c.run c.startState (c.recover first)],
      s'.selections.Perm s.selections ∧
        s'.ranges.Perm (s.ranges.filter fun r => (c.facets[r.facet]?).isSome) ∧ s'.sort = s.sort ∧
        (isBlankText s.freeText = false → s'.searchField = s.searchField) ∧
        (c.compile s').query = first.query :=
  Config.comesBack_run (Config.sound_of_merge hmerge hproper) htext rfl hfilters

/-- A group under a nested prefix, a range and a free text come back, beside a filter on another field. -/
theorem reopened_group_range_text :
    let c : Config := {
      search := { fuzziness := .approximate }
      facets := [{ field := "year" }]
      nested := ["stats"]
      filters := [("live", .keyed "term" (.keyed "live" (.bool true)))]
      root := some "" }
    let s := c.run c.startState [.addSelection "stats.color" (.term "red") (some .or), .setRange 0 "1990" "2000",
      .setFreeText "storm", .addSelection "stats.color" .undefined none]
    let s' := c.run c.startState (c.recoverJson (c.compile s).toJson)
    s.selections.length = 2 ∧ s.ranges.length = 1 ∧ s'.selections.Perm s.selections ∧
      (c.compile s').query = (c.compile s).query := by
  intro c s s'
  have hmerge : Config.merge [⟨"search.toml", {
      search := { fuzziness := some .approximate }
      facets := some [{ field := some "year" }]
      nested := some ["stats"]
      filters := [("live", .keyed "term" (.keyed "live" (.bool true)))] }⟩] = .ok c := by rfl
  have hround := reopened_same_state _ c hmerge
    (fun src hsrc e he => by
      rw [List.mem_singleton.1 hsrc] at he
      rw [List.mem_singleton.1 he]
      exact Json.proper_keyed (Json.proper_keyed (Json.proper_of_sound trivial nofun nofun)))
    [.addSelection "stats.color" (.term "red") (some .or), .setRange 0 "1990" "2000", .setFreeText "storm",
      .addSelection "stats.color" .undefined none]
    (fun cmd hcmd => by
      simp only [List.mem_cons, List.not_mem_nil, or_false] at hcmd
      rcases hcmd with rfl | rfl | rfl | rfl
      · exact ⟨"red", rfl⟩
      · trivial
      · trivial
      · exact ⟨"undefined", rfl⟩)
    (by decide) s' (List.mem_cons_self ..)
  exact ⟨by decide, by decide, hround.1, hround.2.2.2.2⟩

end FacetedSearch
