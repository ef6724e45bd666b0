import FacetedSearch.Proofs.Recover.RoundTrip
import FacetedSearch.Proofs.Selection.Rewound
import FacetedSearch.Proofs.Session.Run

/-!
# The page and the sort keys of a reopened state

A document holds the page size when it is not the configured one, but the offset when it is not zero.  A session starts
at the configured offset, though, and it is the commands of the link that take it back to zero, so a link without any
commands leaves it where it started.

* `changesSelection_recoverClause`: what comes from a query is about the selection.
* `run_pageCommands`: what the rest of a document restores.
* `reopened_page_sort`: the page and the sort keys that come back.
* `reopened_past_first_page`: the first page is lost when the configured page is a later one.
-/

namespace FacetedSearch

namespace Config

variable {c : Config} {s t : SearchState}

/-! ### Commands of a query -/

private theorem changesSelection_recoverMember {q : Clause} {cmd : Command} (h : recoverMember q = some cmd) :
    cmd.changesSelection = true := by
  cases q <;> cases h <;> rfl

mutual

/-- All that is recovered from a query is about the selection. -/
theorem changesSelection_recoverClause (c : Config) (q : Clause) :
    ∀ cmd ∈ c.recoverClause q, cmd.changesSelection = true := by
  intro cmd hcmd
  rw [recoverClause.eq_def] at hcmd
  split at hcmd
  · cases hcmd
  · cases q with
    | matchAll | raw _ => cases hcmd
    | term _ _ | missing _ =>
      rw [List.mem_singleton.1 hcmd]
      rfl
    | range f low high =>
      simp only at hcmd
      split at hcmd
      · rw [List.mem_singleton.1 hcmd]
        rfl
      · cases hcmd
    | text q =>
      rcases List.mem_cons.1 hcmd with rfl | hcmd
      · rfl
      · split at hcmd
        · rw [List.mem_singleton.1 hcmd]
          rfl
        · cases hcmd
    | bool m vs =>
      rcases List.mem_append.1 hcmd with hcmd | hcmd
      · exact changesSelection_recoverList c m cmd hcmd
      · obtain ⟨v, -, hv⟩ := List.mem_filterMap.1 hcmd
        exact changesSelection_recoverMember hv
    | and qs => exact changesSelection_recoverList c qs cmd hcmd
    | nested _ q => exact changesSelection_recoverClause c q cmd hcmd
    | filtered q f =>
      rcases List.mem_append.1 hcmd with hcmd | hcmd
      · exact changesSelection_recoverClause c q cmd hcmd
      · exact changesSelection_recoverClause c f cmd hcmd

private theorem changesSelection_recoverList (c : Config) (qs : List Clause) :
    ∀ cmd ∈ c.recoverList qs, cmd.changesSelection = true := by
  intro cmd hcmd
  cases qs with
  | nil => cases hcmd
  | cons q qs =>
    rcases List.mem_append.1 hcmd with hcmd | hcmd
    · exact changesSelection_recoverClause c q cmd hcmd
    · exact changesSelection_recoverList c qs cmd hcmd

end

/-! ### Commands of the page -/

private theorem pageCommands_eq_nil (hsort : s.sort = []) (hsize : s.page.size = c.paging.size)
    (hoffset : s.page.offset = 0) : c.pageCommands s = [] := by
  simp [pageCommands, compile, recoverSort, hsort, hsize, hoffset]

/-- The end of a document brings back the sort keys and the page, but it leaves the offset of the state as it is when
it has nothing to say. -/
private theorem run_pageCommands (hsort : t.sort = []) (hsize : t.page.size = c.paging.size) :
    c.run t (c.pageCommands s) =
      { t with
        sort := s.sort
        page := ⟨if s.page.offset ≠ 0 then s.page.offset
          else if s.sort = [] ∧ s.page.size = c.paging.size then t.page.offset else 0, s.page.size⟩ } := by
  have hkeys : c.run t (recoverSort (c.compile s).sort) =
      { t with sort := s.sort, page := ⟨if s.sort = [] then t.page.offset else 0, t.page.size⟩ } := by
    show c.run t (recoverSort (s.sort.map SortKey.toJson)) = _
    cases hkeys : s.sort with
    | nil =>
      show t = _
      rw [if_pos rfl, ← hsort]
    | cons k ks =>
      have hcmd : recoverSort ((k :: ks).map SortKey.toJson) = [.setSort (k :: ks)] :=
        congrArg (fun keys => [Command.setSort keys]) (readSortKeys (k :: ks))
      have hnew : t.sort ≠ k :: ks := by simp [hsort]
      rw [hcmd, if_neg (List.cons_ne_nil k ks)]
      show (t.setSort (k :: ks)).1 = _
      rw [SearchState.setSort, if_neg hnew]
      rfl
  rw [pageCommands, run_append, run_append, hkeys]
  by_cases hsizes : s.page.size = c.paging.size <;> by_cases hoffset : s.page.offset = 0 <;>
    simp [compile, run, apply, SearchState.setSize, SearchState.setOffset, hsizes, hoffset, hsize]

/-! ### A session that opens a link -/

/-- The commands of a link neither go to the next page nor change the order of a facet. -/
private theorem recoverJson_compile_kinds {cmd : Command} (h : cmd ∈ c.recoverJson (c.compile s).toJson) :
    cmd ≠ .nextPage ∧ ∀ i, cmd ≠ .cycleFacetOrder i := by
  rw [recoverJson_compile, pageCommands] at h
  rcases List.mem_append.1 h with h | h
  · have hkind := changesSelection_recoverClause c _ cmd h
    constructor
    · rintro rfl
      cases hkind
    · rintro i rfl
      cases hkind
  · have hpage : (∃ sort, cmd = .setSort sort) ∨ (∃ size, cmd = .setPageSize size) ∨ ∃ offset, cmd = .setPage offset := by
      simp only [List.mem_append, Option.mem_toList, Option.map_eq_some_iff] at h
      rcases h with (h | ⟨size, -, rfl⟩) | ⟨offset, -, rfl⟩
      · left
        generalize (c.compile s).sort = keys at h
        cases keys with
        | nil => cases h
        | cons k ks => exact ⟨_, List.mem_singleton.1 h⟩
      · exact Or.inr (Or.inl ⟨size, rfl⟩)
      · exact Or.inr (Or.inr ⟨offset, rfl⟩)
    rcases hpage with ⟨_, rfl⟩ | ⟨_, rfl⟩ | ⟨_, rfl⟩ <;> exact ⟨Command.noConfusion, fun _ => Command.noConfusion⟩

/-! ### The state that results -/

/-- Opening what was compiled carries out the commands of the query first, and then those of the page. -/
private theorem run_recoverJson (c : Config) (s : SearchState) :
    ∃ t, c.startState.Rewound t ∧
      c.run c.startState (c.recoverJson (c.compile s).toJson) = c.run t (c.pageCommands s) := by
  refine ⟨_, rewound_run c _ (changesSelection_recoverClause c (c.compileQuery s).reread), ?_⟩
  rw [recoverJson_compile, run_append]

/-- At offset zero, a reopened state that is not the first one again has gone back to the start on the way. -/
private theorem offset_reopened {s' : SearchState}
    (hs' : s' = c.run c.startState (c.recoverJson (c.compile s).toJson)) (hoffset : s.page.offset = 0) :
    s' = c.startState ∨ s'.page.offset = 0 := by
  obtain ⟨t, ht, hrun⟩ := run_recoverJson c s
  rw [hrun] at hs'
  by_cases hsilent : s.sort = [] ∧ s.page.size = c.paging.size
  · have hsame : s' = t := by
      rw [hs', pageCommands_eq_nil hsilent.1 hsilent.2 hoffset]
      rfl
    rw [hsame]
    exact ht.offset
  · right
    rw [run_pageCommands ht.sort ht.size] at hs'
    simp [hs', hoffset, hsilent]

/-- A reopened state is the first one again just when its link has nothing to say: no criterion comes back, and the
page and the sort keys are those that a session starts with. -/
private theorem reopened_eq_startState_iff (hc : c.Sound) (hs : s.Coherent) (hr : s.Readable)
    (hoffset : s.page.offset = 0) :
    c.run c.startState (c.recoverJson (c.compile s).toJson) = c.startState ↔
      s.sort = [] ∧ s.page.size = c.paging.size ∧ ∀ k ∈ c.criteria s, c.skips Clause.reread s k = true := by
  constructor
  · intro hstart
    obtain ⟨t, ht, hrun⟩ := run_recoverJson c s
    have hpage := (hrun.trans (run_pageCommands ht.sort ht.size)).symm.trans hstart
    refine ⟨congrArg SearchState.sort hpage, congrArg (fun s => s.page.size) hpage, fun k hk => ?_⟩
    -- a criterion that comes back would be one of the first state
    cases hskips : c.skips Clause.reread s k with
    | true => rfl
    | false =>
      have hback := (reopened hc hs hr).kinds.mem_criteria_iff.2 (mem_recovered_iff.2 ⟨hk, hskips⟩)
      rw [hstart] at hback
      cases hback
  · rintro ⟨hsort, hsize, hall⟩
    have hrecovered : c.recovered Clause.reread s = [] := by
      rw [List.eq_nil_iff_forall_not_mem]
      intro k hk
      obtain ⟨hmem, hskips⟩ := mem_recovered_iff.1 hk
      rw [hall k hmem] at hskips
      cases hskips
    rw [recoverJson_compile, recoverClause_reread hc (valid_of_mem_criteria hs hr), hrecovered,
      pageCommands_eq_nil hsort hsize hoffset]
    rfl

end Config

/-- A state is compiled, and the commands recovered from the written document are carried out in a new session.  The
sort keys and the page size come back, and the offset does unless it is zero, the configured one is not, and nothing
that was chosen comes back.  When the values of the state can be read from texts, this last case is that of a state
with no sort keys and the configured page size, all of whose criteria are passed over. -/
theorem reopened_page_sort (c : Config) (cmds : List Command) :
    let s := c.run c.startState cmds
    let back := c.recoverJson (c.compile s).toJson
    let s' := c.run c.startState back
    ((Session.new c).dispatchAll back).state = s' ∧ s'.sort = s.sort ∧ s'.page.size = s.page.size ∧
      (s'.page.offset = s.page.offset ↔ s.page.offset ≠ 0 ∨ c.paging.offset = 0 ∨ s' ≠ c.startState) ∧
      (c.Sound → s.Readable → s.page.offset = 0 →
        (s' = c.startState ↔ s.sort = [] ∧ s.page.size = c.paging.size ∧
          ∀ k ∈ c.criteria s, c.skips Clause.reread s k = true)) := by
  intro s back s'
  obtain ⟨t, ht, hrun⟩ := Config.run_recoverJson c s
  have hpage : s' = _ := hrun.trans (Config.run_pageCommands ht.sort ht.size)
  refine ⟨Session.state_dispatchAll _ fun _ hcmd => Config.recoverJson_compile_kinds hcmd, by rw [hpage], by rw [hpage],
    ?_, fun hc hr => Config.reopened_eq_startState_iff hc (Config.run_coherent c cmds) hr⟩
  by_cases hoffset : s.page.offset = 0
  · have hzero : s' = c.startState ∨ s'.page.offset = 0 := Config.offset_reopened rfl hoffset
    rw [hoffset]
    constructor
    · intro hback
      by_cases hstart : s' = c.startState
      · have hpaging : c.startState.page.offset = 0 := hstart ▸ hback
        exact Or.inr (Or.inl hpaging)
      · exact Or.inr (Or.inr hstart)
    · rintro (hnot | hpaging | hstart)
      · exact absurd rfl hnot
      · rcases hzero with hstart | hback
        · rw [hstart]
          exact hpaging
        · exact hback
      · exact hzero.resolve_left hstart
  · exact iff_of_true (by simp [hpage, hoffset]) (Or.inl hoffset)

/-- The only selection equals a filter, so the link says nothing, and the session stays where it started. -/
theorem reopened_with_filter_only :
    let c : Config := {
      paging := ⟨10, 10⟩
      filters := [("red", .keyed "term" (.keyed "color" (.str "red")))]
      root := some "" }
    let s := c.run c.startState [.addSelection "color" (.term "red") (some .and)]
    let s' := c.run c.startState (c.recoverJson (c.compile s).toJson)
    c.Sound ∧ s.Readable ∧ s.page.offset = 0 ∧ s' = c.startState := by
  intro c s s'
  have hmerge : Config.merge [⟨"search.toml", {
      paging := { offset := some 10 }
      filters := [("red", .keyed "term" (.keyed "color" (.str "red")))] }⟩] = .ok c := by rfl
  have hc : c.Sound := Config.sound_of_merge hmerge fun src hsrc e he => by
    rw [List.mem_singleton.1 hsrc] at he
    rw [List.mem_singleton.1 he]
    exact Json.proper_keyed (Json.proper_keyed (Json.proper_of_sound trivial nofun nofun))
  have hr : s.Readable := Config.run_readable fun cmd hcmd => by
    rw [List.mem_singleton.1 hcmd]
    exact ⟨"red", rfl⟩
  have hsilent := (reopened_page_sort c [.addSelection "color" (.term "red") (some .and)]).2.2.2.2 hc hr rfl
  exact ⟨hc, hr, rfl, hsilent.2 (by decide)⟩

/-- A session that starts on the second page goes back to the first one, and its link leads to the second page. -/
theorem reopened_past_first_page :
    let c : Config := { paging := ⟨10, 10⟩, root := some "" }
    let s := c.run c.startState [.previousPage]
    let s' := c.run c.startState (c.recoverJson (c.compile s).toJson)
    Config.merge [⟨"search.toml", { paging := { offset := some 10 } }⟩] = .ok c ∧ s.page.offset = 0 ∧
      s'.page.offset = 10 :=
  ⟨by rfl, by decide, by decide⟩

end FacetedSearch
