import FacetedSearch.Proofs.Session.Displayed
import FacetedSearch.Proofs.View.Rearranged

/-!
# Orders change nothing else

When a facet gets its next order, the views are made anew from the results and from themselves.  What they hold stays
the same, values that were carried over included, and from then on a session goes the same way as one whose orders were
left alone: each step takes sessions that differ in orders and sequences alone to such sessions again.

* `ValueOrder.round`: the orders in the sequence in which they follow one another.
* `Session.Rearranged`: two sessions are the same but for the orders and the sequences in the views.
* `rearranged_cycleOrder`: a session before and after an order change.
* `Rearranged.dispatch`, `Rearranged.complete`: every step keeps sessions so.
* `cycled_order_only_reorders`: an order change, and all that may come after it.
-/

namespace FacetedSearch

/-- The orders in the sequence in which they follow one another, back to the first one. -/
def ValueOrder.round : List ValueOrder := [.term, .reverseTerm, .count, .reverseCount, .term]

theorem ValueOrder.next_in_round (o : ValueOrder) : [o, o.next] <:+: round := by
  cases o <;> decide

namespace Config

variable {c d : Config}

/-! ### Orders and commands -/

private theorem Reordered.operator_eq (h : c.Reordered d) (key : String) :
    (d.facet? key).map (·.operator) = (c.facet? key).map (·.operator) := by
  obtain ⟨facets, hfacets, rfl⟩ := h
  have hfind := congrArg (fun fs : List Facet => (fs.find? (·.field == key)).map (·.operator)) hfacets
  simp only [List.find?_map, Option.map_map] at hfind
  exact hfind

private theorem nodeLeaves?_eq_bind (c : Config) (i : Nat) (path : List String) :
    c.nodeLeaves? i path = ((c.facets[i]?).map (·.field)).bind fun field =>
      (c.hierarchy? field).bind fun ts => (ValueTree.find? ts path).bind fun t => some (field, t.leaves) := by
  rw [Option.bind_map]
  rfl

private theorem Reordered.nodeLeaves?_eq (h : c.Reordered d) (i : Nat) (path : List String) :
    d.nodeLeaves? i path = c.nodeLeaves? i path := by
  rw [nodeLeaves?_eq_bind, nodeLeaves?_eq_bind, h.field_eq i]
  obtain ⟨facets, -, rfl⟩ := h
  rfl

/-- Commands do the same in every order of the facets. -/
theorem Reordered.apply_eq (h : c.Reordered d) (s : SearchState) (cmd : Command) : d.apply s cmd = c.apply s cmd := by
  have hlogic : ∀ key l, d.resolveLogic s key l = c.resolveLogic s key l := by
    intro key l
    rw [resolveLogic, resolveLogic, h.operator_eq]
  cases cmd with
  | addSelection key v l => rw [apply, apply, hlogic]
  | selectNode i path =>
    rw [apply, apply, h.nodeLeaves?_eq]
    simp only [hlogic]
  | deselectNode i path => rw [apply, apply, h.nodeLeaves?_eq]
  | _ => rfl

/-! ### The next order of a facet -/

/-- The configuration in which a facet has its next order. -/
def cycled (c : Config) (i : Nat) : Config :=
  { c with facets := c.facets.modify i fun f => { f with order := f.order.next } }

theorem reordered_cycled (c : Config) (i : Nat) : c.Reordered (c.cycled i) := by
  refine ⟨_, ?_, rfl⟩
  apply List.ext_getElem?
  intro j
  rw [List.getElem?_map, List.getElem?_map, List.getElem?_modify]
  cases c.facets[j]? with
  | none => rfl
  | some f => by_cases hij : i = j <;> simp [hij, Facet.unordered]

theorem facet_cycled {i : Nat} {f : Facet} (hf : c.facets[i]? = some f) :
    (c.cycled i).facets[i]? = some { f with order := f.order.next } := by
  rw [cycled, List.getElem?_modify_eq, hf]
  rfl

theorem facet_cycled_of_ne {i j : Nat} (hij : i ≠ j) : (c.cycled i).facets[j]? = c.facets[j]? := by
  exact List.getElem?_modify_ne _ _ hij

theorem Reordered.cycled (h : c.Reordered d) (i : Nat) : (c.cycled i).Reordered (d.cycled i) :=
  (reordered_cycled c i).symm.trans (h.trans (reordered_cycled d i))

end Config

namespace Session

variable {s t : Session}

/-- The views made anew by a configuration; without results they stay. -/
def viewsBy (s : Session) (c : Config) : List FacetView :=
  match s.results with
  | some r => c.aggregate r.facets s.state s.views
  | none => s.views

theorem cycleOrder_of_lt {i : Nat} (hi : i < s.config.facets.length) :
    s.cycleOrder i = { s with config := s.config.cycled i, views := s.viewsBy (s.config.cycled i) } := by
  have hcycled : s.config.cycled i = { s.config with
      facets := s.config.facets.set i { s.config.facets[i] with order := s.config.facets[i].order.next } } := by
    rw [Config.cycled, List.modify_eq_set_getElem?, List.getElem?_eq_getElem hi]
    rfl
  rw [hcycled, cycleOrder, List.getElem?_eq_getElem hi]
  rfl

theorem cycleOrder_of_le {i : Nat} (hi : s.config.facets.length ≤ i) : s.cycleOrder i = s := by
  rw [cycleOrder, List.getElem?_eq_none hi]

theorem config_cycleOrder (s : Session) (i : Nat) : (s.cycleOrder i).config = s.config.cycled i := by
  rcases Nat.lt_or_ge i s.config.facets.length with hi | hi
  · rw [cycleOrder_of_lt hi]
  · rw [cycleOrder_of_le hi, Config.cycled, List.modify_eq_self hi]

/-- A view has the order of its facet. -/
theorem Displays.order_eq (h : s.Displays) {i : Nat} {f : Facet} {view : FacetView} (hf : s.config.facets[i]? = some f)
    (hview : s.views[i]? = some view) : view.order = f.order := by
  rw [Displays] at h
  split at h
  · rw [h] at hview
    cases hview
  · obtain ⟨state, previous, hviews⟩ := h
    rw [hviews, Config.aggregate, List.getElem?_map, hf] at hview
    cases hview
    rfl

/-- The second session is the first one but for the orders of the facets and the sequences in the views. -/
def Rearranged (s t : Session) : Prop :=
  ∃ config views, s.config.Reordered config ∧ List.Forall₂ FacetView.Rearranged s.views views ∧
    t = { s with config, views }

/-- An order change rearranges the views, and nothing else. -/
theorem rearranged_cycleOrder (h : s.Displays) (i : Nat) : s.Rearranged (s.cycleOrder i) := by
  have hsame : List.Forall₂ FacetView.Rearranged s.views s.views := List.forall₂_same.2 fun v _ => .refl v
  rcases Nat.lt_or_ge i s.config.facets.length with hi | hi
  · rw [cycleOrder_of_lt hi]
    refine ⟨_, _, s.config.reordered_cycled i, ?_, rfl⟩
    rw [Displays] at h
    rw [viewsBy]
    cases hresults : s.results with
    | none => exact hsame
    | some r =>
      -- the views that are made anew come from the same results
      rw [hresults] at h
      obtain ⟨state, previous, hviews⟩ := h
      rw [hviews]
      exact Config.rearranged_again (s.config.reordered_cycled i) r.facets state s.state previous
  · rw [cycleOrder_of_le hi]
    exact ⟨s.config, s.views, .refl _, hsame, rfl⟩

namespace Rearranged

/-! ### Every step keeps sessions the same up to order -/

theorem cycleOrder (h : s.Rearranged t) (i : Nat) : (s.cycleOrder i).Rearranged (t.cycleOrder i) := by
  obtain ⟨config, views, hconfig, hviews, rfl⟩ := h
  have hlength : config.facets.length = s.config.facets.length := hconfig.facets.length_eq.symm
  rcases Nat.lt_or_ge i s.config.facets.length with hi | hi
  · rw [cycleOrder_of_lt hi, cycleOrder_of_lt (s := { s with config, views }) (by rw [hlength]; exact hi)]
    refine ⟨_, _, hconfig.cycled i, ?_, rfl⟩
    simp only [viewsBy]
    cases s.results with
    | none => exact hviews
    | some r => exact Config.rearranged_aggregate (hconfig.cycled i) r.facets s.state s.state hviews
  · rw [cycleOrder_of_le hi, cycleOrder_of_le (s := { s with config, views }) (by rw [hlength]; exact hi)]
    exact ⟨config, views, hconfig, hviews, rfl⟩

theorem change (h : s.Rearranged t) (cmd : Command) : (s.change cmd).Rearranged (t.change cmd) := by
  obtain ⟨config, views, hconfig, hviews, rfl⟩ := h
  simp only [Session.change, hconfig.apply_eq]
  split
  · exact ⟨config, views, hconfig, hviews, rfl⟩
  · exact ⟨config, views, hconfig, hviews, rfl⟩

theorem dispatch (h : s.Rearranged t) (cmd : Command) : (s.dispatch cmd).Rearranged (t.dispatch cmd) := by
  have hlast : t.onLastPage = s.onLastPage := by
    obtain ⟨config, views, -, -, rfl⟩ := h
    rfl
  cases cmd with
  | cycleFacetOrder i => exact h.cycleOrder i
  | nextPage =>
    rw [Session.dispatch, Session.dispatch, hlast]
    split
    · exact h
    · exact h.change .nextPage
  | _ => exact h.change _

theorem beginSearch (h : s.Rearranged t) : s.beginSearch.1.Rearranged t.beginSearch.1 := by
  obtain ⟨config, views, hconfig, hviews, rfl⟩ := h
  exact ⟨config, views, hconfig, hviews, rfl⟩

/-- The outcomes of two tickets, which may ask for the values of the facets in different orders. -/
theorem complete (h : s.Rearranged t) {a b : Ticket} (hgen : b.generation = a.generation) (hpage : b.page = a.page)
    (o : Outcome) : (s.complete a o).1.Rearranged (t.complete b o).1 := by
  obtain ⟨config, views, hconfig, hviews, rfl⟩ := h
  by_cases hcurrent : a.generation = s.generation
  · have hcurrent' : b.generation = s.generation := hgen.trans hcurrent
    cases o with
    | ok r =>
      have hresults : config.results = s.config.results := by
        obtain ⟨_, -, rfl⟩ := hconfig
        rfl
      rw [complete_ok hcurrent, complete_ok (s := { s with config, views }) hcurrent', hpage]
      simp only [Config.reduce_congr hresults]
      refine ⟨config, _, hconfig, ?_, rfl⟩
      refine Config.rearranged_aggregate hconfig _ s.state s.state ?_
      split
      · exact hviews
      · exact .nil
    | error e =>
      rw [complete_error hcurrent, complete_error (s := { s with config, views }) hcurrent']
      exact ⟨config, views, hconfig, hviews, rfl⟩
  · rw [complete_stale hcurrent, complete_stale (s := { s with config, views }) (hgen ▸ hcurrent)]
    exact ⟨config, views, hconfig, hviews, rfl⟩

end Rearranged

end Session

/-! ### Runs -/

/-- A step of a session.  An outcome is for one of the tickets that were issued, counted from the newest one. -/
inductive Step
  | command (cmd : Command)
  | search
  | outcome (i : Nat) (o : Outcome)

namespace History

/-- Takes a step; an outcome for a ticket that was not issued is none. -/
def step (h : History) : Step → History
  | .command cmd => h.dispatch cmd
  | .search => h.beginSearch
  | .outcome i o =>
    match h.issued[i]? with
    | some t => h.complete t o
    | none => h

/-- Takes steps one after the other. -/
def steps (h : History) (xs : List Step) : History := xs.foldl step h

/-- Histories of sessions that are the same up to order, with tickets for the same pages. -/
structure Rearranged (g h : History) : Prop where
  session : g.session.Rearranged h.session
  issued : List.Forall₂ (fun t u : Ticket => u.generation = t.generation ∧ u.page = t.page) g.issued h.issued

variable {g h : History}

theorem Rearranged.step (hgh : g.Rearranged h) (x : Step) : (g.step x).Rearranged (h.step x) := by
  cases x with
  | command cmd => exact ⟨hgh.session.dispatch cmd, hgh.issued⟩
  | search =>
    refine ⟨hgh.session.beginSearch, .cons ?_ hgh.issued⟩
    obtain ⟨_, _, -, -, hsession⟩ := hgh.session
    rw [hsession]
    exact ⟨rfl, rfl⟩
  | outcome i o =>
    rcases Nat.lt_or_ge i g.issued.length with hi | hi
    · have hi' : i < h.issued.length := hgh.issued.length_eq ▸ hi
      obtain ⟨hgen, hpage⟩ := hgh.issued.get hi hi'
      simp only [History.step, List.getElem?_eq_getElem hi, List.getElem?_eq_getElem hi']
      exact ⟨hgh.session.complete hgen hpage o, hgh.issued⟩
    · have hi' : h.issued.length ≤ i := hgh.issued.length_eq ▸ hi
      simp only [History.step, List.getElem?_eq_none hi, List.getElem?_eq_none hi']
      exact hgh

theorem Rearranged.steps (hgh : g.Rearranged h) (xs : List Step) : (g.steps xs).Rearranged (h.steps xs) := by
  induction xs generalizing g h with
  | nil => exact hgh
  | cons x xs ih => exact ih (hgh.step x)

end History

/-- An order change only reorders, at any point of any run.  The state, the flag for changes, the status and the results
stay.  The facet gets the order that follows its own if it exists, and so does its view if there is one; the other
facets and the rest of the configuration stay.  Each view holds the same values or nodes with the same counts, in
another order.  After the same steps from there on, a session whose order was changed and one whose order was not are
the same but for orders, so responses carry over the same values.  Offsets and the counts of a hierarchy are taken to
add up to 64-bit numbers. -/
theorem cycled_order_only_reorders (c : Config) (h : History) (hreached : Reached c h) (i : Nat) :
    let after := h.session.dispatch (.cycleFacetOrder i)
    after.state = h.session.state ∧ after.dirty = h.session.dirty ∧ after.status = h.session.status ∧
      after.results = h.session.results ∧
      (∀ f, h.session.config.facets[i]? = some f → ∃ o, [f.order, o] <:+: ValueOrder.round ∧
        after.config.facets[i]? = some { f with order := o } ∧
        ∀ view, after.views[i]? = some view → view.order = o) ∧
      (∀ j, i ≠ j → after.config.facets[j]? = h.session.config.facets[j]?) ∧
      after.config = h.session.config.cycled i ∧
      List.Forall₂ FacetView.Rearranged h.session.views after.views ∧
      ∀ xs, (h.steps xs).session.Rearranged ((h.dispatch (.cycleFacetOrder i)).steps xs).session := by
  intro after
  have hdisplays := run_displays hreached.run
  have hsession : h.session.Rearranged after := Session.rearranged_cycleOrder hdisplays i
  have hhistory : h.Rearranged (h.dispatch (.cycleFacetOrder i)) :=
    ⟨hsession, List.forall₂_same.2 fun _ _ => ⟨rfl, rfl⟩⟩
  have hconfig : after.config = h.session.config.cycled i := Session.config_cycleOrder ..
  have hfacet : ∀ f, h.session.config.facets[i]? = some f →
      after.config.facets[i]? = some { f with order := f.order.next } := fun f hf => by
    rw [hconfig, Config.facet_cycled hf]
  have hother : ∀ j, i ≠ j → after.config.facets[j]? = h.session.config.facets[j]? := fun j hij => by
    rw [hconfig, Config.facet_cycled_of_ne hij]
  have hafter : after.Displays := Session.displays_cycleOrder hdisplays i
  have horder : ∀ f, h.session.config.facets[i]? = some f → ∀ view, after.views[i]? = some view →
      view.order = f.order.next := fun f hf view hview => hafter.order_eq (hfacet f hf) hview
  obtain ⟨config, views, -, hviews, heq⟩ := hsession
  refine ⟨?_, ?_, ?_, ?_, fun f hf => ⟨_, f.order.next_in_round, hfacet f hf, horder f hf⟩, hother, hconfig, ?_,
    fun xs => (hhistory.steps xs).session⟩
  all_goals rw [heq]
  exact hviews

/-- A size that only an earlier answer counted is still listed after an order change, now in the reverse order of terms,
and it stays with the size of the next answer in any case.  Four changes go through all orders and back. -/
theorem zero_kept_in_next_order :
    let c : Config := { facets := [{ field := "size" }] }
    let counting (v : String) : Response :=
      { facets := [("size", .obj [("terms", .arr [.obj [("term", .str v), ("count", .ofNat 2)]])])] }
    let next : List Step := [.search, .outcome 0 (.ok (counting "L"))]
    let change : Step := .command (.cycleFacetOrder 0)
    ∃ h : History, Reached c h ∧
      (∃ view, (h.session.dispatch (.cycleFacetOrder 0)).views = [view] ∧ view.order = .reverseTerm ∧
        ("S", 0) ∈ view.values.map FacetValue.counted ∧ ("M", 2) ∈ view.values.map FacetValue.counted) ∧
      (∃ view, ((h.dispatch (.cycleFacetOrder 0)).steps next).session.views = [view] ∧
        ("S", 0) ∈ view.values.map FacetValue.counted) ∧
      ([1, 2, 3, 4].map fun n => (h.steps (List.replicate n change)).session.config.facets.map Facet.order) =
        [[.reverseTerm], [.count], [.reverseCount], [.term]] := by
  intro c counting next change
  let first : History := History.beginSearch { session := .new c }
  let answered := first.complete (Session.new c).beginSearch.2 (.ok (counting "S"))
  let h := answered.beginSearch.complete answered.session.beginSearch.2 (.ok (counting "M"))
  have hreached : Reached c h :=
    .complete (.beginSearch (.complete (.beginSearch .new) (List.mem_singleton.2 rfl) _)) (List.mem_cons_self ..) _
  obtain ⟨-, -, -, -, hnext, -, -, hviews, hlater⟩ := cycled_order_only_reorders c h hreached 0
  have hread : ∀ v, Config.readCounts (counting v).facets = [("size", { terms := [(v, 2)] })] := fun _ =>
    List.mergeSort_singleton _
  -- each answer lists its own size before those that were listed, which is the order of terms already
  let sizes (vs : List FacetValue) : List FacetView := [⟨"size", "size", .term, .and, .flat vs⟩]
  have hsizes : ∀ vs : List FacetValue, (vs.Pairwise fun x y =>
      ValueOrder.term.before (x.value, x.count) (y.value, y.count) = true) →
      sizes (ValueOrder.term.sortValues vs) = sizes vs := fun vs hvs => by rw [ValueOrder.sortValues_eq_self hvs]
  have hfirst : answered.session.views = sizes [⟨"S", 2, true⟩] := by
    show c.aggregate (Config.readCounts (counting "S").facets) answered.session.state [] = _
    rw [hread]
    exact hsizes [⟨"S", 2, true⟩] (by decide)
  have hnow : h.session.views = sizes [⟨"M", 2, true⟩, ⟨"S", 0, false⟩] := by
    show c.aggregate (Config.readCounts (counting "M").facets) h.session.state answered.session.views = _
    rw [hread, hfirst]
    exact hsizes [⟨"M", 2, true⟩, ⟨"S", 0, false⟩] (by decide)
  have hthen : (h.steps next).session.views = sizes [⟨"L", 2, true⟩, ⟨"M", 0, false⟩, ⟨"S", 0, false⟩] := by
    show c.aggregate (Config.readCounts (counting "L").facets) h.session.state h.session.views = _
    rw [hread, hnow]
    exact hsizes [⟨"L", 2, true⟩, ⟨"M", 0, false⟩, ⟨"S", 0, false⟩] (by decide)
  obtain ⟨o, hround, -, horder⟩ := hnext { field := "size" } rfl
  have ho : o = .reverseTerm := by
    cases o with
    | reverseTerm => rfl
    | _ => exact absurd hround (by decide)
  obtain ⟨_, _, -, hviews', hsession⟩ := hlater next
  rw [hnow] at hviews
  rw [hthen] at hviews'
  obtain ⟨v, _, hv, hnil, heq⟩ := List.forall₂_cons_left_iff.1 hviews
  obtain ⟨w, _, hw, hnil', heq'⟩ := List.forall₂_cons_left_iff.1 hviews'
  rw [List.forall₂_nil_left_iff.1 hnil] at heq
  rw [List.forall₂_nil_left_iff.1 hnil'] at heq'
  refine ⟨h, hreached, ⟨v, heq, ?_, ?_, ?_⟩, ⟨w, ?_, ?_⟩, rfl⟩
  · exact (horder v (by rw [heq]; rfl)).trans ho
  · exact hv.counted.mem_iff.1 (by decide)
  · exact hv.counted.mem_iff.1 (by decide)
  · rw [hsession]
    exact heq'
  · exact hw.counted.mem_iff.1 (by decide)

end FacetedSearch
