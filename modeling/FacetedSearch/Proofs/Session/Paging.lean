import FacetedSearch.Proofs.Session.LastPage

/-!
# Walking through the pages

A search and a move to the next page, over and over, show the pages of a result one after the other.  The place of a
page and the moves between pages are computed apart from each other: the one from the results that are shown, the
others from the state.  Where every search finds the same number of records, they agree on every page.

* `pageCount`: how many pages there are.
* `Session.OnPage`: a session shows the page of its state.
* `visited`: the sessions of a walk.
* `onPage_visited`: what is shown after each turn.
* `records_of_pages`: the records of all pages, one page after the other.
* `walk_covers_each_record`: a walk from the first page.
-/

namespace FacetedSearch

/-! ### The places of pages -/

/-- How many pages hold all records; without records there is still one page. -/
def pageCount (found size : Nat) : Nat := max 1 ((found + size - 1) / size)

theorem succ_lt_pageCount_iff {found size k : Nat} (hsize : 0 < size) :
    k + 1 < pageCount found size ↔ (k + 1) * size < found := by
  have hdiv : k + 2 ≤ (found + size - 1) / size ↔ (k + 2) * size ≤ found + size - 1 :=
    Nat.le_div_iff_mul_le hsize
  have hmul : (k + 2) * size = (k + 1) * size + size := Nat.succ_mul (k + 1) size
  rw [pageCount]
  omega

theorem pageCount_pos (found size : Nat) : 0 < pageCount found size := by
  rw [pageCount]
  omega

/-- A page of a result begins before the last record, but for a single empty page. -/
theorem mul_size_le_of_lt_pageCount {found size k : Nat} (hsize : 0 < size) (hk : k < pageCount found size) :
    k * size ≤ found := by
  cases k with
  | zero => omega
  | succ k => exact Nat.le_of_lt ((succ_lt_pageCount_iff hsize).1 hk)

/-- The pages hold all records. -/
theorem found_le_pageCount_mul {found size : Nat} (hsize : 0 < size) : found ≤ pageCount found size * size := by
  obtain ⟨k, hk⟩ : ∃ k, pageCount found size = k + 1 :=
    Nat.exists_eq_succ_of_ne_zero (Nat.ne_zero_of_lt (pageCount_pos found size))
  have hlast : ¬ k + 1 < pageCount found size := by omega
  rw [succ_lt_pageCount_iff hsize] at hlast
  rw [hk]
  omega

/-- The page of a number, counted from zero. -/
def Page.nth (size k : Nat) : Page := ⟨k * size, size⟩

namespace Pagination

variable {p : Page} {found : Nat}

/-- The numbers of the records on a page. -/
def records (p : Pagination) : List Nat := List.range' p.first (p.last + 1 - p.first)

/-- Some pages in a row hold the records of a result, each once: the first page begins with the first record, each page
begins behind the one before, and the last page ends with the last record. -/
structure Covers (n : Nat) (place : Nat → Pagination) (found : Nat) : Prop where
  first : (place 0).first = 1
  next : ∀ k, k + 1 < n → (place (k + 1)).first = (place k).last + 1
  last : (place (n - 1)).last = found
  records : (List.range n).flatMap (fun k => (place k).records) = List.range' 1 found

theorem stop_lt_iff (hfound : found < wordLimit) : p.stop < found ↔ p.offset + p.size < found := by
  rw [Page.stop]
  omega

theorem hasNext_iff (hsize : 0 < p.size) (hfound : found < wordLimit) :
    (ofPage p found).hasNext = true ↔ p.offset + p.size < found := by
  simp only [ofPage, hsize, stop_lt_iff hfound, decide_true, Bool.true_and, decide_eq_true_eq]

theorem last_ofPage (hfound : found < wordLimit) : (ofPage p found).last = min (p.offset + p.size) found := by
  simp only [ofPage, Page.stop]
  omega

/-- The offset of a next page is within what was found, so it is never too large. -/
theorem nextOffset?_lt (hfound : found < wordLimit) {next : Nat} (h : (ofPage p found).nextOffset? = some next) :
    next = p.offset + p.size ∧ next < found := by
  rw [nextOffset?] at h
  split at h
  · rename_i hnext
    simp only [ofPage, stop_lt_iff hfound, Bool.and_eq_true, decide_eq_true_eq] at hnext
    cases h
    exact ⟨rfl, hnext.2⟩
  · cases h

end Pagination

section

variable {found size : Nat} (hsize : 0 < size) (hfound : found < wordLimit)

include hsize hfound

/-- The records of the first pages, one page after the other. -/
theorem records_of_pages {j : Nat} (hj : j ≤ pageCount found size) :
    (List.range j).flatMap (fun k => (Pagination.ofPage (.nth size k) found).records) =
      List.range' 1 (min (j * size) found) := by
  induction j with
  | zero => simp
  | succ j ih =>
    have hbegin : j * size ≤ found := mul_size_le_of_lt_pageCount hsize hj
    have hrecords : (Pagination.ofPage (.nth size j) found).records =
        List.range' (1 + j * size) (min (j * size + size) found - j * size) := by
      have hfirst : (Pagination.ofPage (.nth size j) found).first = 1 + j * size := Nat.add_comm ..
      rw [Pagination.records, Pagination.last_ofPage hfound, hfirst]
      congr 1
      simp only [Page.nth]
      omega
    rw [List.range_succ, List.flatMap_append, ih (Nat.le_of_succ_le hj), List.flatMap_singleton, hrecords,
      Nat.min_eq_left hbegin, List.range'_append_1, Nat.succ_mul]
    congr 1
    omega

/-- The pages of a result cover its records. -/
theorem covers_pages :
    Pagination.Covers (pageCount found size) (fun k => .ofPage (.nth size k) found) found where
  first := by
    show 0 * size + 1 = 1
    omega
  next k hk := by
    have hmore : (k + 1) * size < found := (succ_lt_pageCount_iff hsize).1 hk
    rw [Pagination.last_ofPage hfound]
    simp only [Pagination.ofPage, Page.nth]
    rw [Nat.succ_mul] at hmore ⊢
    omega
  last := by
    have hall : found ≤ (pageCount found size - 1) * size + size := by
      rw [← Nat.succ_mul, Nat.succ_eq_add_one, Nat.sub_add_cancel (pageCount_pos found size)]
      exact found_le_pageCount_mul hsize
    rw [Pagination.last_ofPage hfound]
    exact Nat.min_eq_right hall
  records := by
    rw [records_of_pages hsize hfound (Nat.le_refl _), Nat.min_eq_right (found_le_pageCount_mul hsize)]

/-- A page has a next one unless it is the last. -/
theorem hasNext_nth_iff {k : Nat} :
    (Pagination.ofPage (.nth size k) found).hasNext = true ↔ k + 1 < pageCount found size := by
  rw [Pagination.hasNext_iff hsize hfound, succ_lt_pageCount_iff hsize, Nat.succ_mul]
  rfl

end

namespace Session

variable {s : Session} {state : SearchState} {found : Nat}

/-! ### The page of a session -/

/-- A session in some state shows the page of this state, and nothing has changed since. -/
structure OnPage (s : Session) (state : SearchState) (found : Nat) : Prop where
  state_eq : s.state = state
  clean : s.dirty = false
  keeps : s.keepsZeros = true
  shown : ∃ r, s.results = some r ∧ r.pagination = .ofPage state.page found

theorem onPage_search {backend : Document → Outcome} (h : ∀ d, ∃ r, backend d = .ok r ∧ r.total = found)
    (s : Session) : (s.search backend).OnPage s.state found := by
  obtain ⟨r, hr, rfl⟩ := h s.beginSearch.2.document
  have hsearch : s.search backend = (s.beginSearch.1.complete s.beginSearch.2 (.ok r)).1 := by
    rw [← hr]
    rfl
  rw [hsearch, complete_ok rfl]
  exact ⟨rfl, rfl, rfl, _, rfl, rfl⟩

namespace OnPage

theorem onLastPage_eq (h : s.OnPage state found) : s.onLastPage = !(Pagination.ofPage state.page found).hasNext := by
  obtain ⟨r, hresults, hr⟩ := h.shown
  simp only [onLastPage, hresults, h.clean, h.keeps, h.state_eq, hr]
  simp [Pagination.ofPage]

/-- Before the last page, the next page is the one that the results tell. -/
theorem nextPage_of_hasNext (h : s.OnPage state found) (hnext : (Pagination.ofPage state.page found).hasNext = true) :
    ∃ next, (Pagination.ofPage state.page found).nextOffset? = some next ∧
      (s.dispatch .nextPage).state = { state with page := { state.page with offset := next } } := by
  refine ⟨_, if_pos hnext, ?_⟩
  obtain ⟨dirty, keepsZeros, hchange⟩ := change_eq s .nextPage
  rw [dispatch, h.onLastPage_eq, hnext]
  simp only [Bool.not_true, Bool.false_eq_true, if_false]
  rw [hchange, h.state_eq]
  rfl

/-- On the last page, the results tell no next one, and the move is refused. -/
theorem nextPage_of_last (h : s.OnPage state found) (hlast : (Pagination.ofPage state.page found).hasNext = false) :
    (Pagination.ofPage state.page found).nextOffset? = none ∧ s.dispatch .nextPage = s := by
  refine ⟨if_neg (Bool.eq_false_iff.1 hlast), ?_⟩
  rw [dispatch, h.onLastPage_eq, hlast]
  rfl

/-- Behind the first page, the previous page is the one that the results tell. -/
theorem previousPage (h : s.OnPage state found) (hbehind : 0 < state.page.offset) :
    ∃ previous, (Pagination.ofPage state.page found).previousOffset? = some previous ∧
      previous = state.page.offset - state.page.size ∧
      (s.dispatch .previousPage).state = { state with page := { state.page with offset := previous } } := by
  refine ⟨_, if_pos (decide_eq_true hbehind), rfl, ?_⟩
  obtain ⟨dirty, keepsZeros, hchange⟩ := change_eq s .previousPage
  have hdispatch : s.dispatch .previousPage = s.change .previousPage := rfl
  rw [hdispatch, hchange, h.state_eq]
  rfl

end OnPage

/-! ### Walks -/

/-- The session after some turns of a walk: a search, then a move to the next page and a search for each turn.  The
answers may differ from turn to turn. -/
def visited (s : Session) (answer : Nat → Document → Outcome) : Nat → Session
  | 0 => s.search (answer 0)
  | k + 1 => ((s.visited answer k).dispatch .nextPage).search (answer (k + 1))

section

variable {answer : Nat → Document → Outcome} {size : Nat} (hsize : 0 < size) (hfound : found < wordLimit)
  (hstart : s.state.page = .nth size 0) (hanswer : ∀ k d, ∃ r, answer k d = .ok r ∧ r.total = found)

include hsize hfound hstart hanswer

/-- Each turn shows the next page, and the last page again once it is reached. -/
theorem onPage_visited (k : Nat) :
    (s.visited answer k).OnPage { s.state with page := .nth size (min k (pageCount found size - 1)) } found := by
  induction k with
  | zero =>
    rw [Nat.zero_min, ← hstart]
    exact onPage_search (hanswer 0) s
  | succ k ih =>
    by_cases hmore : k + 1 < pageCount found size
    · rw [Nat.min_eq_left (by omega)] at ih ⊢
      obtain ⟨next, hnext, hstate⟩ := ih.nextPage_of_hasNext ((hasNext_nth_iff hsize hfound).2 hmore)
      have hoffset : next = (k + 1) * size := by
        rw [(Pagination.nextOffset?_lt hfound hnext).1, Nat.succ_mul]
        rfl
      have hshown := onPage_search (hanswer (k + 1)) ((s.visited answer k).dispatch .nextPage)
      rw [hstate, hoffset] at hshown
      exact hshown
    · have hlast : (Pagination.ofPage (.nth size (min k (pageCount found size - 1))) found).hasNext = false := by
        rw [Bool.eq_false_iff, ne_eq, hasNext_nth_iff hsize hfound]
        omega
      have hsame : min (k + 1) (pageCount found size - 1) = min k (pageCount found size - 1) := by omega
      have hshown := onPage_search (hanswer (k + 1)) (s.visited answer k)
      rw [ih.state_eq] at hshown
      rw [visited, (ih.nextPage_of_last hlast).2, hsame]
      exact hshown

/-- Up to the last page, each turn shows the page of its number. -/
theorem onPage_visited_of_lt {k : Nat} (hk : k < pageCount found size) :
    (s.visited answer k).OnPage { s.state with page := .nth size k } found := by
  have hpage := onPage_visited hsize hfound hstart hanswer k
  rwa [Nat.min_eq_left (by omega)] at hpage

end

end Session

/-- A walk through the pages of a result shows every record once, and stops.  From a state at the start, with a search
and a move to the next page over and over, where every search finds the same number of records: each turn shows the
next page, and the last page again once it is reached; the pages cover the records, with a single empty page when there
are none; before the last page, the move goes where the results tell, on the last page they tell no next page and the
move changes nothing, and behind the first page the move back goes where they tell, to the page that was shown before.
No next page that results can tell has an offset too large for a number. -/
theorem walk_covers_each_record (s : Session) (answer : Nat → Document → Outcome) (found : Nat)
    (hstart : s.state.page.offset = 0) (hsize : 0 < s.state.page.size) (hfound : found < wordLimit)
    (hanswer : ∀ k d, ∃ r, answer k d = .ok r ∧ r.total = found) :
    let size := s.state.page.size
    let n := pageCount found size
    let place (k : Nat) := Pagination.ofPage (.nth size k) found
    (∀ k, (s.visited answer k).state = { s.state with page := .nth size (min k (n - 1)) } ∧
      ∃ r, (s.visited answer k).results = some r ∧ r.pagination = place (min k (n - 1))) ∧
    Pagination.Covers n place found ∧ (found = 0 → n = 1) ∧
    (∀ k, k + 1 < n → ∃ next, (place k).nextOffset? = some next ∧
      ((s.visited answer k).dispatch .nextPage).state = { s.state with page := ⟨next, size⟩ }) ∧
    (∀ k, n ≤ k + 1 → (place (min k (n - 1))).nextOffset? = none ∧
      (s.visited answer k).dispatch .nextPage = s.visited answer k) ∧
    (∀ k, k + 1 < n → ∃ previous, (place (k + 1)).previousOffset? = some previous ∧
      (s.visited answer k).state.page.offset = previous ∧
      ((s.visited answer (k + 1)).dispatch .previousPage).state = (s.visited answer k).state) ∧
    ∀ p next, (Pagination.ofPage p found).nextOffset? = some next → next = p.offset + p.size ∧ next < wordLimit := by
  intro size n place
  have hpage : s.state.page = .nth size 0 := by
    rw [Page.nth, Nat.zero_mul, ← hstart]
  have hon := Session.onPage_visited hsize hfound hpage hanswer
  have honlt := fun k => Session.onPage_visited_of_lt hsize hfound hpage hanswer (k := k)
  refine ⟨fun k => ⟨(hon k).state_eq, (hon k).shown⟩, covers_pages hsize hfound, fun hnone => ?_, fun k hk => ?_,
    fun k hk => ?_, fun k hk => ?_, fun p next hnext => ?_⟩
  · have hsmall : ¬ 1 < n := by
      rw [succ_lt_pageCount_iff (k := 0) hsize]
      omega
    have hpos : 0 < n := pageCount_pos found size
    omega
  · exact (honlt k (Nat.lt_of_succ_lt hk)).nextPage_of_hasNext ((hasNext_nth_iff hsize hfound).2 hk)
  · refine (hon k).nextPage_of_last ?_
    rw [Bool.eq_false_iff, ne_eq, hasNext_nth_iff hsize hfound]
    show ¬ min k (n - 1) + 1 < n
    omega
  · have hbehind : 0 < (k + 1) * size := Nat.mul_pos (Nat.succ_pos k) hsize
    obtain ⟨previous, hprevious, heq, hstate⟩ := (honlt (k + 1) hk).previousPage hbehind
    have hoffset : previous = k * size := by
      rw [heq]
      show (k + 1) * size - size = k * size
      rw [Nat.succ_mul, Nat.add_sub_cancel]
    have hbefore := (honlt k (Nat.lt_of_succ_lt hk)).state_eq
    refine ⟨previous, hprevious, ?_, ?_⟩
    · rw [hbefore, hoffset]
      rfl
    · rw [hstate, hbefore, hoffset]
      rfl
  · obtain ⟨heq, hlt⟩ := Pagination.nextOffset?_lt hfound hnext
    exact ⟨heq, Nat.lt_trans hlt hfound⟩

/-- Five records on pages of two are shown on three pages, the last of which holds one record. -/
theorem walk_of_three_pages :
    let s : Session := .new { paging := { size := 2 } }
    let answer (_ : Nat) (_ : Document) : Outcome := .ok { total := 5 }
    (∃ r, (s.visited answer 2).results = some r ∧ r.pagination.first = 5 ∧ r.pagination.last = 5) ∧
      (s.visited answer 2).dispatch .nextPage = s.visited answer 2 ∧
      ((s.visited answer 2).dispatch .previousPage).state = (s.visited answer 1).state := by
  intro s answer
  obtain ⟨hshown, -, -, -, hlast, hback, -⟩ :=
    walk_covers_each_record s answer 5 rfl (by decide) (by decide) fun _ _ => ⟨_, rfl, rfl⟩
  obtain ⟨r, hr, hplace⟩ := (hshown 2).2
  obtain ⟨_, -, -, hprevious⟩ := hback 1 (by decide)
  refine ⟨⟨r, hr, ?_, ?_⟩, (hlast 2 (by decide)).2, hprevious⟩
  · rw [hplace]
    decide
  · rw [hplace]
    decide

end FacetedSearch
