import FacetedSearch.Text.Path
import Mathlib.Data.List.Infix

/-!
# The directories above a path

On an absolute path every part between slashes is a name, unless it is empty or a point.  The directory that holds the
path has the same names without the last one, whatever the spelling, so the way up passes through all shorter lists of
names and ends at the root.

* `names_eq_steps`: the names on an absolute path.
* `parentReversed_cases`: the root has no parent, and any other path has one with its last name taken off.
* `names_ancestors`: a path and the directories above it have the beginnings of its names, the longest first.
* `names_join`: what is inside a directory has one name more.
-/

namespace FacetedSearch

namespace Path

/-! ### Names between slashes -/

/-- The names between the slashes of a path. -/
def steps (s : List Char) : List (List Char) := (cutAt '/' s).filter isStep

theorem steps_append_slash (s t : List Char) : steps (s ++ '/' :: t) = steps s ++ steps t := by
  unfold steps cutAt
  rw [cutWhere_append_cons (by rfl), List.filter_append]

/-- A slash in front adds no name, nor does one at the end. -/
theorem steps_cons_slash (s : List Char) : steps ('/' :: s) = steps s := steps_append_slash [] s

theorem steps_concat_slash (s : List Char) : steps (s ++ ['/']) = steps s := by
  rw [steps_append_slash]
  exact List.append_nil _

theorem steps_of_name {w : List Char} (hw : '/' ∉ w) (hstep : isStep w = true) : steps w = [w] := by
  have hcut : cutAt '/' w = [w] := by
    apply cutWhere_eq_singleton
    intro c hc
    exact beq_eq_false_iff_ne.2 fun h => hw (h ▸ hc)
  rw [steps, hcut, List.filter_cons_of_pos hstep, List.filter_nil]

theorem length_steps_le (s : List Char) : (steps ('/' :: s)).length ≤ s.length + 1 := by
  have hpieces := List.length_filter_le isStep (cutAt '/' s)
  have hslashes := List.countP_le_length (p := (· == '/')) (l := s)
  rw [cutAt, length_cutWhere] at hpieces
  rw [steps_cons_slash]
  unfold steps cutAt
  omega

theorem names_eq_steps {p : String} (h : isAbsolute p = true) : names p = steps p.toList := by
  unfold names steps
  cases hp : p.toList with
  | nil =>
    rw [isAbsolute, hp] at h
    cases h
  | cons c s =>
    rw [isAbsolute, hp, List.head?_cons, beq_iff_eq, Option.some.injEq] at h
    rw [h, cutAt, cutWhere, if_pos (by rfl)]

/-! ### The way up, from the end of a path to its start -/

private theorem steps_dropTail (r : List Char) : steps (dropTail r).reverse = steps r.reverse := by
  fun_induction dropTail r with
  | case1 r ih =>
    -- a point at the end, behind a slash
    rw [ih, List.reverse_cons, List.reverse_cons, List.reverse_cons, List.append_assoc]
    have hpoint := steps_append_slash r.reverse ['.']
    rw [steps_concat_slash]
    exact (hpoint.trans (List.append_nil _)).symm
  | case2 c r ih =>
    rw [ih, List.reverse_cons (a := '/'), steps_concat_slash]
  | case3 => rfl

private theorem getLast?_dropTail {r : List Char} (h : r.getLast? = some '/') : (dropTail r).getLast? = some '/' := by
  fun_induction dropTail r with
  | case1 r ih => exact ih (by rwa [List.getLast?_cons_cons] at h)
  | case2 c r ih => exact ih (by rwa [List.getLast?_cons_cons] at h)
  | case3 => exact h

/-- What is left begins with a name, unless it is the root alone. -/
private theorem dropTail_eq_of_slash {r s : List Char} (h : dropTail r = '/' :: s) : s = [] := by
  fun_induction dropTail r with
  | case1 r ih => exact ih h
  | case2 c r ih => exact ih h
  | case3 r hpoint hslash =>
    subst h
    cases s with
    | nil => rfl
    | cons c s => exact absurd rfl (hslash c s)

private theorem dropTail_ne_point (r s : List Char) : dropTail r ≠ '.' :: '/' :: s := by
  fun_induction dropTail r with
  | case1 r ih => exact ih
  | case2 c r ih => exact ih
  | case3 r hpoint hslash =>
    rintro rfl
    exact hpoint s rfl

private theorem parentReversed_of_name {r s : List Char} {c : Char} (hc : c ≠ '/') (h : dropTail r = c :: s) :
    parentReversed r = some (dropTail ((c :: s).dropWhile (· != '/'))) := by
  unfold parentReversed
  rw [h]
  split
  · contradiction
  · rename_i heq
    exact absurd (List.cons.inj heq).1 hc
  · rfl

/-- The root has no parent, and any other path has one with its last name taken off. -/
theorem parentReversed_cases {r : List Char} (h : r.getLast? = some '/') :
    (parentReversed r = none ∧ steps r.reverse = []) ∨
      ∃ q w, parentReversed r = some q ∧ q.getLast? = some '/' ∧ steps r.reverse = steps q.reverse ++ [w] := by
  have hlast := getLast?_dropTail h
  rw [← steps_dropTail r]
  cases hd : dropTail r with
  | nil =>
    rw [hd] at hlast
    cases hlast
  | cons c s =>
    by_cases hc : c = '/'
    · rw [hc] at hd
      rw [hc, dropTail_eq_of_slash hd, parentReversed, hd, dropTail_eq_of_slash hd]
      exact Or.inl ⟨rfl, rfl⟩
    · -- the last name goes up to the first slash
      rw [hd] at hlast
      obtain ⟨w, rest, hsplit, hw⟩ := List.eq_append_cons_of_mem (List.mem_of_getLast? hlast)
      have hstep : isStep w.reverse = true := by
        have hempty : w ≠ [] := by
          rintro rfl
          exact hc (List.cons.inj hsplit).1
        have hpoint : w ≠ ['.'] := by
          rintro rfl
          exact dropTail_ne_point r rest (hd.trans hsplit)
        simpa [isStep] using ⟨hempty, hpoint⟩
      have hdrop : (w ++ '/' :: rest).dropWhile (· != '/') = '/' :: rest := by
        have hletters : ∀ d ∈ w, (d != '/') = true := fun d hmem => bne_iff_ne.2 fun heq => hw (heq ▸ hmem)
        rw [List.dropWhile_append_of_pos hletters]
        rfl
      refine Or.inr ⟨dropTail ('/' :: rest), w.reverse, ?_, ?_, ?_⟩
      · rw [parentReversed_of_name hc hd, hsplit, hdrop]
      · apply getLast?_dropTail
        rwa [hsplit, List.getLast?_append_of_ne_nil _ (List.cons_ne_nil _ _)] at hlast
      · have hname := steps_of_name (w := w.reverse) (by simpa using hw) hstep
        rw [hsplit, List.reverse_append, List.reverse_cons, List.append_assoc, List.singleton_append,
          steps_append_slash, hname, steps_dropTail, List.reverse_cons, steps_concat_slash]

/-- The directories on the way up have the beginnings of the names of a path, the longest first. -/
private theorem ancestorsReversed_spec (n : Nat) {r : List Char} (h : r.getLast? = some '/')
    (hn : (steps r.reverse).length ≤ n) :
    ((ancestorsReversed n r).map fun q => steps q.reverse) = (steps r.reverse).inits.reverse ∧
      ∀ q ∈ ancestorsReversed n r, q.getLast? = some '/' := by
  induction n generalizing r with
  | zero =>
    have hroot : steps r.reverse = [] := List.length_eq_zero_iff.1 (Nat.le_zero.1 hn)
    rw [ancestorsReversed, List.map_cons, List.map_nil, hroot]
    exact ⟨rfl, List.forall_mem_singleton.2 h⟩
  | succ n ih =>
    rcases parentReversed_cases h with ⟨hparent, hroot⟩ | ⟨q, w, hparent, hq, hsteps⟩
    · rw [ancestorsReversed, hparent, List.map_cons, List.map_nil, hroot]
      exact ⟨rfl, List.forall_mem_singleton.2 h⟩
    · have hshorter : (steps q.reverse).length ≤ n := by
        rw [hsteps, List.length_append, List.length_singleton] at hn
        omega
      obtain ⟨hnames, hrooted⟩ := ih hq hshorter
      rw [ancestorsReversed, hparent, List.map_cons, hnames, hsteps]
      refine ⟨?_, List.forall_mem_cons.2 ⟨h, hrooted⟩⟩
      rw [List.inits_append, List.reverse_append]
      rfl

/-! ### A path and what is above and inside it -/

private theorem isAbsolute_ofList_reverse {q : List Char} :
    isAbsolute (String.ofList q.reverse) = true ↔ q.getLast? = some '/' := by
  rw [isAbsolute, String.toList_ofList, List.head?_reverse, beq_iff_eq]

/-- The directories above an absolute path are absolute, and have the beginnings of its names, the longest first. -/
theorem names_ancestors {p : String} (h : isAbsolute p = true) :
    (ancestors p).map names = (names p).inits.reverse ∧ ∀ q ∈ ancestors p, isAbsolute q = true := by
  have hlast : p.toList.reverse.getLast? = some '/' := by
    rw [List.getLast?_reverse]
    exact beq_iff_eq.1 h
  have hlength : (steps p.toList.reverse.reverse).length ≤ p.length := by
    obtain ⟨s, hs⟩ := List.head?_eq_some_iff.1 (beq_iff_eq.1 h)
    rw [List.reverse_reverse, ← String.length_toList, hs]
    exact length_steps_le s
  obtain ⟨hnames, hrooted⟩ := ancestorsReversed_spec p.length hlast hlength
  rw [List.reverse_reverse, ← names_eq_steps h] at hnames
  have habsolute : ∀ q ∈ ancestors p, isAbsolute q = true := by
    intro q hq
    obtain ⟨r, hr, rfl⟩ := List.mem_map.1 hq
    exact isAbsolute_ofList_reverse.2 (hrooted r hr)
  refine ⟨?_, habsolute⟩
  rw [← hnames, ancestors, List.map_map]
  apply List.map_congr_left
  intro r hr
  rw [Function.comp_apply, names_eq_steps (isAbsolute_ofList_reverse.2 (hrooted r hr)), String.toList_ofList]

private theorem head?_of_name {w : List Char} (hw : '/' ∉ w) : (w.head? == some '/') = false :=
  beq_eq_false_iff_ne.2 fun hhead => hw (List.mem_of_head? hhead)

theorem isAbsolute_join {dir name : String} (hname : '/' ∉ name.toList) :
    isAbsolute (join dir name) = isAbsolute dir := by
  have hrelative := head?_of_name hname
  cases hs : dir.toList with
  | nil =>
    rw [← String.toList_empty, String.toList_inj] at hs
    rw [hs, join, hrelative, if_pos (by decide)]
    exact hrelative
  | cons c s =>
    have hempty : dir.isEmpty = false := by
      rw [Bool.eq_false_iff]
      intro hempty
      rw [String.isEmpty_iff.1 hempty] at hs
      cases hs
    rw [join, hrelative, hempty]
    simp only [Bool.or_self, Bool.false_eq_true, if_false]
    split <;> simp [isAbsolute, hs]

/-- What is inside a directory has one name more. -/
theorem names_join {dir name : String} (h : isAbsolute dir = true) (hname : '/' ∉ name.toList)
    (hstep : isStep name.toList = true) : names (join dir name) = names dir ++ [name.toList] := by
  have habsolute : isAbsolute (join dir name) = true := (isAbsolute_join hname).trans h
  have htext : ∀ text : List Char, steps (text ++ '/' :: name.toList) = steps text ++ [name.toList] := by
    intro text
    rw [steps_append_slash, steps_of_name hname hstep]
  rw [names_eq_steps habsolute, names_eq_steps h, join, head?_of_name hname, Bool.false_or]
  split
  · -- only the empty path is no directory to go on from
    rename_i hempty
    rw [String.isEmpty_iff.1 hempty] at h
    cases h
  · split
    · rename_i hslash
      obtain ⟨t, ht⟩ := List.getLast?_eq_some_iff.1 (beq_iff_eq.1 hslash)
      rw [String.toList_append, ht, List.append_assoc, List.singleton_append, htext, steps_concat_slash]
    · rw [← htext]
      simp

end Path

end FacetedSearch
