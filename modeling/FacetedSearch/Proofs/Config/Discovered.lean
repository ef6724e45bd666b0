import FacetedSearch.Config.Discovery
import FacetedSearch.Proofs.Text.Ancestors
import Mathlib.Data.List.Nodup

/-!
# Which settings files are found

The climb meets the settings files of the working directory and of the directories above it, each at a path of its
own, and lists them up to the first root file.  Without one, the file of the home directory follows, unless the climb
met it under one spelling or another.

* `FileTree.filesIn`: the settings files that stand in some directories.
* `climb_cases`: the climb lists all of them, or those up to the first root file.
* `pairwise_settingsPath`: no two directories on the way up have the same settings file.
* `met_iff`: the climb meets the file of a directory when this is the working directory or above it.
* `discover_nearest_first`: what is found, in which order, and that nothing is found twice.
-/

namespace FacetedSearch

/-- The settings files that stand in some directories. -/
def FileTree.filesIn (t : FileTree) (dirs : List String) : List String := (dirs.map settingsPath).filter t.isFile

/-! ### The climb -/

/-- The climb lists the files up to the first root file, or all files when there is none. -/
theorem climb_cases (t : FileTree) (dirs : List String) :
    (∃ before root after, t.filesIn dirs = before ++ root :: after ∧ (∀ p ∈ before, isRoot t p = false) ∧
      isRoot t root = true ∧ climb t dirs = (before ++ [root], true)) ∨
    ((∀ p ∈ t.filesIn dirs, isRoot t p = false) ∧ climb t dirs = (t.filesIn dirs, false)) := by
  induction dirs with
  | nil => exact Or.inr ⟨nofun, rfl⟩
  | cons dir dirs ih =>
    unfold FileTree.filesIn at ih ⊢
    rw [List.map_cons, climb]
    cases hfile : t.isFile (settingsPath dir) with
    | false =>
      -- a directory without a file is passed by
      rw [List.filter_cons_of_neg (by rw [hfile]; decide), Bool.not_false, if_pos rfl]
      exact ih
    | true =>
      rw [List.filter_cons_of_pos hfile, Bool.not_true, if_neg Bool.false_ne_true]
      cases hroot : isRoot t (settingsPath dir) with
      | true =>
        rw [if_pos rfl]
        exact Or.inl ⟨[], settingsPath dir, _, rfl, nofun, hroot, rfl⟩
      | false =>
        rw [if_neg Bool.false_ne_true]
        rcases ih with ⟨before, root, after, hfiles, hbefore, hend, hclimb⟩ | ⟨hnone, hclimb⟩
        · refine Or.inl ⟨settingsPath dir :: before, root, after, ?_, ?_, hend, ?_⟩
          · rw [hfiles, List.cons_append]
          · exact List.forall_mem_cons.2 ⟨hroot, hbefore⟩
          · rw [hclimb]
            rfl
        · refine Or.inr ⟨List.forall_mem_cons.2 ⟨hroot, hnone⟩, ?_⟩
          rw [hclimb]

/-! ### Files at different paths -/

private theorem nodup_inits {α : Type} (l : List α) : l.inits.Nodup := by
  induction l with
  | nil => simp
  | cons a l ih =>
    rw [List.inits_cons, List.nodup_cons]
    exact ⟨by simp, ih.map fun _ _ h => (List.cons.inj h).2⟩

theorem names_settingsPath {dir : String} (h : Path.isAbsolute dir = true) :
    Path.names (settingsPath dir) = Path.names dir ++ [settingsName.toList] :=
  Path.names_join h (by decide) (by decide)

theorem same_settingsPath_iff {dir other : String} (h : Path.isAbsolute dir = true) :
    Path.same (settingsPath dir) (settingsPath other) = true ↔
      Path.isAbsolute other = true ∧ Path.names dir = Path.names other := by
  have habsolute : ∀ d, Path.isAbsolute (settingsPath d) = Path.isAbsolute d := fun d =>
    Path.isAbsolute_join (by decide)
  rw [Path.same, Bool.and_eq_true, beq_iff_eq, beq_iff_eq, habsolute, habsolute, h, eq_comm]
  refine and_congr_right fun hother => ?_
  rw [names_settingsPath h, names_settingsPath hother, List.append_left_inj]

/-- No two directories on the way up have the same settings file. -/
theorem pairwise_settingsPath {cwd : String} (h : Path.isAbsolute cwd = true) :
    ((Path.ancestors cwd).map settingsPath).Pairwise fun p q => Path.same p q = false := by
  obtain ⟨hnames, habsolute⟩ := Path.names_ancestors h
  have hfiles : ((Path.ancestors cwd).map settingsPath).map Path.names =
      (Path.names cwd).inits.reverse.map (· ++ [settingsName.toList]) := by
    rw [← hnames, List.map_map, List.map_map]
    exact List.map_congr_left fun dir hdir => names_settingsPath (habsolute dir hdir)
  have hdistinct : (((Path.ancestors cwd).map settingsPath).map Path.names).Nodup := by
    rw [hfiles]
    exact (List.nodup_reverse.2 (nodup_inits _)).map (List.append_left_injective _)
  refine (List.pairwise_map.1 hdistinct).imp fun hne => ?_
  rw [Path.same, Bool.and_eq_false_iff]
  exact Or.inr (beq_eq_false_iff_ne.2 hne)

/-- The climb meets the settings file of a directory, if it is there, exactly when the directory is the working directory
or above it. -/
theorem met_iff (t : FileTree) {cwd : String} (h : Path.isAbsolute cwd = true) (dir : String) :
    (t.filesIn (Path.ancestors cwd)).any (Path.same · (settingsPath dir)) = true ↔
      t.isFile (settingsPath dir) = true ∧ Path.isAbsolute dir = true ∧ Path.names dir <+: Path.names cwd := by
  obtain ⟨hnames, habsolute⟩ := Path.names_ancestors h
  have hspelling : ∀ {p q}, Path.same p q = true → t.isFile p = t.isFile q := by
    intro p q hsame
    unfold FileTree.isFile
    rw [t.file?_eq_of_same hsame]
  rw [List.any_eq_true]
  constructor
  · rintro ⟨p, hp, hsame⟩
    obtain ⟨hp, hfile⟩ := List.mem_filter.1 hp
    obtain ⟨d, hd, rfl⟩ := List.mem_map.1 hp
    obtain ⟨hdir, heq⟩ := (same_settingsPath_iff (habsolute d hd)).1 hsame
    refine ⟨(hspelling hsame).symm.trans hfile, hdir, ?_⟩
    rw [← heq, ← List.mem_inits, ← List.mem_reverse, ← hnames]
    exact List.mem_map_of_mem hd
  · rintro ⟨hfile, hdir, habove⟩
    rw [← List.mem_inits, ← List.mem_reverse, ← hnames] at habove
    obtain ⟨d, hd, heq⟩ := List.mem_map.1 habove
    have hsame := (same_settingsPath_iff (habsolute d hd)).2 ⟨hdir, heq⟩
    exact ⟨settingsPath d, List.mem_filter.2 ⟨List.mem_map_of_mem hd, (hspelling hsame).trans hfile⟩, hsame⟩

/-- The settings files for an absolute working directory: those of the directory and of all above it, from the longest
list of names to the root, up to the first root file; or all of these, and then the file of the home directory, if it
is there and not among them, which it is when the home directory is the working directory or above it.  No two of the
files are the same. -/
theorem discover_nearest_first (t : FileTree) {cwd : String} (home : Option String)
    (h : Path.isAbsolute cwd = true) :
    ((Path.ancestors cwd).map Path.names = (Path.names cwd).inits.reverse ∧
      ∀ dir ∈ Path.ancestors cwd, Path.isAbsolute dir = true) ∧
    ((∃ before root after, t.filesIn (Path.ancestors cwd) = before ++ root :: after ∧
        (∀ p ∈ before, isRoot t p = false) ∧ isRoot t root = true ∧ discover t cwd home = before ++ [root]) ∨
      ((∀ p ∈ t.filesIn (Path.ancestors cwd), isRoot t p = false) ∧
        discover t cwd home = t.filesIn (Path.ancestors cwd) ++ (home.map settingsPath).toList.filter fun own =>
          t.isFile own && !(t.filesIn (Path.ancestors cwd)).any (Path.same · own))) ∧
    (∀ dir, (t.filesIn (Path.ancestors cwd)).any (Path.same · (settingsPath dir)) = true ↔
      t.isFile (settingsPath dir) = true ∧ Path.isAbsolute dir = true ∧ Path.names dir <+: Path.names cwd) ∧
    (discover t cwd home).Pairwise fun p q => Path.same p q = false := by
  have hdistinct : (t.filesIn (Path.ancestors cwd)).Pairwise fun p q => Path.same p q = false :=
    (pairwise_settingsPath h).filter _
  refine ⟨Path.names_ancestors h, ?_⟩
  rcases climb_cases t (Path.ancestors cwd) with ⟨before, root, after, hfiles, hbefore, hroot, hclimb⟩ | ⟨hnone, hclimb⟩
  · have hfound : discover t cwd home = before ++ [root] := by
      rw [discover_stop t cwd home (by rw [hclimb]), hclimb]
    refine ⟨Or.inl ⟨before, root, after, hfiles, hbefore, hroot, hfound⟩, met_iff t h, ?_⟩
    rw [hfound]
    rw [hfiles, List.append_cons] at hdistinct
    exact (List.pairwise_append.1 hdistinct).1
  · have hfound : discover t cwd home =
        t.filesIn (Path.ancestors cwd) ++ (home.map settingsPath).toList.filter fun own =>
          t.isFile own && !(t.filesIn (Path.ancestors cwd)).any (Path.same · own) := by
      unfold discover
      rw [hclimb]
      cases home with
      | none => exact (List.append_nil _).symm
      | some dir =>
        simp only [Option.map_some, Option.toList_some, Bool.not_false, Bool.true_and]
        rw [List.filter_cons, List.filter_nil]
        split
        · rfl
        · exact (List.append_nil _).symm
    refine ⟨Or.inr ⟨hnone, hfound⟩, met_iff t h, ?_⟩
    rw [hfound, List.pairwise_append]
    refine ⟨hdistinct, ?_, ?_⟩
    · cases home with
      | none => exact List.Pairwise.nil
      | some dir => exact (List.pairwise_singleton _ _).filter _
    · intro p hp own hown
      have hown := (List.mem_filter.1 hown).2
      rw [Bool.and_eq_true, Bool.not_eq_true', List.any_eq_false] at hown
      exact Bool.eq_false_iff.2 (hown.2 p hp)

private def homeTree : FileTree where
  files := [("/home/u/.facet.toml", some ""), ("/home/u/p/.facet.toml", some "[paging]\nsize = 5\n")]

private def rootedTree : FileTree where
  files := [("/home/u/.facet.toml", some ""), ("/home/u/p/.facet.toml", some "root = true\n"),
    ("/home/u/p/src/.facet.toml", some "")]

/-- Below the home directory, which is spelled in another way, its file is met on the way up and not listed again.  When
a directory in between has a root file, nothing is listed after it, not even the file of the home directory. -/
theorem home_file_met_once :
    Path.isAbsolute "/home/u/p/src" = true ∧
      (homeTree.filesIn (Path.ancestors "/home/u/p/src")).any (Path.same · (settingsPath "/home//u/")) = true ∧
      discover homeTree "/home/u/p/src" (some "/home//u/") = ["/home/u/p/.facet.toml", "/home/u/.facet.toml"] ∧
      (discover homeTree "/home/u/p/src" (some "/home//u/")).Pairwise (fun p q => Path.same p q = false) ∧
      rootedTree.filesIn (Path.ancestors "/home/u/p/src") =
        ["/home/u/p/src/.facet.toml", "/home/u/p/.facet.toml", "/home/u/.facet.toml"] ∧
      isRoot rootedTree "/home/u/p/.facet.toml" = true ∧
      discover rootedTree "/home/u/p/src" (some "/home/u") = ["/home/u/p/src/.facet.toml", "/home/u/p/.facet.toml"] := by
  have h : Path.isAbsolute "/home/u/p/src" = true := by decide
  obtain ⟨-, -, hmet, hdistinct⟩ := discover_nearest_first homeTree (some "/home//u/") h
  obtain ⟨-, hfound, -, -⟩ := discover_nearest_first rootedTree (some "/home/u") h
  have hfiles : rootedTree.filesIn (Path.ancestors "/home/u/p/src") =
      ["/home/u/p/src/.facet.toml", "/home/u/p/.facet.toml", "/home/u/.facet.toml"] := by decide +kernel
  have hplain : isRoot rootedTree "/home/u/p/src/.facet.toml" = false := by decide +kernel
  have hroot : isRoot rootedTree "/home/u/p/.facet.toml" = true := by decide +kernel
  refine ⟨h, (hmet "/home//u/").2 (by decide +kernel), by decide +kernel, hdistinct, hfiles, hroot, ?_⟩
  rw [hfiles] at hfound
  rcases hfound with ⟨before, root, after, heq, hbefore, hend, hlisted⟩ | ⟨hnone, -⟩
  · match before with
    | [] =>
      cases heq
      exact absurd hend (by rw [hplain]; decide)
    | [_] =>
      cases heq
      exact hlisted
    | _ :: p :: _ =>
      obtain rfl : "/home/u/p/.facet.toml" = p := (List.cons.inj (List.cons.inj heq).2).1
      exact absurd (hbefore "/home/u/p/.facet.toml" (by simp)) (by rw [hroot]; decide)
  · exact absurd (hnone "/home/u/p/.facet.toml" (by simp)) (by rw [hroot]; decide)

end FacetedSearch
