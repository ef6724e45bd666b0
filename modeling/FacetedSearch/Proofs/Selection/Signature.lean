import FacetedSearch.Config.Merge
import FacetedSearch.Proofs.Selection.Coherent

/-!
# What a signature tells

A signature is the set of the lines of what is picked: a line for each selection and each range.  A line does not mark
off its parts, so that a key with an equals sign in it can be taken for a shorter key and a longer value, and bounds
with points in them for other bounds.

* `Pick.Alike`: different selections and ranges with the same line.
* `Pick.line_eq_iff`: there are no others.
* `SearchState.signature_eq_iff`: equal signatures are equal sets of lines.
* `signature_eq_iff_same_picks`: what two states with the same signature have in common.
-/

namespace FacetedSearch

/-- A selection or a range. -/
inductive Pick
  | value (x : Selection)
  | bounds (r : FacetRange)
  deriving DecidableEq

namespace Pick

/-- The line of a selection or a range in a signature. -/
def line : Pick → String
  | .value x => SearchState.selectionLine x
  | .bounds r => SearchState.rangeLine r

/-- The value of a selection is readable. -/
def Readable : Pick → Prop
  | .value x => x.value.Readable
  | .bounds _ => True

/-- Two different ways to read one line, the one with the shorter key or lower bound first: the end of a key belongs to
the value, or that of a lower bound to the upper one, or a selection is a range whose upper bound ends like a
selection. -/
inductive Alike : Pick → Pick → Prop
  | keyEnd {k w : String} {v v' : Choice} {l : Logic} (htext : v.text = w ++ "=" ++ v'.text) :
    Alike (.value ⟨k, v, l⟩) (.value ⟨k ++ "=" ++ w, v', l⟩)
  | point {facet : Nat} {low high : String} :
    Alike (.bounds ⟨facet, low, "." ++ high⟩) (.bounds ⟨facet, low ++ ".", high⟩)
  | lowEnd {facet : Nat} {low w high : String} :
    Alike (.bounds ⟨facet, low, w ++ ".." ++ high⟩) (.bounds ⟨facet, low ++ ".." ++ w, high⟩)
  | valueBounds {facet : Nat} {low high : String} {v : Choice} {l : Logic} (htext : v.text = low ++ ".." ++ high) :
    Alike (.value ⟨"#" ++ toString facet, v, l⟩) (.bounds ⟨facet, low, high ++ ":" ++ l.name⟩)
  | keyBounds {facet : Nat} {w low high : String} {v : Choice} {l : Logic}
    (htext : w ++ "=" ++ v.text = low ++ ".." ++ high) :
    Alike (.value ⟨"#" ++ toString facet ++ "=" ++ w, v, l⟩) (.bounds ⟨facet, low, high ++ ":" ++ l.name⟩)

theorem Alike.line_eq {i j : Pick} (h : i.Alike j) : i.line = j.line := by
  cases h with
  | keyEnd htext => simp only [line, SearchState.selectionLine, htext, String.append_assoc]
  | point => simp only [line, SearchState.rangeLine, String.append_assoc]; rfl
  | lowEnd => simp only [line, SearchState.rangeLine, String.append_assoc]
  | valueBounds htext =>
    simp only [line, SearchState.selectionLine, SearchState.rangeLine, htext, String.append_assoc]
  | @keyBounds facet w low high v l htext =>
    have hrest : w ++ ("=" ++ (v.text ++ (":" ++ l.name))) = low ++ (".." ++ (high ++ (":" ++ l.name))) := by
      simpa only [String.append_assoc] using congrArg (· ++ (":" ++ l.name)) htext
    simp only [line, SearchState.selectionLine, SearchState.rangeLine, String.append_assoc, hrest]

private theorem ne_append {a b : String} (hb : b ≠ "") : a ≠ a ++ b := by
  intro h
  have hlist := congrArg String.toList h
  rw [String.toList_append, List.self_eq_append_right, String.toList_eq_nil_iff] at hlist
  exact hb hlist

/-- The key or the lower bound gets longer. -/
theorem Alike.ne {i j : Pick} (h : i.Alike j) : i ≠ j := by
  intro heq
  cases h with
  | keyEnd => exact ne_append (by simp) ((congrArg Selection.key (Pick.value.inj heq)).trans String.append_assoc)
  | point => exact ne_append (by simp) (congrArg FacetRange.low (Pick.bounds.inj heq))
  | lowEnd => exact ne_append (by simp) ((congrArg FacetRange.low (Pick.bounds.inj heq)).trans String.append_assoc)
  | valueBounds => cases heq
  | keyBounds => cases heq

/-! ### Reading a line -/

/-- Two ways to cut a text at a mark: they are the same, or one cuts at a mark in the other's second part. -/
private theorem cut_eq_iff {c : Char} {a b a' b' : List Char} :
    a ++ c :: b = a' ++ c :: b' ↔
      a = a' ∧ b = b' ∨ (∃ w, a' = a ++ c :: w ∧ b = w ++ c :: b') ∨ ∃ w, a = a' ++ c :: w ∧ b' = w ++ c :: b := by
  constructor
  · intro h
    rcases List.append_eq_append_iff.1 h with ⟨w, ha, hb⟩ | ⟨w, ha, hb⟩
    · cases w with
      | nil =>
        rw [List.append_nil] at ha
        exact Or.inl ⟨ha.symm, (List.cons.inj hb).2⟩
      | cons d w =>
        obtain ⟨rfl, htail⟩ := List.cons.inj hb
        exact Or.inr (Or.inl ⟨w, ha, htail⟩)
    · cases w with
      | nil =>
        rw [List.append_nil] at ha
        exact Or.inl ⟨ha, (List.cons.inj hb).2.symm⟩
      | cons d w =>
        obtain ⟨rfl, htail⟩ := List.cons.inj hb
        exact Or.inr (Or.inr ⟨w, ha, htail⟩)
  · rintro (⟨rfl, rfl⟩ | ⟨w, rfl, rfl⟩ | ⟨w, rfl, rfl⟩) <;> simp

/-- A mark that is in neither second part cuts a text in one way. -/
private theorem cut_last {c : Char} {a b a' b' : List Char} (h : a ++ c :: b = a' ++ c :: b') (hb : c ∉ b)
    (hb' : c ∉ b') : a = a' ∧ b = b' := by
  rcases cut_eq_iff.1 h with hsame | ⟨w, -, rfl⟩ | ⟨w, -, rfl⟩
  · exact hsame
  · simp at hb
  · simp at hb'

/-- A mark that is in neither first part cuts a text in one way. -/
private theorem cut_first {c : Char} {a b a' b' : List Char} (h : a ++ c :: b = a' ++ c :: b') (ha : c ∉ a)
    (ha' : c ∉ a') : a = a' ∧ b = b' := by
  rcases cut_eq_iff.1 h with hsame | ⟨w, rfl, -⟩ | ⟨w, rfl, -⟩
  · exact hsame
  · simp at ha'
  · simp at ha

/-- Two points in a text that ends without points stand before its last mark. -/
private theorem points_before {body name low high : List Char} {c : Char} (hc : c ≠ '.') (hname : '.' ∉ name)
    (h : body ++ c :: name = low ++ '.' :: '.' :: high) :
    ∃ rest, body = low ++ '.' :: '.' :: rest ∧ high = rest ++ c :: name := by
  have hpoints : body ++ c :: name = (low ++ ['.', '.']) ++ high := by simpa using h
  rcases List.append_eq_append_iff.1 hpoints with ⟨w, hbody, htail⟩ | ⟨rest, hbody, htail⟩
  · cases hw : w.getLast? with
    | none =>
      rw [List.getLast?_eq_none_iff] at hw
      subst hw
      exact ⟨[], by simpa using hbody.symm, by simpa using htail.symm⟩
    | some d =>
      -- the points would reach beyond the last mark
      have hd : d = '.' := by
        have hlast := congrArg List.getLast? hbody
        rw [List.getLast?_append, List.getLast?_append, hw] at hlast
        simpa using hlast.symm
      have hmem : '.' ∈ c :: name := by
        rw [htail]
        exact List.mem_append_left _ (hd ▸ List.mem_of_getLast? hw)
      rcases List.mem_cons.1 hmem with heq | hmem
      · exact absurd heq.symm hc
      · exact absurd hmem hname
  · exact ⟨rest, by simpa using hbody, htail⟩

private theorem toList_selectionLine (x : Selection) :
    (SearchState.selectionLine x).toList =
      x.key.toList ++ '=' :: (x.value.text.toList ++ ':' :: x.logic.name.toList) := by
  simp [SearchState.selectionLine]

private theorem toList_rangeLine (r : FacetRange) :
    (SearchState.rangeLine r).toList =
      ("#" ++ toString r.facet).toList ++ '=' :: (r.low.toList ++ '.' :: '.' :: r.high.toList) := by
  simp [SearchState.rangeLine]

/-- The mark of a range and the place of its facet hold no equals sign. -/
private theorem equals_not_mem_facet (facet : Nat) : '=' ∉ ("#" ++ toString facet).toList := by
  have hdigits : '=' ∉ Nat.toDigits 10 facet := fun hmem =>
    absurd (Nat.isDigit_of_mem_toDigits (by decide) (by decide) hmem) (by decide)
  simpa [toString] using hdigits

private theorem not_mem_name (l : Logic) : ':' ∉ l.name.toList ∧ '.' ∉ l.name.toList := by
  cases l <;> decide

private theorem logic_of_name {l l' : Logic} (h : l.name = l'.name) : l = l' := by
  cases l <;> cases l' <;> simp_all [Logic.name]

/-- Readable choices are told apart by their texts. -/
private theorem choice_of_text {v v' : Choice} (hv : v.Readable) (hv' : v'.Readable) (h : v.text = v'.text) :
    v = v' := by
  cases v with
  | term a =>
    cases v' with
    | term b => exact congrArg Choice.term h
    | undefined => exact absurd (congrArg Choice.term h) hv
  | undefined =>
    cases v' with
    | term b => exact absurd (congrArg Choice.term h.symm) hv'
    | undefined => rfl

/-- Two selections with one line: the same one twice, or the end of one key is in the other one's value. -/
private theorem alike_values {x y : Selection} (hx : x.value.Readable) (hy : y.value.Readable)
    (h : SearchState.selectionLine x = SearchState.selectionLine y) :
    x = y ∨ Alike (.value x) (.value y) ∨ Alike (.value y) (.value x) := by
  obtain ⟨k, v, l⟩ := x
  obtain ⟨k', v', l'⟩ := y
  have hlines := congrArg String.toList h
  rw [toList_selectionLine, toList_selectionLine] at hlines
  have hsplit : (k.toList ++ '=' :: v.text.toList) ++ ':' :: l.name.toList =
      (k'.toList ++ '=' :: v'.text.toList) ++ ':' :: l'.name.toList := by simpa using hlines
  obtain ⟨hpair, hname⟩ := cut_last hsplit (not_mem_name l).1 (not_mem_name l').1
  obtain rfl : l = l' := logic_of_name (String.toList_injective hname)
  rcases cut_eq_iff.1 hpair with ⟨hkey, htext⟩ | ⟨w, hkey, htext⟩ | ⟨w, hkey, htext⟩
  · obtain rfl : k = k' := String.toList_injective hkey
    obtain rfl : v = v' := choice_of_text hx hy (String.toList_injective htext)
    exact Or.inl rfl
  · obtain rfl : k' = k ++ "=" ++ String.ofList w := String.toList_injective (by simpa using hkey)
    exact Or.inr (Or.inl (.keyEnd (String.toList_injective (by simpa using htext))))
  · obtain rfl : k = k' ++ "=" ++ String.ofList w := String.toList_injective (by simpa using hkey)
    exact Or.inr (Or.inr (.keyEnd (String.toList_injective (by simpa using htext))))

/-- A lower bound that goes on in the points of the other one, or beyond them. -/
private theorem alike_of_longer_low {facet : Nat} {low high low' high' : String} {w : List Char}
    (hlow : low'.toList = low.toList ++ '.' :: w) (hhigh : '.' :: high.toList = w ++ '.' :: '.' :: high'.toList) :
    Alike (.bounds ⟨facet, low, high⟩) (.bounds ⟨facet, low', high'⟩) := by
  cases w with
  | nil =>
    obtain rfl : low' = low ++ "." := String.toList_injective (by simpa using hlow)
    obtain rfl : high = "." ++ high' := String.toList_injective (by simpa using hhigh)
    exact .point
  | cons d w =>
    obtain ⟨rfl, htail⟩ := List.cons.inj hhigh
    obtain rfl : low' = low ++ ".." ++ String.ofList w := String.toList_injective (by simpa using hlow)
    obtain rfl : high = String.ofList w ++ ".." ++ high' := String.toList_injective (by simpa using htail)
    exact .lowEnd

/-- Two ranges with one line: the same one twice, or the end of one lower bound is in the other one's upper bound. -/
private theorem alike_bounds {r q : FacetRange} (h : SearchState.rangeLine r = SearchState.rangeLine q) :
    r = q ∨ Alike (.bounds r) (.bounds q) ∨ Alike (.bounds q) (.bounds r) := by
  obtain ⟨facet, low, high⟩ := r
  obtain ⟨facet', low', high'⟩ := q
  have hlines := congrArg String.toList h
  rw [toList_rangeLine, toList_rangeLine] at hlines
  obtain ⟨hfacet, hbounds⟩ := cut_first hlines (equals_not_mem_facet _) (equals_not_mem_facet _)
  obtain rfl : facet = facet' := by
    have hdigits : Nat.toDigits 10 facet = Nat.toDigits 10 facet' := by simpa [toString] using hfacet
    rw [← Nat.ofDigitChars_ten_toDigits (n := facet), hdigits, Nat.ofDigitChars_ten_toDigits]
  rcases cut_eq_iff.1 hbounds with ⟨hlow, hhigh⟩ | ⟨w, hlow, hhigh⟩ | ⟨w, hlow, hhigh⟩
  · obtain rfl : low = low' := String.toList_injective hlow
    obtain rfl : high = high' := String.toList_injective (List.cons.inj hhigh).2
    exact Or.inl rfl
  · exact Or.inr (Or.inl (alike_of_longer_low hlow hhigh))
  · exact Or.inr (Or.inr (alike_of_longer_low hlow hhigh))

/-- A selection and a range with one line. -/
private theorem alike_value_bounds {x : Selection} {r : FacetRange}
    (h : SearchState.selectionLine x = SearchState.rangeLine r) : Alike (.value x) (.bounds r) := by
  obtain ⟨k, v, l⟩ := x
  obtain ⟨facet, low, high⟩ := r
  have hlines := congrArg String.toList h
  rw [toList_selectionLine, toList_rangeLine] at hlines
  have hcolon : ':' ≠ '.' := by decide
  rcases cut_eq_iff.1 hlines with ⟨hkey, htail⟩ | ⟨w, hfacet, -⟩ | ⟨w, hkey, htail⟩
  · obtain ⟨rest, htext, hhigh⟩ := points_before hcolon (not_mem_name l).2 htail
    obtain rfl : k = "#" ++ toString facet := String.toList_injective hkey
    obtain rfl : high = String.ofList rest ++ ":" ++ l.name := String.toList_injective (by simpa using hhigh)
    exact .valueBounds (String.toList_injective (by simpa using htext))
  · have hmem := equals_not_mem_facet facet
    rw [hfacet] at hmem
    simp at hmem
  · have hbody : (w ++ '=' :: v.text.toList) ++ ':' :: l.name.toList = low.toList ++ '.' :: '.' :: high.toList := by
      simpa using htail.symm
    obtain ⟨rest, htext, hhigh⟩ := points_before hcolon (not_mem_name l).2 hbody
    obtain rfl : k = "#" ++ toString facet ++ "=" ++ String.ofList w := String.toList_injective (by simpa using hkey)
    obtain rfl : high = String.ofList rest ++ ":" ++ l.name := String.toList_injective (by simpa using hhigh)
    exact .keyBounds (String.toList_injective (by simpa using htext))

/-- Two readable picks have one line just when they are the same or alike. -/
theorem line_eq_iff {i j : Pick} (hi : i.Readable) (hj : j.Readable) :
    i.line = j.line ↔ i = j ∨ i.Alike j ∨ j.Alike i := by
  constructor
  · intro h
    cases i with
    | value x =>
      cases j with
      | value y => exact (alike_values hi hj h).imp_left (congrArg Pick.value)
      | bounds r => exact Or.inr (Or.inl (alike_value_bounds h))
    | bounds r =>
      cases j with
      | value x => exact Or.inr (Or.inr (alike_value_bounds h.symm))
      | bounds q => exact (alike_bounds h).imp_left (congrArg Pick.bounds)
  · rintro (rfl | h | h)
    · rfl
    · exact h.line_eq
    · exact h.line_eq.symm

end Pick

namespace SearchState

/-! ### Lines in order -/

private theorem dropRepeats_sublist (xs : List String) : (dropRepeats xs).Sublist xs := by
  fun_induction dropRepeats xs with
  | case1 => exact .slnil
  | case2 => exact .refl _
  | case3 _ _ ih => exact ih.cons _
  | case4 _ _ _ _ ih => exact ih.cons_cons _

private theorem mem_dropRepeats_iff {a : String} {xs : List String} : a ∈ dropRepeats xs ↔ a ∈ xs := by
  fun_induction dropRepeats xs with
  | case1 => rfl
  | case2 => rfl
  | case3 b xs ih => simp [ih]
  | case4 b d xs _ ih => rw [List.mem_cons, ih, List.mem_cons (a := a) (b := b)]

/-- In an ascending list all repetitions of a text are neighbours. -/
private theorem nodup_dropRepeats {xs : List String} (h : xs.Pairwise (· ≤ ·)) : (dropRepeats xs).Nodup := by
  fun_induction dropRepeats xs with
  | case1 => exact List.nodup_nil
  | case2 => exact List.pairwise_singleton ..
  | case3 _ _ ih => exact ih (List.pairwise_cons.1 h).2
  | case4 a b xs hne ih =>
    obtain ⟨hfirst, hrest⟩ := List.pairwise_cons.1 h
    refine List.nodup_cons.2 ⟨fun hmem => hne ?_, ih hrest⟩
    have hab : a ≤ b := hfirst b (List.mem_cons_self ..)
    rcases List.mem_cons.1 (mem_dropRepeats_iff.1 hmem) with heq | hmem
    · exact heq
    · exact String.le_antisymm hab ((List.pairwise_cons.1 hrest).1 a hmem)

/-- All that is picked: the selections and the ranges. -/
def picks (s : SearchState) : List Pick := s.selections.map .value ++ s.ranges.map .bounds

theorem signature_eq (s : SearchState) :
    s.signature = dropRepeats ((s.picks.map Pick.line).mergeSort (· ≤ ·)) := by
  rw [signature, picks, List.map_append, List.map_map, List.map_map]
  rfl

theorem mem_signature_iff {s : SearchState} {line : String} :
    line ∈ s.signature ↔ ∃ i ∈ s.picks, i.line = line := by
  rw [signature_eq, mem_dropRepeats_iff, List.mem_mergeSort, List.mem_map]

private theorem pairwise_lines (xs : List String) : (xs.mergeSort (· ≤ ·)).Pairwise (· ≤ ·) := by
  refine (List.pairwise_mergeSort (fun a b c hab hbc => ?_) (fun a b => ?_) xs).imp of_decide_eq_true
  · exact decide_eq_true (String.le_trans (of_decide_eq_true hab) (of_decide_eq_true hbc))
  · rw [Bool.or_eq_true]
    exact (String.le_total a b).imp decide_eq_true decide_eq_true

/-- A signature is given by the lines that stand in it. -/
theorem signature_eq_iff (s t : SearchState) :
    s.signature = t.signature ↔ ∀ line, line ∈ s.signature ↔ line ∈ t.signature := by
  refine ⟨fun h line => by rw [h], fun h => ?_⟩
  have hsorted : ∀ u : SearchState, u.signature.Pairwise (· ≤ ·) ∧ u.signature.Nodup := fun u => by
    rw [signature_eq]
    exact ⟨(pairwise_lines _).sublist (dropRepeats_sublist _), nodup_dropRepeats (pairwise_lines _)⟩
  exact ((List.perm_ext_iff_of_nodup (hsorted s).2 (hsorted t).2).2 h).eq_of_pairwise
    (fun _ _ _ _ => String.le_antisymm) (hsorted s).1 (hsorted t).1

/-- Two states have the same selections and the same ranges, in any order. -/
def SamePicks (s t : SearchState) : Prop :=
  (∀ x, x ∈ s.selections ↔ x ∈ t.selections) ∧ ∀ r, r ∈ s.ranges ↔ r ∈ t.ranges

theorem samePicks_iff {s t : SearchState} : s.SamePicks t ↔ ∀ i, i ∈ s.picks ↔ i ∈ t.picks := by
  have hvalue : ∀ (u : SearchState) x, Pick.value x ∈ u.picks ↔ x ∈ u.selections := by simp [picks]
  have hbounds : ∀ (u : SearchState) r, Pick.bounds r ∈ u.picks ↔ r ∈ u.ranges := by simp [picks]
  constructor
  · rintro ⟨hselections, hranges⟩ (x | r)
    · rw [hvalue, hvalue, hselections]
    · rw [hbounds, hbounds, hranges]
  · intro h
    exact ⟨fun x => by rw [← hvalue, ← hvalue, h], fun r => by rw [← hbounds, ← hbounds, h]⟩

theorem Readable.picks {s : SearchState} (h : s.Readable) : ∀ i ∈ s.picks, i.Readable := by
  intro i hi
  rcases List.mem_append.1 hi with hi | hi
  · obtain ⟨x, hx, rfl⟩ := List.mem_map.1 hi
    exact h x hx
  · obtain ⟨r, -, rfl⟩ := List.mem_map.1 hi
    trivial

/-- Readable states have one signature just when each pick of one of them stands in the other one, or another pick
with its line does. -/
theorem Readable.signature_eq_iff {s t : SearchState} (hs : s.Readable) (ht : t.Readable) :
    s.signature = t.signature ↔
      (∀ i ∈ s.picks, ∃ j ∈ t.picks, i = j ∨ i.Alike j ∨ j.Alike i) ∧
        ∀ j ∈ t.picks, ∃ i ∈ s.picks, i = j ∨ i.Alike j ∨ j.Alike i := by
  have hline : ∀ i ∈ s.picks, ∀ j ∈ t.picks, (i = j ∨ i.Alike j ∨ j.Alike i ↔ i.line = j.line) := fun i hi j hj =>
    (Pick.line_eq_iff (hs.picks i hi) (ht.picks j hj)).symm
  rw [SearchState.signature_eq_iff]
  constructor
  · intro h
    refine ⟨fun i hi => ?_, fun j hj => ?_⟩
    · obtain ⟨j, hj, hsame⟩ := mem_signature_iff.1 ((h i.line).1 (mem_signature_iff.2 ⟨i, hi, rfl⟩))
      exact ⟨j, hj, (hline i hi j hj).2 hsame.symm⟩
    · obtain ⟨i, hi, hsame⟩ := mem_signature_iff.1 ((h j.line).2 (mem_signature_iff.2 ⟨j, hj, rfl⟩))
      exact ⟨i, hi, (hline i hi j hj).2 hsame⟩
  · rintro ⟨hst, hts⟩ line
    rw [mem_signature_iff, mem_signature_iff]
    constructor
    · rintro ⟨i, hi, rfl⟩
      obtain ⟨j, hj, halike⟩ := hst i hi
      exact ⟨j, hj, ((hline i hi j hj).1 halike).symm⟩
    · rintro ⟨j, hj, rfl⟩
      obtain ⟨i, hi, halike⟩ := hts j hj
      exact ⟨i, hi, (hline i hi j hj).1 halike⟩

end SearchState

/-- Two empty states are taken through commands whose values come from texts.  The same selections and ranges make the
same signature.  Conversely, the signatures are the same just when each selection or range of one state stands in the
other one, or one that is alike does; so where none is alike to a different one of the other state, only the same
selections and ranges make the same signature. -/
theorem signature_eq_iff_same_picks (c d : Config) (p q : Page) (cmds cmds' : List Command)
    (htext : ∀ cmd ∈ cmds, cmd.FromText) (htext' : ∀ cmd ∈ cmds', cmd.FromText) :
    let s := c.run (.start p) cmds
    let t := d.run (.start q) cmds'
    (s.SamePicks t → s.signature = t.signature) ∧
      (s.signature = t.signature ↔
        (∀ i ∈ s.picks, ∃ j ∈ t.picks, i = j ∨ i.Alike j ∨ j.Alike i) ∧
          ∀ j ∈ t.picks, ∃ i ∈ s.picks, i = j ∨ i.Alike j ∨ j.Alike i) ∧
      ((∀ i ∈ s.picks, ∀ j ∈ t.picks, ¬i.Alike j ∧ ¬j.Alike i) → (s.signature = t.signature ↔ s.SamePicks t)) := by
  intro s t
  have hs : s.Readable :=
    Config.run_preserves (P := SearchState.Readable) (fun _ cmd hcmd hs => hs.apply c (htext cmd hcmd)) nofun
  have ht : t.Readable :=
    Config.run_preserves (P := SearchState.Readable) (fun _ cmd hcmd ht => ht.apply d (htext' cmd hcmd)) nofun
  have hiff := hs.signature_eq_iff ht
  have hsame : s.SamePicks t → s.signature = t.signature := by
    intro h
    have hpicks := SearchState.samePicks_iff.1 h
    exact hiff.2 ⟨fun i hi => ⟨i, (hpicks i).1 hi, Or.inl rfl⟩, fun j hj => ⟨j, (hpicks j).2 hj, Or.inl rfl⟩⟩
  refine ⟨hsame, hiff, fun hnone => ⟨fun hsig => ?_, hsame⟩⟩
  obtain ⟨hst, hts⟩ := hiff.1 hsig
  refine SearchState.samePicks_iff.2 fun i => ⟨fun hi => ?_, fun hi => ?_⟩
  · obtain ⟨j, hj, rfl | hij | hji⟩ := hst i hi
    · exact hj
    · exact absurd hij (hnone i hi j hj).1
    · exact absurd hji (hnone i hi j hj).2
  · obtain ⟨j, hj, rfl | hji | hij⟩ := hts i hi
    · exact hj
    · exact absurd hji (hnone j hj i hi).1
    · exact absurd hij (hnone j hj i hi).2

/-- A size and a range are picked in one order and in the other one, and no two of them are alike. -/
theorem signature_in_either_order :
    let c : Config := { facets := [{ field := "size" }, { field := "year" }] }
    let cmds := [Command.addSelection "size" (.ofText "S") none, .setRange 1 "1990" "2000"]
    let s := c.run (.start {}) cmds
    let t := c.run (.start {}) cmds.reverse
    (∀ cmd ∈ cmds, cmd.FromText) ∧ (∀ i ∈ s.picks, ∀ j ∈ t.picks, ¬i.Alike j ∧ ¬j.Alike i) ∧ s.SamePicks t ∧
      s.signature = t.signature := by
  intro c cmds s t
  have htext : ∀ cmd ∈ cmds, cmd.FromText := by
    simp only [cmds, List.forall_mem_cons, Command.FromText]
    exact ⟨⟨_, rfl⟩, trivial, nofun⟩
  have hone : ∀ i ∈ s.picks, ∀ j ∈ t.picks, i.line = j.line → i = j := by decide
  have hnone : ∀ i ∈ s.picks, ∀ j ∈ t.picks, ¬i.Alike j ∧ ¬j.Alike i := fun i hi j hj =>
    ⟨fun h => h.ne (hone i hi j hj h.line_eq), fun h => h.ne (hone i hi j hj h.line_eq.symm).symm⟩
  have hsame : s.SamePicks t := by
    have ht : t.picks = s.picks := by decide
    exact SearchState.samePicks_iff.2 fun i => by rw [ht]
  refine ⟨htext, hnone, hsame, ?_⟩
  exact ((signature_eq_iff_same_picks c c {} {} cmds cmds.reverse htext
    fun cmd hcmd => htext cmd (List.mem_reverse.1 hcmd)).2.2 hnone).2 hsame

/-- The equals sign in a key is taken for the one behind a key. -/
theorem signature_of_longer_key :
    let c : Config := { root := some "" }
    let s := c.run c.startState [.addSelection "size" (.ofText "S=M") (some .and)]
    let t := c.run c.startState [.addSelection "size=S" (.ofText "M") (some .and)]
    Config.merge [⟨"search.toml", {}⟩] = .ok c ∧ s.signature = t.signature ∧
      s.selections = [⟨"size", .term "S=M", .and⟩] ∧ t.selections = [⟨"size=S", .term "M", .and⟩] ∧
      ¬s.SamePicks t := by
  intro c s t
  have hlines : s.picks.map Pick.line = t.picks.map Pick.line := by decide
  refine ⟨by rfl, ?_, by decide, by decide, fun h => ?_⟩
  · rw [SearchState.signature_eq, SearchState.signature_eq, hlines]
  · exact absurd ((h.1 ⟨"size", .term "S=M", .and⟩).1 (by decide)) (by decide)

end FacetedSearch
