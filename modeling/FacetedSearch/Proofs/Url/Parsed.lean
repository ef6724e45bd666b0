import FacetedSearch.Proofs.Text.Reading
import FacetedSearch.Proofs.Url.Form
import FacetedSearch.Url.Reader

/-!
# Addresses that were read

Whatever address is read, its written form begins with a letter, the first one of the scheme, and has no blank at its
end once it has a query.

* `Url.Printed`: what the parts of such an address look like.
* `printed_of_parse`: every address that was read is of this kind.
* `trimmed_text`: its text is not trimmed.
* `parse_eq_noScheme`: a text without a colon is no address.
-/

namespace FacetedSearch

/-! ### Escaped text -/

/-- Text is visible if all characters of ASCII are escaped that are not. -/
theorem Percent.isVisible_of_mem_encode {escaped : Char → Bool}
    (hescaped : ∀ c, c.toNat < 0x80 → escaped c = false → IsVisible c) {s : List Char} {c : Char}
    (h : c ∈ encode escaped s) : IsVisible c := by
  obtain ⟨d, -, hc⟩ := List.mem_flatMap.1 h
  split at hc
  · obtain ⟨b, -, hc⟩ := List.mem_flatMap.1 hc
    rcases mem_escape hc with rfl | hc
    · exact ⟨by decide, by decide⟩
    · exact .of_isAlphanum hc
  · rename_i hkept
    rw [Bool.or_eq_true, decide_eq_true_eq, not_or, Bool.not_eq_true] at hkept
    rw [List.mem_singleton.1 hc]
    exact hescaped d (Nat.lt_of_not_le hkept.1) hkept.2

theorem isVisible_of_not_inFragment {c : Char} (hc : c.toNat < 0x80) (h : Percent.inFragment c = false) :
    IsVisible c := by
  simp only [Percent.inFragment, Percent.isControl, Bool.or_eq_false_iff, decide_eq_false_iff_not,
    List.contains_eq_mem, List.mem_cons, not_or] at h
  obtain ⟨⟨hlow, hdel⟩, hblank, -⟩ := h
  have hne : c.toNat ≠ 0x20 := fun heq => hblank (by rw [← Char.ofNat_toNat c, heq])
  constructor <;> omega

namespace Url

/-! ### Schemes -/

theorem isAlphanum_toLower {c : Char} (h : c.isAlpha = true) : c.toLower.isAlphanum = true := by
  have hc : IsVisible c := .of_isAlphanum ((Bool.or_eq_true _ _).mpr (Or.inl h))
  have hall : ∀ n < 0x80, (Char.ofNat n).isAlpha = true → (Char.ofNat n).toLower.isAlphanum = true := by decide
  exact forall_ascii (p := fun c => c.isAlpha = true → c.toLower.isAlphanum = true) hall
    (by have := hc.below; omega) h

/-- A scheme is cut off in front of a colon, and begins with a letter. -/
theorem of_splitScheme? {s rest : List Char} {scheme : String} (h : splitScheme? s = some (scheme, rest)) :
    ':' ∈ s ∧ ∃ c t, scheme.toList = c :: t ∧ c.isAlphanum = true := by
  cases s with
  | nil => cases h
  | cons c s =>
    rw [splitScheme?] at h
    split at h
    · rename_i hc
      split at h
      · rename_i behind hbehind
        cases h
        have hcolon : ':' ∈ s.dropWhile isSchemeChar := by
          rw [hbehind]
          exact List.mem_cons_self ..
        refine ⟨List.mem_cons_of_mem _ ((List.dropWhile_suffix _).subset hcolon), c.toLower,
          (s.takeWhile isSchemeChar).map Char.toLower, ?_, isAlphanum_toLower hc⟩
        rw [String.toList_ofList, List.map_cons]
      · cases h
    · cases h

theorem mem_of_mem_trim {s : List Char} {c : Char} (h : c ∈ trim s) : c ∈ s := by
  rw [trim, List.mem_reverse] at h
  exact (List.dropWhile_suffix _).subset (List.mem_reverse.1 ((List.dropWhile_suffix _).subset h))

/-- A text without a colon is no address. -/
theorem parse_eq_noScheme {text : String} (h : ':' ∉ text.toList) : parse text = .error .noScheme := by
  rw [parse]
  cases hscheme : splitScheme? ((trim text.toList).filter (!isBreak ·)) with
  | none => rfl
  | some p => exact absurd (mem_of_mem_trim (List.mem_filter.1 (of_splitScheme? hscheme).1).1) h

/-! ### Parts -/

/-- What the parts of an address that was read look like: the scheme begins with a letter or a digit, and the fragment
is visible. -/
structure Printed (u : Url) : Prop where
  scheme : ∃ c t, u.scheme.toList = c :: t ∧ c.isAlphanum = true
  fragment : ∀ f, u.fragment = some f → ∀ c ∈ f.toList, IsVisible c

theorem printed_finish {scheme : String} {authority : Option Authority} {path : UrlPath} {rest : List Char}
    (h : ∃ c t, scheme.toList = c :: t ∧ c.isAlphanum = true) : (finish scheme authority path rest).Printed := by
  refine ⟨h, fun f hf c hc => ?_⟩
  have hread : readFragment (rest.dropWhile (· != '#')) = some f := hf
  unfold readFragment at hread
  split at hread
  · cases hread
    rw [String.toList_ofList] at hc
    exact Percent.isVisible_of_mem_encode (fun _ => isVisible_of_not_inFragment) hc
  · cases hread

theorem exists_finish_of_readFile {isCutBefore : Nat → Bool} {s : List Char} {u : Url}
    (h : readFile isCutBefore s = .ok u) : ∃ authority path rest, u = finish "file" authority path rest := by
  unfold readFile at h
  split at h
  · split at h
    all_goals
      obtain ⟨⟨host, rest⟩, -, h⟩ := exists_of_bind_eq_ok h
      cases h
      exact ⟨_, _, _, rfl⟩
  all_goals
    obtain ⟨⟨host, rest⟩, -, h⟩ := exists_of_bind_eq_ok h
    cases h
    exact ⟨_, _, _, rfl⟩

/-- Every address that was read is printed. -/
theorem printed_of_parse {text : String} {u : Url} (h : parse text = .ok u) : u.Printed := by
  rw [parse] at h
  split at h
  · cases h
  rename_i scheme s hsplit
  obtain ⟨-, hscheme⟩ := of_splitScheme? hsplit
  split at h
  · obtain ⟨_, _, _, rfl⟩ := exists_finish_of_readFile h
    exact printed_finish ⟨'f', ['i', 'l', 'e'], rfl, rfl⟩
  split at h
  · obtain ⟨⟨a, rest⟩, -, h⟩ := exists_of_bind_eq_ok h
    cases h
    exact printed_finish hscheme
  · unfold readOther at h
    split at h
    · obtain ⟨⟨a, rest⟩, -, h⟩ := exists_of_bind_eq_ok h
      cases h
      exact printed_finish hscheme
    · cases h
      exact printed_finish hscheme
    · cases h
      exact printed_finish hscheme

/-! ### The text of an address -/

theorem isVisible_of_mem_markedText (mark : Char) {part : Option String} (hmark : IsVisible mark)
    (hpart : ∀ s, part = some s → ∀ c ∈ s.toList, IsVisible c) :
    ∀ c ∈ (markedText (String.ofList [mark]) part).toList, IsVisible c := by
  intro c hc
  cases part with
  | none => cases hc
  | some s =>
    rw [markedText, String.toList_append, String.toList_ofList] at hc
    rcases List.mem_append.1 hc with hc | hc
    · rwa [List.mem_singleton.1 hc]
    · exact hpart s rfl c hc

/-- The characters from the query on. -/
theorem isVisible_of_mem_tail {u : Url} (h : u.Printed) {q : String} (hq : ∀ c ∈ q.toList, IsVisible c) :
    ∀ c ∈ (markedText "?" (some q) ++ markedText "#" u.fragment).toList, IsVisible c := by
  intro c hc
  rw [String.toList_append] at hc
  rcases List.mem_append.1 hc with hc | hc
  · refine isVisible_of_mem_markedText '?' ⟨by decide, by decide⟩ (fun s hs => ?_) c hc
    rwa [← Option.some.inj hs]
  · exact isVisible_of_mem_markedText '#' ⟨by decide, by decide⟩ h.fragment c hc

/-- The text of an address begins with its scheme. -/
theorem head_text {u : Url} (h : u.Printed) : ∃ c, u.text.toList.head? = some c ∧ c.isAlphanum = true := by
  obtain ⟨c, t, hscheme, hc⟩ := h.scheme
  refine ⟨c, ?_, hc⟩
  rw [text, String.append_assoc, String.append_assoc, String.append_assoc, String.toList_append, hscheme]
  rfl

/-- The text of an address with a visible query is not trimmed. -/
theorem trimmed_text {u : Url} (h : u.Printed) {q : String} (hquery : u.query = some q)
    (hq : ∀ c ∈ q.toList, IsVisible c) : trimmed u.text = u.text := by
  obtain ⟨c, hhead, hc⟩ := head_text h
  refine trimmed_eq_self (fun d hd => ?_) (fun d hd => ?_)
  · rw [hhead] at hd
    cases hd
    exact (IsVisible.of_isAlphanum hc).not_blank
  · have hsplit : u.text.toList = (u.scheme ++ ":" ++ u.leadText ++ u.path.text).toList ++
        (markedText "?" (some q) ++ markedText "#" u.fragment).toList := by
      rw [text, target, hquery, ← String.toList_append]
      simp only [String.append_assoc]
    have hsome : (markedText "?" (some q) ++ markedText "#" u.fragment).toList ≠ [] := by
      rw [markedText, String.toList_append, String.toList_append]
      nofun
    rw [hsplit, List.getLast?_append, List.getLast?_eq_some_getLast hsome, Option.some_or] at hd
    cases hd
    exact (isVisible_of_mem_tail h hq _ (List.getLast_mem hsome)).not_blank

end Url

end FacetedSearch
