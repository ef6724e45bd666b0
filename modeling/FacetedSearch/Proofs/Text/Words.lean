import FacetedSearch.Logic

/-!
# The words of a text

A word is a run of characters that are not blank, as long as can be.  A text falls into words and the blanks around
them in one way only, so words that were put together by single spaces are found again.

* `Spaced`: the words that a text consists of, apart from blanks.
* `words_eq_iff`: these are the words that are found.
* `words_joinWords`: words with single spaces between them are found again.
-/

namespace FacetedSearch

/-- The words that a text consists of, with blanks before, between and after them. -/
inductive Spaced : List (List Char) → List Char → Prop
  | nil : Spaced [] []
  | blank {ws s} (c : Char) : isBlank c = true → Spaced ws s → Spaced ws (c :: s)
  | word {ws s} (w : List Char) : w ≠ [] → (∀ c ∈ w, isBlank c = false) →
      (∀ c, s.head? = some c → isBlank c = true) → Spaced ws s → Spaced (w :: ws) (w ++ s)

private theorem words_cons_blank {c : Char} (hc : isBlank c = true) (s : List Char) : words (c :: s) = words s := by
  unfold words
  rw [cutWhere, if_pos hc]
  rfl

/-- A run of characters that are not blank, up to a blank or the end, is the first word. -/
private theorem words_append {w s : List Char} (hw : w ≠ []) (hletters : ∀ c ∈ w, isBlank c = false)
    (hs : ∀ c, s.head? = some c → isBlank c = true) : words (w ++ s) = w :: words s := by
  have hkept : [w].filter (fun v => !v.isEmpty) = [w] := by
    cases w with
    | nil => exact absurd rfl hw
    | cons c w => rfl
  cases s with
  | nil =>
    rw [List.append_nil, words, cutWhere_eq_singleton hletters, hkept]
    rfl
  | cons b s =>
    have hb : isBlank b = true := hs b rfl
    rw [words_cons_blank hb, words, cutWhere_append_cons hb, cutWhere_eq_singleton hletters, List.filter_append, hkept]
    rfl

theorem words_of_spaced {ws : List (List Char)} {s : List Char} (h : Spaced ws s) : words s = ws := by
  induction h with
  | nil => rfl
  | blank c hc _ ih => rw [words_cons_blank hc, ih]
  | word w hw hletters hs _ ih => rw [words_append hw hletters hs, ih]

private theorem exists_spaced (s : List Char) : ∃ ws, Spaced ws s := by
  induction s with
  | nil => exact ⟨[], Spaced.nil⟩
  | cons c s ih =>
    obtain ⟨ws, h⟩ := ih
    cases hc : isBlank c with
    | true => exact ⟨ws, Spaced.blank c hc h⟩
    | false =>
      have hone : ∀ d ∈ [c], isBlank d = false := fun d hd => List.mem_singleton.1 hd ▸ hc
      -- the character is a word of its own in front of a blank, and otherwise goes to the word that begins there
      cases h with
      | nil => exact ⟨[[c]], Spaced.word [c] (List.cons_ne_nil _ _) hone (by simp) Spaced.nil⟩
      | blank b hb h =>
        refine ⟨[c] :: ws, Spaced.word [c] (List.cons_ne_nil _ _) hone ?_ (Spaced.blank b hb h)⟩
        intro d hd
        exact Option.some.inj hd ▸ hb
      | word w _ hletters hs h =>
        refine ⟨(c :: w) :: _, Spaced.word (c :: w) (List.cons_ne_nil _ _) ?_ hs h⟩
        exact List.forall_mem_cons.2 ⟨hc, hletters⟩

/-- Every text consists of the words that are found in it. -/
theorem spaced_words (s : List Char) : Spaced (words s) s := by
  obtain ⟨ws, h⟩ := exists_spaced s
  rwa [words_of_spaced h]

theorem words_eq_iff {ws : List (List Char)} {s : List Char} : words s = ws ↔ Spaced ws s :=
  ⟨fun h => h ▸ spaced_words s, words_of_spaced⟩

/-- The words that are found have characters, and none of these is blank. -/
theorem word_of_mem_words {s w : List Char} (h : w ∈ words s) : w ≠ [] ∧ ∀ c ∈ w, isBlank c = false := by
  have hs := spaced_words s
  generalize words s = ws at h hs
  induction hs with
  | nil => cases h
  | blank _ _ _ ih => exact ih h
  | word v hv hletters _ _ ih =>
    rcases List.mem_cons.1 h with rfl | h
    · exact ⟨hv, hletters⟩
    · exact ih h

theorem joinWords_eq_intercalate (ws : List (List Char)) : joinWords ws = [' '].intercalate ws := by
  induction ws with
  | nil => rfl
  | cons w ws ih =>
    cases ws with
    | nil => simp [joinWords]
    | cons v vs => rw [joinWords, ih, List.intercalate_cons_cons, List.append_assoc]; rfl

theorem spaced_joinWords {ws : List (List Char)} (h : ∀ w ∈ ws, w ≠ [] ∧ ∀ c ∈ w, isBlank c = false) :
    Spaced ws (joinWords ws) := by
  induction ws with
  | nil => exact Spaced.nil
  | cons w ws ih =>
    obtain ⟨hw, hletters⟩ := h w (List.mem_cons_self ..)
    have ih := ih fun v hv => h v (List.mem_cons_of_mem _ hv)
    cases ws with
    | nil =>
      have hlast := Spaced.word w hw hletters (by simp) Spaced.nil
      rwa [List.append_nil] at hlast
    | cons v vs =>
      rw [joinWords]
      refine Spaced.word w hw hletters ?_ (Spaced.blank ' ' (by decide) ih)
      intro c hc
      rw [← Option.some.inj hc]
      decide

end FacetedSearch
