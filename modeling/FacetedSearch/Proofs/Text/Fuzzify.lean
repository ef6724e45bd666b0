import FacetedSearch.Proofs.Text.Words

/-!
# Loosening words twice

A text that was loosened is in query syntax, unless it had no words, so loosening it again keeps it.  Its words are
those of the text it came from, with their marks, and the marks can be taken off again.

* `fuzzifyText_fuzzifyText`: loosening is idempotent.
* `isBlankText_fuzzifyText`: loosening keeps whether a text is blank.
* `fuzzifyText_marks_words`: what loosening does to the words of a text.
-/

namespace FacetedSearch

private theorem mem_joinWords {ws : List (List Char)} {w : List Char} {c : Char} (hw : w ∈ ws) (hc : c ∈ w) :
    c ∈ joinWords ws := by
  induction ws with
  | nil => cases hw
  | cons v vs ih =>
    cases vs with
    | nil =>
      rw [List.mem_singleton.1 hw] at hc
      exact hc
    | cons u us =>
      rw [joinWords]
      rcases List.mem_cons.1 hw with rfl | hw
      · exact List.mem_append_left _ hc
      · exact List.mem_append_right _ (List.mem_cons_of_mem _ (ih hw))

/-- A decorated word carries a character of the query syntax. -/
private theorem decorate_any {f : Fuzziness} (hf : f ≠ .off) (w : List Char) :
    ∃ c ∈ f.decorate w, isQuerySyntax c = true ∧ isBlank c = false := by
  cases f with
  | off => exact absurd rfl hf
  | wildcard => exact ⟨'*', by simp [Fuzziness.decorate], by decide, by decide⟩
  | approximate => exact ⟨'~', by simp [Fuzziness.decorate], by decide, by decide⟩

/-- A text stays as it is, loses its blanks, or comes to hold a character of the query syntax. -/
private theorem fuzzify_cases (f : Fuzziness) (text : List Char) :
    fuzzify f text = text ∨ (words text = [] ∧ fuzzify f text = []) ∨
      (words text ≠ [] ∧ ∃ c ∈ fuzzify f text, isQuerySyntax c = true ∧ isBlank c = false) := by
  by_cases hkept : f = .off ∨ text.any isQuerySyntax
  · exact Or.inl (by rw [fuzzify, if_pos hkept])
  · have heq : fuzzify f text = joinWords ((words text).map f.decorate) := by rw [fuzzify, if_neg hkept]
    rw [heq]
    cases hwords : words text with
    | nil => exact Or.inr (Or.inl ⟨rfl, rfl⟩)
    | cons w ws =>
      obtain ⟨c, hc, hsyntax⟩ := decorate_any (fun hf => hkept (Or.inl hf)) w
      exact Or.inr (Or.inr ⟨nofun, c, mem_joinWords (List.mem_cons_self ..) hc, hsyntax⟩)

theorem fuzzify_fuzzify (f : Fuzziness) (text : List Char) : fuzzify f (fuzzify f text) = fuzzify f text := by
  rcases fuzzify_cases f text with h | ⟨-, h⟩ | ⟨-, c, hc, hsyntax, -⟩
  · rw [h, h]
  · rw [h]
    cases f <;> rfl
  · have hany : (fuzzify f text).any isQuerySyntax = true := List.any_eq_true.2 ⟨c, hc, hsyntax⟩
    generalize fuzzify f text = loose at hany
    rw [fuzzify, if_pos (Or.inr hany)]

theorem fuzzifyText_fuzzifyText (f : Fuzziness) (text : String) :
    fuzzifyText f (fuzzifyText f text) = fuzzifyText f text := by
  rw [fuzzifyText, fuzzifyText, String.toList_ofList, fuzzify_fuzzify]

theorem isBlankText_fuzzifyText (f : Fuzziness) (text : String) :
    isBlankText (fuzzifyText f text) = isBlankText text := by
  rw [isBlankText, isBlankText, fuzzifyText, String.toList_ofList]
  rcases fuzzify_cases f text.toList with h | ⟨hwords, h⟩ | ⟨hwords, c, hc, -, hblank⟩
  · rw [h]
  · rw [h, List.all_nil, List.all_eq_true.2 ((words_eq_nil _).1 hwords)]
  · have hloose : (fuzzify f text.toList).all isBlank = false :=
      List.all_eq_false.2 ⟨c, hc, by rw [hblank]; exact Bool.false_ne_true⟩
    have htext : text.toList.all isBlank = false :=
      Bool.eq_false_iff.2 fun hall => hwords ((words_eq_nil _).2 (List.all_eq_true.1 hall))
    rw [hloose, htext]

/-! ### Words with marks -/

namespace Fuzziness

/-- A word without the marks that it was given. -/
def undecorate : Fuzziness → List Char → List Char
  | .off, w => w
  | .wildcard, w => w.tail.dropLast
  | .approximate, w => w.dropLast

theorem undecorate_decorate (f : Fuzziness) (w : List Char) : f.undecorate (f.decorate w) = w := by
  cases f with
  | off => rfl
  | wildcard => simp [decorate, undecorate]
  | approximate => simp [decorate, undecorate]

/-- The marks are not blank, so that a word with marks is a single word. -/
theorem decorate_letters {f : Fuzziness} {w : List Char} (hw : w ≠ [] ∧ ∀ c ∈ w, isBlank c = false) :
    f.decorate w ≠ [] ∧ ∀ c ∈ f.decorate w, isBlank c = false := by
  have hstar : isBlank '*' = false := by decide
  have htilde : isBlank '~' = false := by decide
  obtain ⟨hne, hletters⟩ := hw
  cases f with
  | off => exact ⟨hne, hletters⟩
  | wildcard =>
    refine ⟨List.cons_ne_nil _ _, fun c hc => ?_⟩
    simp only [decorate, List.cons_append, List.mem_cons, List.mem_append, List.not_mem_nil, or_false] at hc
    rcases hc with rfl | hc | rfl
    · exact hstar
    · exact hletters c hc
    · exact hstar
  | approximate =>
    refine ⟨List.append_ne_nil_of_left_ne_nil hne _, fun c hc => ?_⟩
    rcases List.mem_append.1 hc with hc | hc
    · exact hletters c hc
    · rw [List.mem_singleton.1 hc]
      exact htilde

end Fuzziness

private theorem any_isQuerySyntax_iff (s : List Char) :
    s.any isQuerySyntax = true ↔ ∃ c ∈ s, c = '*' ∨ c = '~' ∨ c = ':' := by
  simp [isQuerySyntax, or_assoc]

/-- Loosening a second time changes nothing.  A text in query syntax stays as it is.  Any other text comes out as its
words, in order and with their marks, joined by single spaces. -/
theorem fuzzifyText_marks_words (f : Fuzziness) (text : String) :
    fuzzifyText f (fuzzifyText f text) = fuzzifyText f text ∧
      ((f = .off ∨ ∃ c ∈ text.toList, c = '*' ∨ c = '~' ∨ c = ':') ∧ fuzzifyText f text = text ∨
        (f ≠ .off ∧ ∀ c ∈ text.toList, c ≠ '*' ∧ c ≠ '~' ∧ c ≠ ':') ∧
          ∃ ws, (∀ vs, Spaced vs text.toList ↔ vs = ws) ∧
            (∀ vs, Spaced vs (fuzzifyText f text).toList ↔ vs = ws.map f.decorate) ∧
            (fuzzifyText f text).toList = [' '].intercalate (ws.map f.decorate) ∧
            (ws.map f.decorate).map f.undecorate = ws ∧
            (fuzzifyText f text = "" ↔ ∀ c ∈ text.toList, isBlank c = true)) := by
  refine ⟨fuzzifyText_fuzzifyText f text, ?_⟩
  by_cases hkept : f = .off ∨ text.toList.any isQuerySyntax = true
  · refine Or.inl ⟨hkept.imp_right (any_isQuerySyntax_iff _).1, ?_⟩
    rw [fuzzifyText, fuzzify, if_pos hkept, String.ofList_toList]
  · have hplain : f ≠ .off ∧ ∀ c ∈ text.toList, c ≠ '*' ∧ c ≠ '~' ∧ c ≠ ':' := by
      rw [any_isQuerySyntax_iff, not_or] at hkept
      refine ⟨hkept.1, fun c hc => ?_⟩
      rw [← not_or, ← not_or]
      exact fun h => hkept.2 ⟨c, hc, h⟩
    refine Or.inr ⟨hplain, ?_⟩
    have hresult : (fuzzifyText f text).toList = joinWords ((words text.toList).map f.decorate) := by
      rw [fuzzifyText, String.toList_ofList, fuzzify, if_neg hkept]
    have hspaced : Spaced ((words text.toList).map f.decorate) (fuzzifyText f text).toList := by
      rw [hresult]
      apply spaced_joinWords
      intro v hv
      obtain ⟨w, hw, rfl⟩ := List.mem_map.1 hv
      exact Fuzziness.decorate_letters (word_of_mem_words hw)
    refine ⟨words text.toList, ?_, ?_, ?_, ?_, ?_⟩
    · intro vs
      rw [← words_eq_iff, eq_comm]
    · intro vs
      rw [← words_eq_iff, words_of_spaced hspaced, eq_comm]
    · rw [hresult, joinWords_eq_intercalate]
    · rw [List.map_map]
      exact List.map_id'' (fun w => f.undecorate_decorate w) _
    · -- the result has no words just when the text has none
      rw [← words_eq_nil, ← String.toList_inj, String.toList_empty]
      constructor
      · intro hempty
        rw [hempty] at hspaced
        exact List.map_eq_nil_iff.1 (words_of_spaced hspaced).symm
      · intro hwords
        rw [hresult, hwords]
        rfl

end FacetedSearch
