import FacetedSearch.Toml.Quoted
import FacetedSearch.Toml.Writer

/-!
# Reading strings that were written

A string is written in one of four forms.  Between double quotes each character is spelled in one of a few ways, and
the reader takes the spellings one after the other; between single quotes the characters stand as they are.  On several
lines, quotes of the string may stand right before the quotes that end it, and a line end is put in front of a string
that has one.

* `Spelling`: how a character is spelled between double quotes.
* `readBasic_escapeBasic`, `readBasicLines_escapeBasic`: spelled characters are read as they were.
* `readLiteral_append`, `readLiteralLines_append`: so are characters between single quotes.
* `le_longestRun`: runs of a character are no longer than the longest one.
* `readString_quote`: a written string is read as it was.
-/

namespace FacetedSearch

namespace Toml

/-! ### Spellings -/

/-- A text is the escape of a character, behind the backslash. -/
structure IsEscape (e : List Char) (c : Char) : Prop where
  read : ∀ s, readEscape (e ++ s) = some (c, s)
  inLine : ∀ s, atLineEnd (e ++ s) = false

/-- How a character is spelled between double quotes, and how many quotes then stand in a row. -/
inductive Spelling (lines : Bool) (run : Nat) : Char → List Char → Nat → Prop
  | quote (hlines : lines = true) (hrun : run < 2) : Spelling lines run '"' ['"'] (run + 1)
  | lineEnd (hlines : lines = true) : Spelling lines run '\n' ['\n'] 0
  | escape {c : Char} {e : List Char} (h : IsEscape e c) : Spelling lines run c ('\\' :: e) 0
  | plain {c : Char} (hquote : c ≠ '"') (hslash : c ≠ '\\') (h : isText c = true) : Spelling lines run c [c] 0

theorem isText_ne {c : Char} (h : isText c = true) : c ≠ '\n' ∧ c ≠ '\r' := by
  constructor
  all_goals
    rintro rfl
    exact absurd h (by decide)

theorem isEscape_letter {d c : Char} (h : letterEscape? d = some c) : IsEscape [d] c := by
  rw [letterEscape?.eq_def] at h
  split at h <;> cases h <;> exact ⟨fun _ => rfl, fun _ => rfl⟩

theorem isEscape_code {c : Char} (h : c.toNat < 0x20 ∨ c.toNat = 0x7F) : IsEscape ('u' :: hexCode c.toNat) c := by
  have hcode : ∀ n < 0x80, (hexCode n).length = 4 ∧ codeEscape? (hexCode n) = some (Char.ofNat n) := by decide
  have hread : ∀ (ds : List Char) (s : List Char), ds.length = 4 →
      readEscape ('u' :: ds ++ s) = (codeEscape? ds).map (·, s)
    | [_, _, _, _], _, _ => rfl
  obtain ⟨hlength, hvalue⟩ := hcode c.toNat (by omega)
  rw [Char.ofNat_toNat] at hvalue
  refine ⟨fun s => ?_, fun _ => rfl⟩
  rw [hread _ s hlength, hvalue]
  rfl

/-- Between double quotes a text is spelled character by character. -/
theorem escapeBasic_cons (lines : Bool) (run : Nat) (c : Char) (s : List Char) :
    ∃ w run', Spelling lines run c w run' ∧ escapeBasic lines run (c :: s) = w ++ escapeBasic lines run' s := by
  rw [escapeBasic]
  by_cases hquote : c = '"'
  · subst hquote
    rw [if_pos rfl]
    by_cases hrun : lines = true ∧ run < 2
    · rw [if_pos (by simp [hrun])]
      exact ⟨_, _, .quote hrun.1 hrun.2, rfl⟩
    · rw [if_neg (by cases lines <;> simp_all)]
      exact ⟨_, _, .escape (isEscape_letter rfl), rfl⟩
  rw [if_neg hquote]
  -- the other characters in the order of the writer: those with a letter, control characters, and the rest
  iterate 2
    split
    · subst_vars
      exact ⟨_, _, .escape (isEscape_letter rfl), rfl⟩
  split
  · subst_vars
    cases lines with
    | false => exact ⟨_, _, .escape (isEscape_letter rfl), rfl⟩
    | true => exact ⟨_, _, .lineEnd rfl, rfl⟩
  iterate 3
    split
    · subst_vars
      exact ⟨_, _, .escape (isEscape_letter rfl), rfl⟩
  split
  · rename_i hcontrol
    exact ⟨_, _, .escape (isEscape_code hcontrol), rfl⟩
  · rename_i hslash hcontrol
    refine ⟨_, _, .plain hquote hslash ?_, rfl⟩
    simp only [isText, Bool.or_eq_true, Bool.and_eq_true, decide_eq_true_eq, bne_iff_ne]
    omega

/-- A quote at the front is escaped on one line, and behind two others. -/
theorem escapeBasic_append_ne {lines : Bool} {run : Nat} (h : lines = false ∨ 2 ≤ run) {s : List Char} (hs : s ≠ [])
    (t u : List Char) : escapeBasic lines run s ++ t ≠ '"' :: u := by
  obtain ⟨c, s, rfl⟩ := List.exists_cons_of_ne_nil hs
  obtain ⟨w, run', hw, hspelled⟩ := escapeBasic_cons lines run c s
  rw [hspelled, List.append_assoc]
  cases hw with
  | escape | lineEnd => exact nofun
  | plain hquote => exact fun heq => hquote (List.cons.inj heq).1
  | quote hlines hrun =>
    rcases h with h | h
    · exact absurd (hlines.symm.trans h) (by decide)
    · omega

/-- A text without line ends is spelled without line ends at the front. -/
theorem head_escapeBasic_append {lines : Bool} {s t : List Char} (hs : '\n' ∉ s) (ht : t.head? = some '"') :
    ∀ d ∈ (escapeBasic lines 0 s ++ t).head?, d ≠ '\n' ∧ d ≠ '\r' := by
  intro d hd
  cases s with
  | nil =>
    rw [escapeBasic, List.nil_append, ht] at hd
    cases hd
    decide
  | cons c s =>
    obtain ⟨w, run', hw, hspelled⟩ := escapeBasic_cons lines 0 c s
    rw [hspelled, List.append_assoc] at hd
    cases hw with
    | quote | escape =>
      cases hd
      decide
    | lineEnd => exact absurd (List.mem_cons_self ..) hs
    | plain _ _ htext =>
      cases hd
      exact isText_ne htext

theorem length_le_escapeBasic (lines : Bool) (run : Nat) (s : List Char) :
    s.length ≤ (escapeBasic lines run s).length := by
  induction s generalizing run with
  | nil => exact Nat.le_refl _
  | cons c s ih =>
    obtain ⟨w, run', hw, hspelled⟩ := escapeBasic_cons lines run c s
    have hlength : 1 ≤ w.length := by cases hw <;> exact Nat.succ_le_succ (Nat.zero_le _)
    have hrest := ih run'
    rw [hspelled, List.length_append, List.length_cons]
    omega

/-! ### Between double quotes -/

theorem readBasic_spelling {run run' : Nat} {c : Char} {w : List Char} (h : Spelling false run c w run') (n : Nat)
    (s : List Char) : readBasic (n + 1) (w ++ s) = (readBasic n s).map fun (cs, rest) => (c :: cs, rest) := by
  cases h with
  | quote hlines => cases hlines
  | lineEnd hlines => cases hlines
  | escape h =>
    rw [List.cons_append, readBasic, h.read, Option.map_eq_bind]
    rfl
  | plain hquote hslash h =>
    rw [List.singleton_append, readBasic, if_pos h]
    · exact hquote
    · exact hslash

/-- Characters that are spelled on one line are read as they were. -/
theorem readBasic_escapeBasic (run : Nat) (s rest : List Char) {n : Nat} (hn : s.length < n) :
    readBasic n (escapeBasic false run s ++ '"' :: rest) = some (s, rest) := by
  induction s generalizing run n with
  | nil =>
    cases n with
    | zero => cases hn
    | succ n => rfl
  | cons c s ih =>
    cases n with
    | zero => cases hn
    | succ n =>
      obtain ⟨w, run', hw, hspelled⟩ := escapeBasic_cons false run c s
      rw [hspelled, List.append_assoc, readBasic_spelling hw, ih run' (Nat.lt_of_succ_lt_succ hn)]
      rfl

theorem closeQuotes_lineEnd {q : Char} (hq : '\n' ≠ q) (s : List Char) :
    closeQuotes q ('\n' :: s) = ([], '\n' :: s) := by
  cases s with
  | nil => rw [closeQuotes, if_neg hq]
  | cons c s => rw [closeQuotes, if_neg fun h => hq h.1, if_neg hq]

/-- A character that stands for itself is read, unless it begins three quotes. -/
theorem readBasicLines_text {c : Char} (hslash : c ≠ '\\') (h : isText c = true) (n : Nat) {s : List Char}
    (hquotes : c = '"' → ∀ t, s ≠ '"' :: '"' :: t) :
    readBasicLines (n + 1) (c :: s) = (readBasicLines n s).map fun (cs, rest) => (c :: cs, rest) := by
  rw [readBasicLines, if_pos h]
  · exact fun t hquote heq => hquotes hquote t heq
  · exact fun _ hreturn _ => (isText_ne h).2 hreturn
  · exact (isText_ne h).1
  · exact hslash

theorem readBasicLines_spelling {run run' : Nat} {c : Char} {w : List Char} (h : Spelling true run c w run') (n : Nat)
    {s : List Char} (hquotes : w = ['"'] → ∀ t, s ≠ '"' :: '"' :: t) :
    readBasicLines (n + 1) (w ++ s) = (readBasicLines n s).map fun (cs, rest) => (c :: cs, rest) := by
  cases h with
  | quote => exact readBasicLines_text (by decide) (by decide) n fun _ => hquotes rfl
  | lineEnd => rfl
  | escape h =>
    rw [List.cons_append, readBasicLines, h.inLine, h.read, Option.map_eq_bind]
    rfl
  | plain hquote hslash h => exact readBasicLines_text hslash h n fun heq => absurd heq hquote

/-- Behind a quote of the string two quotes are read only at its end. -/
theorem two_quotes {run : Nat} (hrun : 0 < run) {s u t : List Char}
    (h : escapeBasic true run s ++ '"' :: '"' :: '"' :: '\n' :: u = '"' :: '"' :: t) :
    s = [] ∨ s = ['"'] ∧ run = 1 := by
  cases s with
  | nil => exact Or.inl rfl
  | cons c s =>
    obtain ⟨w, run', hw, hspelled⟩ := escapeBasic_cons true run c s
    rw [hspelled, List.append_assoc] at h
    cases hw with
    | escape | lineEnd => cases h
    | plain hquote => exact absurd (List.cons.inj h).1 hquote
    | quote _ hlt =>
      obtain rfl : run = 1 := by omega
      cases s with
      | nil => exact Or.inr ⟨rfl, rfl⟩
      | cons d s =>
        exact absurd (List.cons.inj h).2 (escapeBasic_append_ne (Or.inr (Nat.le_refl 2)) (List.cons_ne_nil _ _) _ _)

/-- Characters that are spelled on several lines are read as they were, quotes at the end among them. -/
theorem readBasicLines_escapeBasic (run : Nat) (s rest : List Char) {n : Nat} (hn : s.length < n) :
    readBasicLines n (escapeBasic true run s ++ '"' :: '"' :: '"' :: '\n' :: rest) = some (s, '\n' :: rest) := by
  induction s generalizing run n with
  | nil =>
    cases n with
    | zero => cases hn
    | succ n => exact congrArg some (closeQuotes_lineEnd (by decide) rest)
  | cons c s ih =>
    cases n with
    | zero => cases hn
    | succ n =>
      obtain ⟨w, run', hw, hspelled⟩ := escapeBasic_cons true run c s
      rw [hspelled, List.append_assoc]
      -- quotes at the end of the string are read together with those that end it
      by_cases hend : w = ['"'] ∧ (s = [] ∨ s = ['"'] ∧ run' = 1)
      · obtain ⟨rfl, rfl | ⟨rfl, rfl⟩⟩ := hend
        · cases hw with
          | quote => rfl
          | plain hquote => exact absurd rfl hquote
        · cases hw with
          | quote => rfl
      · have hquotes : w = ['"'] →
            ∀ t, escapeBasic true run' s ++ '"' :: '"' :: '"' :: '\n' :: rest ≠ '"' :: '"' :: t := by
          rintro rfl t heq
          cases hw with
          | plain hquote => exact hquote rfl
          | quote => exact hend ⟨rfl, two_quotes (Nat.succ_pos _) heq⟩
        rw [readBasicLines_spelling hw n hquotes, ih run' (Nat.lt_of_succ_lt_succ hn)]
        rfl

/-! ### Between single quotes -/

theorem readLiteral_append {s : List Char} (h : ∀ c ∈ s, c ≠ '\'' ∧ isText c = true) (rest : List Char) :
    readLiteral (s ++ '\'' :: rest) = some (s, rest) := by
  induction s with
  | nil => rfl
  | cons c s ih =>
    obtain ⟨hquote, htext⟩ := h c (List.mem_cons_self ..)
    rw [List.cons_append, readLiteral, if_pos htext, ih fun d hd => h d (List.mem_cons_of_mem _ hd)]
    · rfl
    · exact hquote

/-- Characters on several lines without three quotes in a row are read as they were, quotes at the end among them. -/
theorem readLiteralLines_append {s : List Char} (h : ∀ c ∈ s, c = '\n' ∨ isText c = true)
    (hquotes : ¬List.replicate 3 '\'' <:+: s) (rest : List Char) :
    readLiteralLines (s ++ '\'' :: '\'' :: '\'' :: '\n' :: rest) = some (s, '\n' :: rest) := by
  induction s with
  | nil => exact congrArg some (closeQuotes_lineEnd (by decide) rest)
  | cons c s ih =>
    have hrest := ih (fun d hd => h d (List.mem_cons_of_mem _ hd)) fun hs =>
      hquotes (hs.trans (List.suffix_cons c s).isInfix)
    rcases h c (List.mem_cons_self ..) with rfl | htext
    · rw [List.cons_append, readLiteralLines, hrest]
      rfl
    · by_cases hend : c = '\'' ∧ (s = [] ∨ s = ['\''])
      · obtain ⟨rfl, rfl | rfl⟩ := hend <;> rfl
      · rw [List.cons_append, readLiteralLines, if_pos htext, hrest]
        · rfl
        · rintro t rfl heq
          match s with
          | [] => exact hend ⟨rfl, Or.inl rfl⟩
          | [d] => exact hend ⟨rfl, Or.inr (by rw [(List.cons.inj heq).1])⟩
          | d :: e :: s =>
            have hd : d = '\'' := (List.cons.inj heq).1
            have he : e = '\'' := (List.cons.inj (List.cons.inj heq).2).1
            exact hquotes ⟨[], s, by rw [hd, he]; rfl⟩
        · exact fun _ hreturn _ => (isText_ne htext).2 hreturn
        · exact (isText_ne htext).1

/-! ### Forms -/

/-- Counts the run that a character ends, and keeps the longest one. -/
private def countRun (q : Char) (acc : Nat × Nat) (c : Char) : Nat × Nat :=
  (if c = q then acc.1 + 1 else 0, max acc.2 (if c = q then acc.1 + 1 else 0))

private theorem le_countRun (q : Char) (s : List Char) (acc : Nat × Nat) : acc.2 ≤ (s.foldl (countRun q) acc).2 := by
  induction s generalizing acc with
  | nil => exact Nat.le_refl _
  | cons c s ih => exact Nat.le_trans (Nat.le_max_left ..) (ih (countRun q acc c))

private theorem countRun_replicate (q : Char) (k : Nat) {acc : Nat × Nat} (h : acc.1 ≤ acc.2) :
    acc.1 + k ≤ ((List.replicate k q).foldl (countRun q) acc).2 := by
  induction k generalizing acc with
  | zero => exact h
  | succ k ih =>
    have hstep := @ih (countRun q acc q) (Nat.le_max_right ..)
    rw [countRun, if_pos rfl] at hstep
    rw [List.replicate_succ, List.foldl_cons, countRun, if_pos rfl]
    omega

/-- Runs of a character are no longer than the longest one. -/
theorem le_longestRun {q : Char} {k : Nat} {s : List Char} (h : List.replicate k q <:+: s) : k ≤ longestRun q s := by
  obtain ⟨before, behind, rfl⟩ := h
  have hinv : ∀ (t : List Char) (acc : Nat × Nat), acc.1 ≤ acc.2 →
      (t.foldl (countRun q) acc).1 ≤ (t.foldl (countRun q) acc).2 := by
    intro t
    induction t with
    | nil => exact fun _ h => h
    | cons c t ih => exact fun acc _ => ih _ (Nat.le_max_right ..)
  show k ≤ ((before ++ List.replicate k q ++ behind).foldl (countRun q) (0, 0)).2
  rw [List.foldl_append, List.foldl_append]
  refine Nat.le_trans ?_ (le_countRun q behind _)
  have hrun := countRun_replicate q k (hinv before (0, 0) (Nat.le_refl 0))
  omega

theorem not_mem_of_longestRun {q : Char} {s : List Char} (h : longestRun q s = 0) : q ∉ s := by
  intro hmem
  obtain ⟨before, behind, rfl⟩ := List.append_of_mem hmem
  have hone := le_longestRun (q := q) (k := 1) (s := before ++ q :: behind) ⟨before, behind, by simp⟩
  omega

/-- A character that needs no escape stands in a line, if it is not a line end. -/
theorem isText_of_needsEscape {c : Char} (h : needsEscape c = false) : c = '\n' ∨ isText c = true := by
  simp only [needsEscape, isText, Bool.and_eq_false_iff, bne_eq_false_iff_eq, Bool.or_eq_false_iff, Bool.or_eq_true,
    Bool.and_eq_true, beq_iff_eq, beq_eq_false_iff_ne, bne_iff_ne, decide_eq_true_eq, decide_eq_false_iff_not] at h ⊢
  rcases h with (h | h) | h
  · exact Or.inr (Or.inl h)
  · exact Or.inl h
  · exact Or.inr (Or.inr ⟨by omega, h.2⟩)

/-- Between single quotes a string stands on one line without quotes, or on several without three quotes in a row. -/
theorem formOf_cases (s : List Char) :
    (formOf s).escapes = true ∨
      (formOf s = ⟨false, false⟩ ∧ ∀ c ∈ s, c ≠ '\'' ∧ isText c = true) ∨
        formOf s = ⟨false, true⟩ ∧ (∀ c ∈ s, c = '\n' ∨ isText c = true) ∧ ¬List.replicate 3 '\'' <:+: s := by
  have htexts (h : s.any needsEscape = false) : ∀ c ∈ s, c = '\n' ∨ isText c = true := fun c hc =>
    isText_of_needsEscape (Bool.eq_false_iff.2 (List.any_eq_false.1 h c hc))
  simp only [formOf]
  split
  · exact Or.inl rfl
  split
  · rename_i hline
    simp only [Bool.and_eq_true, Bool.not_eq_true', beq_iff_eq, List.contains_eq_mem, decide_eq_false_iff_not] at hline
    obtain ⟨⟨hcontrols, hquotes⟩, hnewline⟩ := hline
    refine Or.inr (Or.inl ⟨rfl, fun c hc => ⟨?_, ?_⟩⟩)
    · rintro rfl
      exact not_mem_of_longestRun hquotes hc
    · refine (htexts hcontrols c hc).resolve_left ?_
      rintro rfl
      exact hnewline hc
  split
  · exact Or.inl rfl
  split
  · rename_i hlines
    simp only [Bool.and_eq_true, Bool.not_eq_true', decide_eq_true_eq] at hlines
    refine Or.inr (Or.inr ⟨rfl, htexts hlines.1, fun hquotes => ?_⟩)
    have hrun := le_longestRun hquotes
    omega
  · exact Or.inl rfl

/-! ### Whole strings -/

theorem readString_line {q : Char} (hq : q = '"' ∨ q = '\'') {s : List Char} (h : ∀ t, s ≠ q :: q :: t) :
    readString (q :: s) = readLineString (q :: s) := by
  rcases hq with rfl | rfl
  · rw [readString]
    · exact fun t heq => h t (List.cons.inj heq).2
    · exact fun _ heq => absurd (List.cons.inj heq).1 (by decide)
  · rw [readString]
    · exact fun _ heq => absurd (List.cons.inj heq).1 (by decide)
    · exact fun t heq => h t (List.cons.inj heq).2

/-- The line end in front of a string that has one is dropped, and nothing of the string. -/
theorem dropLineEnd_start {s t : List Char} (h : '\n' ∉ s → ∀ c ∈ t.head?, c ≠ '\n' ∧ c ≠ '\r') :
    dropLineEnd ((if s.contains '\n' then ['\n'] else []) ++ t) = t := by
  by_cases hs : '\n' ∈ s
  · rw [if_pos (List.contains_iff_mem.2 hs)]
    rfl
  · rw [if_neg fun hc => hs (List.contains_iff_mem.1 hc), List.nil_append]
    cases t with
    | nil => rfl
    | cons c t =>
      obtain ⟨hnewline, hreturn⟩ := h hs c rfl
      rw [dropLineEnd]
      · exact fun _ heq => hnewline (List.cons.inj heq).1
      · exact fun _ heq => hreturn (List.cons.inj heq).1

theorem readString_basic (s rest : List Char) :
    readString ('"' :: (escapeBasic false 0 s ++ '"' :: '\n' :: rest)) = some (String.ofList s, '\n' :: rest) := by
  have hone : ∀ t, escapeBasic false 0 s ++ '"' :: '\n' :: rest ≠ '"' :: '"' :: t := by
    intro t
    by_cases hnil : s = []
    · rw [hnil]
      exact nofun
    · exact escapeBasic_append_ne (Or.inl rfl) hnil _ _
  have hlength : s.length < (escapeBasic false 0 s ++ '"' :: '\n' :: rest).length + 1 := by
    have hspelled := length_le_escapeBasic false 0 s
    rw [List.length_append]
    omega
  rw [readString_line (Or.inl rfl) hone, readLineString, readBasic_escapeBasic 0 s _ hlength]
  rfl

theorem readString_basicLines (s rest : List Char) :
    readString ('"' :: '"' :: '"' :: ((if s.contains '\n' then ['\n'] else []) ++
      (escapeBasic true 0 s ++ '"' :: '"' :: '"' :: '\n' :: rest))) = some (String.ofList s, '\n' :: rest) := by
  have hlength : s.length < (escapeBasic true 0 s ++ '"' :: '"' :: '"' :: '\n' :: rest).length + 1 := by
    have hspelled := length_le_escapeBasic true 0 s
    rw [List.length_append]
    omega
  rw [readString, dropLineEnd_start fun hnewline => head_escapeBasic_append hnewline rfl,
    readBasicLines_escapeBasic 0 s rest hlength]
  rfl

theorem readString_literal {s : List Char} (h : ∀ c ∈ s, c ≠ '\'' ∧ isText c = true) (rest : List Char) :
    readString ('\'' :: (s ++ '\'' :: '\n' :: rest)) = some (String.ofList s, '\n' :: rest) := by
  have hone : ∀ t, s ++ '\'' :: '\n' :: rest ≠ '\'' :: '\'' :: t := by
    intro t heq
    cases s with
    | nil => cases heq
    | cons c s => exact (h c (List.mem_cons_self ..)).1 (List.cons.inj heq).1
  rw [readString_line (Or.inr rfl) hone, readLineString, readLiteral_append h]
  rfl

theorem readString_literalLines {s : List Char} (h : ∀ c ∈ s, c = '\n' ∨ isText c = true)
    (hquotes : ¬List.replicate 3 '\'' <:+: s) (rest : List Char) :
    readString ('\'' :: '\'' :: '\'' :: ((if s.contains '\n' then ['\n'] else []) ++
      (s ++ '\'' :: '\'' :: '\'' :: '\n' :: rest))) = some (String.ofList s, '\n' :: rest) := by
  have hhead : '\n' ∉ s → ∀ c ∈ (s ++ '\'' :: '\'' :: '\'' :: '\n' :: rest).head?, c ≠ '\n' ∧ c ≠ '\r' := by
    intro hnewline c hc
    cases s with
    | nil =>
      cases hc
      decide
    | cons d s =>
      obtain rfl : d = c := Option.some.inj hc
      have hd := List.mem_cons_self (a := d) (l := s)
      exact isText_ne ((h d hd).resolve_left fun heq => hnewline (heq ▸ hd))
  rw [readString, dropLineEnd_start hhead, readLiteralLines_append h hquotes]
  rfl

/-- A written string is read as it was. -/
theorem readString_quote (text : String) (rest : List Char) :
    readString ((quote text).toList ++ '\n' :: rest) = some (text, '\n' :: rest) := by
  obtain hescapes | ⟨hform, htexts⟩ | ⟨hform, htexts, hquotes⟩ := formOf_cases text.toList
  · cases hlines : (formOf text.toList).lines with
    | false =>
      have hquote : (quote text).toList ++ '\n' :: rest =
          '"' :: (escapeBasic false 0 text.toList ++ '"' :: '\n' :: rest) := by
        simp [quote, hescapes, hlines]
      rw [hquote, readString_basic, String.ofList_toList]
    | true =>
      have hquote : (quote text).toList ++ '\n' :: rest =
          '"' :: '"' :: '"' :: ((if text.toList.contains '\n' then ['\n'] else []) ++
            (escapeBasic true 0 text.toList ++ '"' :: '"' :: '"' :: '\n' :: rest)) := by
        simp [quote, hescapes, hlines, List.replicate_succ]
      rw [hquote, readString_basicLines, String.ofList_toList]
  · have hquote : (quote text).toList ++ '\n' :: rest = '\'' :: (text.toList ++ '\'' :: '\n' :: rest) := by
      simp [quote, hform]
    rw [hquote, readString_literal htexts, String.ofList_toList]
  · have hquote : (quote text).toList ++ '\n' :: rest =
        '\'' :: '\'' :: '\'' :: ((if text.toList.contains '\n' then ['\n'] else []) ++
          (text.toList ++ '\'' :: '\'' :: '\'' :: '\n' :: rest)) := by
      simp [quote, hform, List.replicate_succ]
    rw [hquote, readString_literalLines htexts hquotes, String.ofList_toList]

end Toml

end FacetedSearch
