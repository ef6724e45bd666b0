import FacetedSearch.Proofs.Json.Legible
import FacetedSearch.Proofs.Toml.Strings
import FacetedSearch.Toml.Parser
import Mathlib.Algebra.Ring.Nat
import Mathlib.Data.List.Basic

/-!
# Reading a file that was written

A written file consists of sections, which are set apart by empty lines.  A section is a header with lines under it that
give values to keys.  If the names of the sections and the keys of each section are distinct, the file is read as the
table of its sections.

* `Reads`: a text at the end of a line is read as a value; `reads_quote`, `reads_toString`, `reads_boolText`.
* `readLines_section`: a section is added to those before it.
* `parse_documentText`: a whole file.
-/

namespace FacetedSearch

namespace Toml

/-! ### Values -/

/-- A text that ends a line is read as a value. -/
def Reads (text : String) (v : Toml) : Prop :=
  ∀ rest, readValue maxDepth (skipSpace (text.toList ++ '\n' :: rest)) = some (v, '\n' :: rest)

theorem skipSpace_cons {c : Char} (h : isSpace c = false) (s : List Char) : skipSpace (c :: s) = c :: s :=
  List.dropWhile_cons_of_neg (Bool.eq_false_iff.1 h)

theorem reads_quote (text : String) : Reads (quote text) (.str text) := by
  intro rest
  have hread := readString_quote text rest
  have hhead : ∃ s, (quote text).toList ++ '\n' :: rest = '"' :: s ∨
      (quote text).toList ++ '\n' :: rest = '\'' :: s := by
    rw [quote]
    cases (formOf text.toList).escapes <;> cases (formOf text.toList).lines <;> simp [List.replicate_succ]
  obtain ⟨s, hs | hs⟩ := hhead
  all_goals
    rw [hs] at hread ⊢
    rw [skipSpace_cons (by decide), readValue, hread]
    rfl

theorem isScalarChar_of_isDigit {c : Char} (h : c.isDigit = true) : isScalarChar c = true := by
  simp [isScalarChar, Char.isAlphanum, h]

theorem takeScalar_line {s : List Char} (h : ∀ c ∈ s, isScalarChar c = true) (rest : List Char) :
    takeScalar (s ++ '\n' :: rest) = (s, '\n' :: rest) := by
  have htake : (s ++ '\n' :: rest).takeWhile isScalarChar = s := by
    rw [List.takeWhile_append_of_pos h]
    exact List.append_nil s
  have hdrop : (s ++ '\n' :: rest).dropWhile isScalarChar = '\n' :: rest := by
    rw [List.dropWhile_append_of_pos h]
    rfl
  simp only [takeScalar, htake, hdrop]
  split
  · rename_i heq
    cases heq
  · rfl

/-- What stands without quotes at the end of a line is read as a whole. -/
theorem reads_scalar {text : String} {v : Toml} (hne : text.toList ≠ [])
    (h : ∀ c ∈ text.toList, isScalarChar c = true) (hv : scalar? text.toList = some v) : Reads text v := by
  intro rest
  obtain ⟨c, s, hs⟩ := List.exists_cons_of_ne_nil hne
  have hc : isScalarChar c = true := h c (by rw [hs]; exact List.mem_cons_self ..)
  have hspace : isSpace c = false := by
    rw [Bool.eq_false_iff, isSpace, ne_eq, Bool.or_eq_true, beq_iff_eq, beq_iff_eq]
    rintro (rfl | rfl) <;> exact absurd hc (by decide)
  have hscalar : skipSpace (text.toList ++ '\n' :: rest) = text.toList ++ '\n' :: rest := by
    rw [hs]
    exact skipSpace_cons hspace _
  have htake := takeScalar_line h rest
  rw [hscalar, hs, List.cons_append, readValue.eq_def]
  dsimp only
  split
  -- a character of an unquoted scalar begins none of the other values
  iterate 6
    rename_i heq
    cases heq
    exact absurd hc (by decide)
  rw [← List.cons_append, ← hs, htake, hv]
  rfl

theorem reads_boolText (b : Bool) : Reads (boolText b) (.bool b) := by
  cases b
  all_goals exact reads_scalar (by decide) (List.all_eq_true.1 rfl) rfl

theorem plainDigits?_eq_some {ds : List Char} (hne : ds ≠ []) (h : ∀ d ∈ ds, d.isDigit = true) :
    plainDigits? Char.isDigit ds = some ds := by
  induction ds with
  | nil => exact absurd rfl hne
  | cons d ds ih =>
    have hd : d.isDigit = true := h d (List.mem_cons_self ..)
    cases ds with
    | nil => rw [plainDigits?, if_pos hd]
    | cons e ds =>
      rw [plainDigits?, if_pos hd, ih (List.cons_ne_nil _ _) fun c hc => h c (List.mem_cons_of_mem _ hc)]
      · rfl
      · exact List.cons_ne_nil _ _
      · rintro _ heq
        obtain ⟨rfl, -⟩ := List.cons.inj heq
        exact absurd (h '_' (List.mem_cons_of_mem _ (List.mem_cons_self ..))) (by decide)

theorem isDigit_of_mem_toDigits {n : Nat} {d : Char} (h : d ∈ Nat.toDigits 10 n) : d.isDigit = true :=
  Nat.isDigit_of_mem_toDigits (by decide) (by decide) h

theorem baseValue_toDigits (n : Nat) : baseValue 10 (Nat.toDigits 10 n) = n := by
  have hdigits : baseValue 10 (Nat.toDigits 10 n) = Nat.ofDigitChars 10 (Nat.toDigits 10 n) 0 := by
    refine List.foldl_ext _ _ _ fun acc d hd => ?_
    rw [Hex.value?, if_pos (isDigit_of_mem_toDigits hd)]
    rfl
  rw [hdigits, Nat.ofDigitChars_ten_toDigits]

theorem decimalDigits?_toDigits (n : Nat) : decimalDigits? (Nat.toDigits 10 n) = some (Nat.toDigits 10 n) := by
  rw [decimalDigits?, plainDigits?_eq_some Nat.toDigits_ne_nil fun d hd => isDigit_of_mem_toDigits hd]
  split
  · -- only zero is written with a zero in front
    rename_i heq
    rcases Nat.eq_zero_or_pos n with rfl | hn
    · cases heq
    · exact absurd (by rw [Option.some.inj heq]; rfl) (JsonNumber.head?_toDigits hn)
  · rfl

theorem integer?_toDigits (n : Nat) : integer? (Nat.toDigits 10 n) = some (n : Int) := by
  have hletter : ∀ c s, Nat.toDigits 10 n = '0' :: c :: s → c.isDigit = true := fun c s heq =>
    isDigit_of_mem_toDigits (by rw [heq]; exact List.mem_cons_of_mem _ (List.mem_cons_self ..))
  have hsign : takeSign (Nat.toDigits 10 n) = (false, Nat.toDigits 10 n) := by
    rw [takeSign.eq_def]
    split
    iterate 2
      rename_i heq
      exact absurd (isDigit_of_mem_toDigits (heq ▸ List.mem_cons_self ..)) (by decide)
    rfl
  rw [integer?.eq_def]
  split
  iterate 3
    rename_i heq
    exact absurd (hletter _ _ heq) (by decide)
  rw [hsign]
  show (decimalDigits? (Nat.toDigits 10 n)).map _ = _
  rw [decimalDigits?_toDigits]
  exact congrArg (fun m : Nat => some (m : Int)) (baseValue_toDigits n)

theorem reads_toString {n : Nat} (hn : n < wordLimit) : Reads (toString n) (.int n) := by
  have htext : (toString n).toList = Nat.toDigits 10 n := Nat.toList_repr
  refine reads_scalar ?_ ?_ ?_
  all_goals rw [htext]
  · exact Nat.toDigits_ne_nil
  · exact fun c hc => isScalarChar_of_isDigit (isDigit_of_mem_toDigits hc)
  · have hword : ∀ c ∈ Nat.toDigits 10 n, c.isDigit = true := fun c hc => isDigit_of_mem_toDigits hc
    rw [scalar?, if_neg, if_neg, integer?_toDigits]
    · have hlimit : (wordLimit : Int) ≤ 2 * integerLimit := by decide
      have hrange : -integerLimit ≤ (n : Int) ∧ (n : Int) < 2 * integerLimit := by
        have hpos : -integerLimit ≤ 0 := by decide
        omega
      exact if_pos hrange
    all_goals
      rintro heq
      rw [heq] at hword
      exact absurd (hword _ (List.mem_cons_self ..)) (by decide)

/-! ### Lines -/

/-- A key that may stand without quotes. -/
structure IsBare (key : String) : Prop where
  nonempty : key.toList ≠ []
  bare : ∀ c ∈ key.toList, isBareKey c = true

instance (key : String) : Decidable (IsBare key) :=
  decidable_of_iff (key.toList ≠ [] ∧ key.toList.all isBareKey = true)
    ⟨fun h => ⟨h.1, List.all_eq_true.1 h.2⟩, fun h => ⟨h.nonempty, List.all_eq_true.2 h.bare⟩⟩

theorem isBareKey_ne {c : Char} (h : isBareKey c = true) {d : Char} (hd : isBareKey d = false) : c ≠ d := by
  rintro rfl
  exact absurd (h.symm.trans hd) (by decide)

theorem isSpace_of_isBareKey {c : Char} (h : isBareKey c = true) : isSpace c = false := by
  rw [Bool.eq_false_iff, isSpace, ne_eq, Bool.or_eq_true, beq_iff_eq, beq_iff_eq, not_or]
  exact ⟨isBareKey_ne h (by decide), isBareKey_ne h (by decide)⟩

/-- A key without quotes is read up to the first character that does not belong to it. -/
theorem readKey_bare {key : String} (h : IsBare key) {d e : Char} {s t : List Char} (hd : isBareKey d = false)
    (hskip : skipSpace (d :: s) = e :: t) (he : e ≠ '.') (n : Nat) :
    readKey (n + 1) (key.toList ++ d :: s) = some (([], key), e :: t) := by
  obtain ⟨c, cs, hcs⟩ := List.exists_cons_of_ne_nil h.nonempty
  have hc : isBareKey c = true := h.bare c (by rw [hcs]; exact List.mem_cons_self ..)
  have hfront : skipSpace (key.toList ++ d :: s) = key.toList ++ d :: s := by
    rw [hcs]
    exact skipSpace_cons (isSpace_of_isBareKey hc) _
  have hpart : readKeyPart (key.toList ++ d :: s) = some (key, d :: s) := by
    have htake : (key.toList ++ d :: s).takeWhile isBareKey = key.toList := by
      rw [List.takeWhile_append_of_pos h.bare, List.takeWhile_cons_of_neg (Bool.eq_false_iff.1 hd), List.append_nil]
    have hdrop : (key.toList ++ d :: s).dropWhile isBareKey = d :: s := by
      rw [List.dropWhile_append_of_pos h.bare, List.dropWhile_cons_of_neg (Bool.eq_false_iff.1 hd)]
    rw [readKeyPart.eq_def]
    split
    · rename_i heq
      rw [hcs] at heq
      exact absurd (List.cons.inj heq).1 (isBareKey_ne hc (by decide))
    · rename_i heq
      rw [hcs] at heq
      exact absurd (List.cons.inj heq).1 (isBareKey_ne hc (by decide))
    · rw [htake, hdrop, if_neg (by simpa using h.nonempty), String.ofList_toList]
  rw [readKey, hfront, hpart]
  simp only [Option.bind_eq_bind, Option.bind_some, hskip]
  split
  · rename_i heq
    exact absurd (List.cons.inj heq).1 he
  · rfl

theorem skipTrivia_bare {c : Char} (h : isBareKey c = true) (s : List Char) :
    skipTrivia false (c :: s) = some (c :: s) := by
  rw [skipTrivia, isSpace_of_isBareKey h]
  · rfl
  · exact isBareKey_ne h (by decide)
  · exact fun _ heq => absurd heq (isBareKey_ne h (by decide))
  · exact isBareKey_ne h (by decide)

theorem readLines_blank (n : Nat) (sec : Section) (t : TableNode) (s : List Char) :
    readLines (n + 1) sec t ('\n' :: s) = readLines (n + 1) sec t s := rfl

theorem readLines_header {name : String} (h : IsBare name) (n : Nat) (sec : Section) (t : TableNode) (s : List Char) :
    readLines (n + 1) sec t ('[' :: (name.toList ++ ']' :: '\n' :: s)) =
      (t.openTable [] name).bind fun t => readLines n ⟨[name]⟩ t s := by
  have hkey : readKey maxDepth (name.toList ++ ']' :: '\n' :: s) = some (([], name), ']' :: '\n' :: s) :=
    readKey_bare h (by decide) rfl (by decide) _
  obtain ⟨c, cs, hcs⟩ := List.exists_cons_of_ne_nil h.nonempty
  have hc : isBareKey c = true := h.bare c (by rw [hcs]; exact List.mem_cons_self ..)
  rw [hcs, List.cons_append] at hkey ⊢
  rw [readLines]
  have htrivia : skipTrivia false ('[' :: c :: (cs ++ ']' :: '\n' :: s)) =
      some ('[' :: c :: (cs ++ ']' :: '\n' :: s)) := rfl
  rw [htrivia]
  simp only [Option.bind_eq_bind, Option.bind_some]
  split
  · rename_i heq
    cases heq
  · rename_i heq
    obtain ⟨-, heq⟩ := List.cons.inj heq
    exact absurd (List.cons.inj heq).1 (isBareKey_ne hc (by decide))
  · rename_i heq
    obtain ⟨-, rfl⟩ := List.cons.inj heq
    rw [hkey]
    rfl
  · rename_i hopen
    exact absurd rfl (hopen _)

theorem readLines_assignment {key text : String} {v : Toml} (h : IsBare key) (hv : Reads text v) (n : Nat)
    (sec : Section) (t : TableNode) (s : List Char) :
    readLines (n + 1) sec t ((assignment key text).toList ++ s) =
      (sec.assign [] key v t).bind fun t => readLines n sec t s := by
  have htext : (assignment key text).toList ++ s = key.toList ++ ' ' :: '=' :: ' ' :: (text.toList ++ '\n' :: s) := by
    simp [assignment]
  have hkey : readKey maxDepth (key.toList ++ ' ' :: '=' :: ' ' :: (text.toList ++ '\n' :: s)) =
      some (([], key), '=' :: ' ' :: (text.toList ++ '\n' :: s)) := readKey_bare h (by decide) rfl (by decide) _
  obtain ⟨c, cs, hcs⟩ := List.exists_cons_of_ne_nil h.nonempty
  have hc : isBareKey c = true := h.bare c (by rw [hcs]; exact List.mem_cons_self ..)
  rw [htext]
  rw [hcs, List.cons_append] at hkey ⊢
  rw [readLines, skipTrivia_bare hc]
  simp only [Option.bind_eq_bind, Option.bind_some]
  split
  · rename_i heq
    cases heq
  · rename_i heq
    exact absurd (List.cons.inj heq).1 (isBareKey_ne hc (by decide))
  · rename_i heq
    exact absurd (List.cons.inj heq).1 (isBareKey_ne hc (by decide))
  · rw [hkey]
    show (readValue maxDepth (skipSpace (text.toList ++ '\n' :: s))).bind _ = _
    rw [hv]
    rfl

/-! ### Sections -/

/-- A key, the text of its value, and the value. -/
structure WrittenEntry where
  key : String
  text : String
  value : Toml

/-- The key stands without quotes, and the text is read as the value. -/
structure WrittenEntry.Sound (e : WrittenEntry) : Prop where
  bare : IsBare e.key
  reads : Reads e.text e.value

/-- A header with entries under it. -/
structure WrittenSection where
  name : String
  entries : List WrittenEntry

namespace WrittenSection

/-- The lines of a section. -/
def text (sec : WrittenSection) : String :=
  "[" ++ sec.name ++ "]\n" ++ String.join (sec.entries.map fun e => assignment e.key e.text)

/-- The section as an entry of the file. -/
def table (sec : WrittenSection) : String × Toml := (sec.name, .table (sec.entries.map fun e => (e.key, e.value)))

/-- The section in the table under construction. -/
def node (sec : WrittenSection) : String × Node :=
  (sec.name, .table .header (sec.entries.map fun e => (e.key, .closed e.value)))

/-- Names and keys stand without quotes, no key is given twice, and texts are read as their values. -/
structure Sound (sec : WrittenSection) : Prop where
  bare : IsBare sec.name
  entries : ∀ e ∈ sec.entries, e.Sound
  nodup : (sec.entries.map (·.key)).Nodup

end WrittenSection

/-- The text of a file: its sections, set apart by empty lines. -/
def documentText : List WrittenSection → String
  | [] => ""
  | [sec] => sec.text
  | sec :: secs => sec.text ++ "\n" ++ documentText secs

theorem openTable_new {es : Entries Node} {name : String} (h : name ∉ es.names) (origin : Origin) :
    TableNode.openTable [] name ⟨origin, es⟩ = some ⟨origin, es ++ [(name, .table .header [])]⟩ := by
  simp only [TableNode.openTable, TableNode.descend, Entries.get?_eq_none_iff.2 h, Entries.put_new h]

/-- A new key of the last section is added at its end. -/
theorem assign_last {es before : Entries Node} {name key : String} (hname : name ∉ es.names)
    (hkey : key ∉ before.names) (v : Toml) (origin : Origin) :
    Section.assign ⟨[name]⟩ [] key v ⟨origin, es ++ [(name, .table .header before)]⟩ =
      some ⟨origin, es ++ [(name, .table .header (before ++ [(key, .closed v)]))]⟩ := by
  have hassign : TableNode.assign [] key v ⟨.header, before⟩ = some ⟨.header, before ++ [(key, .closed v)]⟩ := by
    simp only [TableNode.assign, TableNode.descend, Entries.get?_eq_none_iff.2 hkey, Entries.put_new hkey]
    rfl
  simp only [Section.assign, TableNode.descend, Entries.get?_last hname, hassign, Bool.false_and, Bool.false_eq_true,
    if_false, Option.bind_eq_bind, Option.bind_some, Entries.put_last hname]
  rfl

theorem readLines_entries {name : String} {done : Entries Node} (hname : name ∉ done.names) {es : List WrittenEntry}
    (hes : ∀ e ∈ es, e.Sound) {before : Entries Node} (hnodup : (before.names ++ es.map (·.key)).Nodup) (n : Nat)
    (origin : Origin) (s : List Char) :
    readLines (n + es.length) ⟨[name]⟩ ⟨origin, done ++ [(name, .table .header before)]⟩
        ((String.join (es.map fun e => assignment e.key e.text)).toList ++ s) =
      readLines n ⟨[name]⟩
        ⟨origin, done ++ [(name, .table .header (before ++ es.map fun e => (e.key, .closed e.value)))]⟩ s := by
  induction es generalizing before with
  | nil => rw [List.map_nil, List.map_nil, List.append_nil]; rfl
  | cons e es ih =>
    have he := hes e (List.mem_cons_self ..)
    -- what was read so far are the entries before this one, so its key is new
    have hnew : e.key ∉ before.names := fun hmem =>
      (List.nodup_append.1 hnodup).2.2 _ hmem _ (List.mem_cons_self ..) rfl
    have htext : (String.join ((e :: es).map fun e => assignment e.key e.text)).toList ++ s =
        (assignment e.key e.text).toList ++ ((String.join (es.map fun e => assignment e.key e.text)).toList ++ s) := by
      simp
    have hrest := @ih (fun d hd => hes d (List.mem_cons_of_mem _ hd)) (before ++ [(e.key, .closed e.value)]) (by
      simpa [Entries.names] using hnodup)
    rw [htext, List.length_cons, ← Nat.add_assoc, readLines_assignment he.bare he.reads, assign_last hname hnew,
      Option.bind_some, hrest, List.append_assoc]
    rfl

/-- A section is added behind those before it. -/
theorem readLines_section {sec : WrittenSection} (h : sec.Sound) {done : Entries Node} (hnew : sec.name ∉ done.names)
    (n : Nat) (last : Section) (origin : Origin) (s : List Char) :
    readLines (n + sec.entries.length + 1) last ⟨origin, done⟩ (sec.text.toList ++ s) =
      readLines n ⟨[sec.name]⟩ ⟨origin, done ++ [sec.node]⟩ s := by
  have htext : sec.text.toList ++ s = '[' :: (sec.name.toList ++ ']' :: '\n' ::
      ((String.join (sec.entries.map fun e => assignment e.key e.text)).toList ++ s)) := by
    simp [WrittenSection.text]
  rw [htext, readLines_header h.bare, openTable_new hnew, Option.bind_some,
    readLines_entries hnew h.entries (by simpa [Entries.names] using h.nodup)]
  rfl

/-! ### Files -/

/-- The lines of a file that are not empty. -/
def lineCount (secs : List WrittenSection) : Nat := (secs.map fun sec => sec.entries.length + 1).sum

theorem readLines_document {secs : List WrittenSection} (h : ∀ sec ∈ secs, sec.Sound) {done : Entries Node}
    (hnodup : (done.names ++ secs.map (·.name)).Nodup) {n : Nat} (hn : lineCount secs < n) (last : Section)
    (origin : Origin) :
    readLines n last ⟨origin, done⟩ (documentText secs).toList = some ⟨origin, done ++ secs.map (·.node)⟩ := by
  induction secs generalizing done last n with
  | nil =>
    obtain ⟨m, rfl⟩ : ∃ m, n = m + 1 := ⟨n - 1, by omega⟩
    rw [List.map_nil, List.append_nil]
    rfl
  | cons sec secs ih =>
    rw [lineCount, List.map_cons, List.sum_cons] at hn
    obtain ⟨m, rfl⟩ : ∃ m, n = m + 1 + sec.entries.length + 1 := ⟨n - sec.entries.length - 2, by omega⟩
    have hnew : sec.name ∉ done.names := fun hmem =>
      (List.nodup_append.1 hnodup).2.2 _ hmem _ (List.mem_cons_self ..) rfl
    have hrest : ∀ last, readLines (m + 1) last ⟨origin, done ++ [sec.node]⟩ (documentText secs).toList =
        some ⟨origin, done ++ [sec.node] ++ secs.map (·.node)⟩ := fun last =>
      ih (fun other hother => h other (List.mem_cons_of_mem _ hother))
        (by simpa [Entries.names, WrittenSection.node] using hnodup) (by rw [lineCount]; omega) last
    have hnodes : done ++ (sec :: secs).map (·.node) = done ++ [sec.node] ++ secs.map (·.node) := by
      rw [List.map_cons, List.append_assoc]
      rfl
    rw [hnodes, ← hrest ⟨[sec.name]⟩]
    cases secs with
    | nil =>
      have hread := readLines_section (h sec (List.mem_cons_self ..)) hnew (m + 1) last origin []
      rwa [List.append_nil] at hread
    | cons other secs =>
      have htext : (documentText (sec :: other :: secs)).toList =
          sec.text.toList ++ '\n' :: (documentText (other :: secs)).toList := by
        simp [documentText]
      rw [htext, readLines_section (h sec (List.mem_cons_self ..)) hnew]
      exact readLines_blank ..

theorem length_le_join (es : List WrittenEntry) :
    es.length ≤ (String.join (es.map fun e => assignment e.key e.text)).toList.length := by
  induction es with
  | nil => exact Nat.zero_le _
  | cons e es ih =>
    have hline : 1 ≤ (assignment e.key e.text).toList.length := by
      rw [assignment, String.toList_append, List.length_append]
      exact Nat.le_add_left 1 _
    rw [List.map_cons, String.join_cons, String.toList_append, List.length_append, List.length_cons]
    omega

theorem lineCount_le (secs : List WrittenSection) : lineCount secs ≤ (documentText secs).toList.length := by
  induction secs with
  | nil => exact Nat.le_refl 0
  | cons sec secs ih =>
    have hsec : sec.entries.length + 1 ≤ sec.text.toList.length := by
      have hentries := length_le_join sec.entries
      have hheader : 1 ≤ ("[" ++ sec.name ++ "]\n").toList.length := by simp
      rw [WrittenSection.text, String.toList_append, List.length_append]
      omega
    rw [lineCount, List.map_cons, List.sum_cons]
    cases secs with
    | nil => simpa [documentText] using hsec
    | cons other secs =>
      have htext : documentText (sec :: other :: secs) = sec.text ++ "\n" ++ documentText (other :: secs) := rfl
      rw [htext, String.toList_append, String.toList_append, List.length_append, List.length_append]
      rw [lineCount] at ih
      omega

theorem finishEntries_eq_map (es : Entries Node) : finishEntries es = es.map fun (k, n) => (k, n.finish) := by
  induction es with
  | nil => rfl
  | cons e es ih => exact congrArg ((e.1, e.2.finish) :: ·) ih

theorem finish_node (sec : WrittenSection) : (sec.node.1, sec.node.2.finish) = sec.table := by
  rw [WrittenSection.node, WrittenSection.table, Node.finish, finishEntries_eq_map, List.map_map]
  rfl

theorem head?_documentText (secs : List WrittenSection) : ∀ c ∈ (documentText secs).toList.head?, c = '[' := by
  cases secs with
  | nil => exact nofun
  | cons sec secs =>
    cases secs with
    | nil => simp [documentText, WrittenSection.text]
    | cons other secs => simp [documentText, WrittenSection.text]

/-- A file of sections with distinct names is read as the table of its sections. -/
theorem parse_documentText {secs : List WrittenSection} (h : ∀ sec ∈ secs, sec.Sound)
    (hnodup : (secs.map (·.name)).Nodup) : parse (documentText secs) = some (secs.map (·.table)) := by
  have hread := @readLines_document secs h [] hnodup _ (Nat.lt_succ_of_le (lineCount_le secs)) ⟨[]⟩ .header
  have hparse : parse (documentText secs) = (readLines ((documentText secs).toList.length + 1) ⟨[]⟩ ⟨.header, []⟩
      (documentText secs).toList).map TableNode.finish := by
    rw [parse]
    split
    · rename_i heq
      exact absurd (head?_documentText secs _ (by rw [heq]; rfl)) (by decide)
    · rfl
  rw [hparse, hread, Option.map_some, TableNode.finish, finishEntries_eq_map, List.nil_append, List.map_map]
  exact congrArg some (List.map_congr_left fun sec _ => finish_node sec)

end Toml

end FacetedSearch
