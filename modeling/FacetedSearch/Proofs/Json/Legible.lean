import FacetedSearch.Json.Reader
import FacetedSearch.Json.Writer
import FacetedSearch.Proofs.Json.Proper

/-!
# Reading what was written

A value is legible if no object in it holds a name twice and each number is what its text is read as.  Integers of 64
bits are; a double need not be, as later digits of its text may be dropped.  The compact text of a legible value is read
as the value if it is not nested deeper than the reader goes, and it is refused if it is.

* `Json.Legible`, `Json.depth`: the values in question, and how deep they are nested.
* `JsonNumber.legible_integer`: integers are legible.
* `readChars_escape`: quoted text is read as it was.
* `readValue_compact`: what the text of a legible value is read as, whatever follows it.
* `parse_compact`: the same for a whole text.
-/

namespace FacetedSearch

namespace Json

/-- What may follow a value: nothing, a comma or a closing bracket. -/
inductive Ends : List Char → Prop
  | nil : Ends []
  | comma (s : List Char) : Ends (',' :: s)
  | bracket (s : List Char) : Ends (']' :: s)
  | brace (s : List Char) : Ends ('}' :: s)

end Json

open Json

/-! ### Numbers -/

namespace JsonNumber

/-- The text of the number is read as the number, whatever follows it. -/
def Legible (n : JsonNumber) : Prop :=
  ∀ rest, Ends rest → read (n.text.toList ++ rest) = some (n, rest)

private theorem takeDigits_append {ds rest : List Char} (hds : ∀ d ∈ ds, d.isDigit) (hrest : Ends rest) :
    takeDigits (ds ++ rest) = (ds, rest) := by
  rw [takeDigits, List.takeWhile_append_of_pos hds, List.dropWhile_append_of_pos hds]
  cases hrest <;> simp

/-- Only zero is written with a zero in front. -/
theorem head?_toDigits {n : Nat} (hn : 0 < n) : (Nat.toDigits 10 n).head? ≠ some '0' := by
  induction n using Nat.base_induction 10 (by decide) with
  | single m hm =>
    rw [Nat.toDigits_of_lt_base hm]
    simpa using Nat.pos_iff_ne_zero.1 hn
  | digit m k hk hm ih =>
    rw [← Nat.toDigits_append_toDigits (by decide) hm hk, List.head?_append]
    cases hhead : (Nat.toDigits 10 m).head? with
    | none => exact absurd (List.head?_eq_none_iff.1 hhead) Nat.toDigits_ne_nil
    | some d =>
      rw [hhead] at ih
      exact ih hm

/-- The digits of an integer are the whole literal. -/
private theorem readUnsigned_toDigits (negative : Bool) (n : Nat) {rest : List Char} (hrest : Ends rest) :
    readUnsigned negative (Nat.toDigits 10 n ++ rest) =
      (Literal.value? ⟨negative, Nat.toDigits 10 n, none, none⟩).map (·, rest) := by
  have hdigits : takeDigits (Nat.toDigits 10 n ++ rest) = (Nat.toDigits 10 n, rest) :=
    takeDigits_append (fun d hd => Nat.isDigit_of_mem_toDigits (by decide) (by decide) hd) hrest
  have hfraction : readFraction rest = some (none, rest) := by cases hrest <;> rfl
  have hexponent : readExponent rest = some (none, rest) := by cases hrest <;> rfl
  have hzero : ((Nat.toDigits 10 n).head? == some '0' && (Nat.toDigits 10 n).length ≠ 1) = false := by
    rcases Nat.eq_zero_or_pos n with rfl | hn
    · rfl
    · simp [head?_toDigits hn]
  have hempty : (Nat.toDigits 10 n).isEmpty = false := by simp [Nat.toDigits_ne_nil]
  rw [readUnsigned, hdigits]
  simp only [hempty, hzero, Bool.or_false, hfraction, Bool.false_eq_true, if_false]
  show (readExponent rest).bind _ = _
  rw [hexponent, Option.map_eq_bind]
  rfl

private theorem value?_toDigits {n : Nat} (hn : n < wordLimit) :
    Literal.value? ⟨false, Nat.toDigits 10 n, none, none⟩ = some (.integer n) := by
  have hvalue : digitsValue (Nat.toDigits 10 n) = n := Nat.ofDigitChars_ten_toDigits
  simp [Literal.value?, hvalue, hn]

private theorem value?_negative_toDigits {n : Nat} (hpos : 0 < n) (hn : n ≤ signedLimit) :
    Literal.value? ⟨true, Nat.toDigits 10 n, none, none⟩ = some (.integer (-n)) := by
  have hvalue : digitsValue (Nat.toDigits 10 n) = n := Nat.ofDigitChars_ten_toDigits
  simp [Literal.value?, hvalue, hpos, hn]

private theorem read_of_isDigit {d : Char} {s : List Char} (hd : d.isDigit) :
    read (d :: s) = readUnsigned false (d :: s) := by
  rw [read]
  rintro t heq
  cases heq
  exact absurd hd (by decide)

/-- Integers of the signed or unsigned 64-bit range are legible. -/
theorem legible_integer {n : Int} (hlow : -(signedLimit : Int) ≤ n) (hhigh : n < wordLimit) :
    (integer n).Legible := by
  intro rest hrest
  have htext : (integer n).text = n.repr := rfl
  rw [htext, Int.repr_eq_if]
  split
  · rename_i hn
    obtain ⟨m, rfl⟩ := Int.eq_ofNat_of_zero_le hn
    obtain ⟨d, ds, hds⟩ := List.exists_cons_of_ne_nil (Nat.toDigits_ne_nil (b := 10) (n := m))
    have hd : d.isDigit := Nat.isDigit_of_mem_toDigits (b := 10) (n := m) (by decide) (by decide) (by simp [hds])
    have hread := readUnsigned_toDigits false m hrest
    rw [value?_toDigits (by omega)] at hread
    rw [Int.toNat_natCast, Nat.toList_repr, hds, List.cons_append, read_of_isDigit hd, ← List.cons_append, ← hds,
      hread]
    rfl
  · rename_i hn
    obtain ⟨m, hm⟩ := Int.eq_ofNat_of_zero_le (a := -n) (by omega)
    obtain rfl : n = -(m : Int) := by omega
    have hread := readUnsigned_toDigits true m hrest
    rw [value?_negative_toDigits (by omega) (by omega)] at hread
    have hsign : ("-" ++ (- -(m : Int)).toNat.repr).toList = '-' :: Nat.toDigits 10 m := by simp
    rw [hsign, List.cons_append, read, hread]
    rfl

/-- A number starts with a sign or a digit. -/
theorem head_of_read {s : List Char} {r : JsonNumber × List Char} (h : read s = some r) :
    ∃ c t, s = c :: t ∧ (c = '-' ∨ c.isDigit = true) := by
  rw [read.eq_def] at h
  split at h
  · exact ⟨_, _, rfl, Or.inl rfl⟩
  · rw [readUnsigned, takeDigits] at h
    match s with
    | [] => cases h
    | c :: t =>
      refine ⟨c, t, rfl, Or.inr ?_⟩
      cases hc : c.isDigit with
      | true => rfl
      | false =>
        rw [List.takeWhile_cons_of_neg (by simp [hc])] at h
        cases h

end JsonNumber

namespace Json

/-- No object in the value holds a name twice, and all its numbers are legible. -/
inductive Legible : Json → Prop
  | null : Legible .null
  | bool (b : Bool) : Legible (.bool b)
  | num {n : JsonNumber} (h : n.Legible) : Legible (.num n)
  | str (s : String) : Legible (.str s)
  | arr {vs : List Json} (h : ∀ v ∈ vs, Legible v) : Legible (.arr vs)
  | obj {es : List (String × Json)} (hnames : (Entries.names es).Nodup) (h : ∀ e ∈ es, Legible e.2) :
    Legible (.obj es)

attribute [simp] Legible.null Legible.bool Legible.str

@[simp]
theorem legible_arr_iff {vs : List Json} : (arr vs).Legible ↔ ∀ v ∈ vs, v.Legible := by
  refine ⟨fun h => ?_, .arr⟩
  cases h with
  | arr h => exact h

@[simp]
theorem legible_obj_iff {es : List (String × Json)} :
    (obj es).Legible ↔ (Entries.names es).Nodup ∧ ∀ e ∈ es, e.2.Legible := by
  refine ⟨fun h => ?_, fun h => .obj h.1 h.2⟩
  cases h with
  | obj hnames h => exact ⟨hnames, h⟩

@[simp]
theorem legible_keyed_iff {key : String} {v : Json} : (keyed key v).Legible ↔ v.Legible := by
  simp [keyed, Entries.names]

/-- What stands inside a legible value is legible. -/
theorem Legible.inside {w v : Json} (h : v.Legible) (hw : w.Inside v) : w.Legible := by
  induction hw with
  | item hmem => exact legible_arr_iff.1 h _ hmem
  | entry hmem => exact (legible_obj_iff.1 h).2 _ hmem
  | trans _ _ ih ih' => exact ih (ih' h)

mutual

/-- How deep arrays and objects are nested in the value. -/
def depth : Json → Nat
  | .arr vs => depthItems vs + 1
  | .obj es => depthEntries es + 1
  | _ => 0

/-- How deep the deepest item is nested. -/
def depthItems : List Json → Nat
  | [] => 0
  | v :: vs => max v.depth (depthItems vs)

/-- How deep the deepest value of an entry is nested. -/
def depthEntries : List (String × Json) → Nat
  | [] => 0
  | (_, v) :: es => max v.depth (depthEntries es)

end

/-! ### Strings -/

private theorem number?_control (c : Char) (h : c.toNat < 0x20) :
    Hex.number? ('0' :: '0' :: Hex.lowerByte c.toNat) = some c.toNat := by
  have hall : ∀ n < 0x20, Hex.number? ('0' :: '0' :: Hex.lowerByte n) = some n := by decide
  exact hall _ h

private theorem readChars_short {c e : Char} (h : simpleEscape? e = some c) (s : List Char) :
    readChars ('\\' :: e :: s) = (readChars s).map fun (cs, rest) => (c :: cs, rest) := by
  have hu : e ≠ 'u' := by
    rintro rfl
    cases h
  rw [readChars, h, Option.map_eq_bind]
  · rfl
  · intro _ _ _ _ _ heq
    exact absurd heq hu

private theorem readChars_control {c : Char} (h : c.toNat < 0x20) (s : List Char) :
    readChars ('\\' :: 'u' :: '0' :: '0' :: (Hex.lowerByte c.toNat ++ s)) =
      (readChars s).map fun (cs, rest) => (c :: cs, rest) := by
  have hnumber : Hex.number? ['0', '0', Nat.digitChar (c.toNat / 16), Nat.digitChar (c.toNat % 16)] = some c.toNat :=
    number?_control c h
  have hlow : isLowHalf c.toNat = false := by simp [isLowHalf]; omega
  have hhigh : isHighHalf c.toNat = false := by simp [isHighHalf]; omega
  rw [Hex.lowerByte, List.cons_append, List.cons_append, List.nil_append, readChars, hnumber]
  simp only [Option.bind_eq_bind, Option.bind_some, hlow, hhigh, Bool.false_eq_true, if_false, Char.ofNat_toNat,
    Option.map_eq_bind]
  rfl

private theorem readChars_plain {c : Char} (hquote : c ≠ '"') (hslash : c ≠ '\\') (h : ¬c.toNat < 0x20)
    (s : List Char) : readChars (c :: s) = (readChars s).map fun (cs, rest) => (c :: cs, rest) := by
  rw [readChars, if_neg h, Option.map_eq_bind]
  · rfl
  · exact hquote
  · exact fun _ _ _ _ _ heq => absurd heq hslash
  · exact fun _ _ heq => absurd heq hslash

theorem readChars_escapeChar (c : Char) (s : List Char) :
    readChars (escapeChar c ++ s) = (readChars s).map fun (cs, rest) => (c :: cs, rest) := by
  rw [escapeChar]
  -- the characters with an escape of one letter
  iterate 7
    split
    · subst_vars
      exact readChars_short rfl s
  split
  · rename_i hcontrol
    exact readChars_control hcontrol s
  · rename_i hquote hslash _ _ _ _ _ hcontrol
    exact readChars_plain hquote hslash hcontrol s

/-- Quoted text is read as it was. -/
theorem readChars_escape (cs s : List Char) : readChars (cs.flatMap escapeChar ++ '"' :: s) = some (cs, s) := by
  induction cs with
  | nil => rfl
  | cons c cs ih =>
    rw [List.flatMap_cons, List.append_assoc, readChars_escapeChar, ih]
    rfl

theorem toList_quote (s : String) (rest : List Char) :
    (quote s).toList ++ rest = '"' :: (s.toList.flatMap escapeChar ++ '"' :: rest) := by
  simp [quote]

/-! ### Values -/

theorem readValue_number {depth : Nat} {s : List Char} {n : JsonNumber} {rest : List Char}
    (h : JsonNumber.read s = some (n, rest)) : readValue depth s = some (.num n, rest) := by
  obtain ⟨c, t, rfl, hc⟩ := JsonNumber.head_of_read h
  rw [readValue.eq_def]
  dsimp only
  split
  -- a sign or a digit starts none of the other shapes
  iterate 6
    rename_i heq
    cases heq
    exact absurd hc (by decide)
  rw [h]
  rfl

private theorem readValue_bracket {depth : Nat} {s : List Char} (hblank : skipBlank s = s)
    (hopen : ∀ t, s ≠ ']' :: t) : readValue (depth + 1) ('[' :: s) =
      (readItems (readValue depth) (s.length + 1) s).map fun (vs, rest) => (.arr vs, rest) := by
  rw [readValue.eq_def]
  simp only [hblank]

private theorem readValue_brace {depth : Nat} {s : List Char} (hblank : skipBlank s = s)
    (hopen : ∀ t, s ≠ '\x7d' :: t) : readValue (depth + 1) ('\x7b' :: s) =
      (readEntries (readValue depth) (s.length + 1) s).map fun (es, rest) => (.obj es, rest) := by
  rw [readValue.eq_def]
  simp only [hblank]

/-- A reader that goes no deeper refuses arrays and objects. -/
private theorem readValue_zero {c : Char} (hc : c = '[' ∨ c = '\x7b') (s : List Char) :
    readValue 0 (c :: s) = none := by
  rcases hc with rfl | rfl <;> rw [readValue.eq_def] <;> rfl

/-- The text of a legible value starts with neither a blank nor a closing bracket. -/
theorem head_of_compact {v : Json} (h : v.Legible) (s : List Char) :
    skipBlank (v.compact.toList ++ s) = v.compact.toList ++ s ∧ ∀ t, v.compact.toList ++ s ≠ ']' :: t := by
  suffices hhead : ∃ c t, v.compact.toList = c :: t ∧ ¬(c = ' ' ∨ c = '\n' ∨ c = '\t' ∨ c = '\r') ∧ c ≠ ']' by
    obtain ⟨c, t, htext, hblank, hopen⟩ := hhead
    rw [htext]
    refine ⟨List.dropWhile_cons_of_neg (by simpa [and_assoc] using hblank), fun _ heq => ?_⟩
    exact hopen (List.cons.inj heq).1
  cases h with
  | null => exact ⟨_, _, rfl, by decide, by decide⟩
  | bool b => cases b <;> exact ⟨_, _, rfl, by decide, by decide⟩
  | num hn =>
    obtain ⟨c, t, htext, hc⟩ := JsonNumber.head_of_read (hn [] .nil)
    rw [List.append_nil] at htext
    refine ⟨c, t, htext, ?_, ?_⟩
    · rintro (rfl | rfl | rfl | rfl) <;> exact absurd hc (by decide)
    · rintro rfl
      exact absurd hc (by decide)
  | str s =>
    have htext := toList_quote s []
    rw [List.append_nil] at htext
    exact ⟨_, _, htext, by decide, by decide⟩
  | arr | obj => exact ⟨_, _, by rw [compact, String.toList_append, String.toList_append]; rfl, by decide, by decide⟩

/-- The text of a value is read as the value if it is nested at most `depth` deep and refused otherwise, whatever
follows it. -/
def ReadWithin (v : Json) (depth : Nat) : Prop :=
  ∀ rest, Ends rest → readValue depth (v.compact.toList ++ rest) = if v.depth ≤ depth then some (v, rest) else none

private theorem toList_compactItems (v w : Json) (vs : List Json) (rest : List Char) :
    (compactItems (v :: w :: vs)).toList ++ rest =
      v.compact.toList ++ ',' :: ((compactItems (w :: vs)).toList ++ rest) := by
  simp [compactItems]

/-- Items are read back up to the first one that is nested too deep. -/
theorem readItems_compact {depth : Nat} {v : Json} {vs : List Json} (hlegible : ∀ w ∈ v :: vs, w.Legible)
    (h : ∀ w ∈ v :: vs, w.ReadWithin depth) {n : Nat} (hn : vs.length ≤ n) (rest : List Char) :
    readItems (readValue depth) (n + 1) ((compactItems (v :: vs)).toList ++ ']' :: rest) =
      if depthItems (v :: vs) ≤ depth then some (v :: vs, rest) else none := by
  induction vs generalizing v n with
  | nil =>
    have hv := h v (List.mem_cons_self ..) _ (.bracket rest)
    have hblank := (head_of_compact (hlegible v (List.mem_cons_self ..)) (']' :: rest)).1
    rw [compactItems, readItems, hblank, hv, depthItems, depthItems, Nat.max_zero]
    split <;> rfl
  | cons w vs ih =>
    cases n with
    | zero => exact absurd hn (Nat.not_succ_le_zero _)
    | succ n =>
      have hrest := ih (fun u hu => hlegible u (List.mem_cons_of_mem _ hu))
        (fun u hu => h u (List.mem_cons_of_mem _ hu)) (Nat.le_of_succ_le_succ hn)
      have hv := h v (List.mem_cons_self ..) _ (.comma ((compactItems (w :: vs)).toList ++ ']' :: rest))
      have hblank := fun s => (head_of_compact (hlegible v (List.mem_cons_self ..)) s).1
      rw [toList_compactItems, readItems, hblank, hv, depthItems]
      by_cases hdepth : v.depth ≤ depth
      · rw [if_pos hdepth]
        show (readItems (readValue depth) (n + 1) _).bind _ = _
        rw [hrest]
        simp only [Nat.max_le, hdepth, true_and]
        split <;> rfl
      · rw [if_neg hdepth, if_neg fun hmax => hdepth (Nat.max_le.1 hmax).1]
        rfl

/-- The value of an entry is read; what follows it decides how the reading goes on. -/
theorem readEntries_entry {depth : Nat} {v : Json} {tail : List Char}
    (hblank : skipBlank (v.compact.toList ++ tail) = v.compact.toList ++ tail) (k : String) (n : Nat) :
    readEntries (readValue depth) (n + 1) ((quote k ++ ":" ++ v.compact).toList ++ tail) =
      (readValue depth (v.compact.toList ++ tail)).bind fun (w, s) =>
        match skipBlank s with
        | '\x7d' :: s => some ([(k, w)], s)
        | ',' :: s => (readEntries (readValue depth) n s).map fun (es, s) => ((k, w) :: es, s)
        | _ => none := by
  have htext : (quote k ++ ":" ++ v.compact).toList ++ tail =
      '"' :: (k.toList.flatMap escapeChar ++ '"' :: ':' :: (v.compact.toList ++ tail)) := by
    simp [quote]
  rw [htext, readEntries]
  show (readChars _).bind _ = _
  rw [readChars_escape]
  show (readValue depth (skipBlank _)).bind _ = _
  rw [hblank]
  simp only [String.ofList_toList, Option.map_eq_bind]
  rfl

/-- Entries are read back up to the first one whose value is nested too deep. -/
theorem readEntries_compact {depth : Nat} {e : String × Json} {es : List (String × Json)}
    (hlegible : ∀ d ∈ e :: es, d.2.Legible) (h : ∀ d ∈ e :: es, d.2.ReadWithin depth) {n : Nat} (hn : es.length ≤ n)
    (rest : List Char) :
    readEntries (readValue depth) (n + 1) ((compactEntries (e :: es)).toList ++ '\x7d' :: rest) =
      if depthEntries (e :: es) ≤ depth then some (e :: es, rest) else none := by
  obtain ⟨k, v⟩ := e
  induction es generalizing k v n with
  | nil =>
    have hv := h (k, v) (List.mem_cons_self ..) _ (.brace rest)
    have hblank := (head_of_compact (hlegible (k, v) (List.mem_cons_self ..)) ('\x7d' :: rest)).1
    rw [compactEntries, readEntries_entry hblank, hv, depthEntries, depthEntries, Nat.max_zero]
    split <;> rfl
  | cons d es ih =>
    cases n with
    | zero => exact absurd hn (Nat.not_succ_le_zero _)
    | succ n =>
      have hrest := ih (Nat.le_of_succ_le_succ hn) d.1 d.2 (fun c hc => hlegible c (List.mem_cons_of_mem _ hc))
        fun c hc => h c (List.mem_cons_of_mem _ hc)
      have hv := h (k, v) (List.mem_cons_self ..) _ (.comma ((compactEntries (d :: es)).toList ++ '\x7d' :: rest))
      have hblank := fun s => (head_of_compact (hlegible (k, v) (List.mem_cons_self ..)) s).1
      have htext : (compactEntries ((k, v) :: d :: es)).toList ++ '\x7d' :: rest =
          (quote k ++ ":" ++ v.compact).toList ++ ',' :: ((compactEntries (d :: es)).toList ++ '\x7d' :: rest) := by
        simp [compactEntries]
      rw [htext, readEntries_entry (hblank _), hv, depthEntries]
      by_cases hdepth : v.depth ≤ depth
      · rw [if_pos hdepth]
        show (readEntries (readValue depth) (n + 1) _).map _ = _
        rw [hrest]
        simp only [Nat.max_le, hdepth, true_and]
        split <;> rfl
      · rw [if_neg hdepth, if_neg fun hmax => hdepth (Nat.max_le.1 hmax).1]
        rfl

theorem length_le_compactItems (vs : List Json) : vs.length ≤ (compactItems vs).toList.length + 1 := by
  induction vs with
  | nil => exact Nat.zero_le _
  | cons v vs ih =>
    cases vs with
    | nil => exact Nat.le_add_left ..
    | cons w vs =>
      simp [compactItems] at ih ⊢
      omega

theorem length_le_compactEntries (es : List (String × Json)) : es.length ≤ (compactEntries es).toList.length + 1 := by
  induction es with
  | nil => exact Nat.zero_le _
  | cons e es ih =>
    cases es with
    | nil => exact Nat.le_add_left ..
    | cons d es =>
      simp [compactEntries] at ih ⊢
      omega

/-- Neither a blank nor a closing bracket stands in front of the first item. -/
private theorem head_of_items {v : Json} (h : v.Legible) (vs : List Json) (rest : List Char) :
    skipBlank ((compactItems (v :: vs)).toList ++ ']' :: rest) = (compactItems (v :: vs)).toList ++ ']' :: rest ∧
      ∀ t, (compactItems (v :: vs)).toList ++ ']' :: rest ≠ ']' :: t := by
  cases vs with
  | nil => exact head_of_compact h _
  | cons w vs =>
    rw [toList_compactItems]
    exact head_of_compact h _

private theorem head_of_entries (e : String × Json) (es : List (String × Json)) :
    ∃ t, (compactEntries (e :: es)).toList = '"' :: t := by
  cases es <;> simp [compactEntries, quote]

private theorem readWithin_arr {vs : List Json} (hlegible : ∀ v ∈ vs, v.Legible) {depth : Nat}
    (h : ∀ v ∈ vs, v.ReadWithin depth) : (Json.arr vs).ReadWithin (depth + 1) := by
  intro rest _
  rw [Json.depth]
  simp only [Nat.add_le_add_iff_right]
  cases vs with
  | nil => rfl
  | cons v vs =>
    have htext : (compact (.arr (v :: vs))).toList ++ rest =
        '[' :: ((compactItems (v :: vs)).toList ++ ']' :: rest) := by
      simp [compact]
    obtain ⟨hblank, hopen⟩ := head_of_items (hlegible v (List.mem_cons_self ..)) vs rest
    -- the bound on the number of items is the length of the text, and each item but the last has a comma
    have hlength := length_le_compactItems (v :: vs)
    have hread := readItems_compact hlegible h (n := ((compactItems (v :: vs)).toList ++ ']' :: rest).length)
      (by simp at hlength ⊢; omega) rest
    rw [htext, readValue_bracket hblank hopen, hread]
    split <;> rfl

private theorem readWithin_obj {es : List (String × Json)} (hlegible : ∀ e ∈ es, e.2.Legible) {depth : Nat}
    (h : ∀ e ∈ es, e.2.ReadWithin depth) : (Json.obj es).ReadWithin (depth + 1) := by
  intro rest _
  rw [Json.depth]
  simp only [Nat.add_le_add_iff_right]
  cases es with
  | nil => rfl
  | cons e es =>
    have htext : (compact (.obj (e :: es))).toList ++ rest =
        '\x7b' :: ((compactEntries (e :: es)).toList ++ '\x7d' :: rest) := by
      simp [compact]
    obtain ⟨t, ht⟩ := head_of_entries e es
    have hlength := length_le_compactEntries (e :: es)
    have hread := readEntries_compact hlegible h (n := ((compactEntries (e :: es)).toList ++ '\x7d' :: rest).length)
      (by simp at hlength ⊢; omega) rest
    have hblank : skipBlank ((compactEntries (e :: es)).toList ++ '\x7d' :: rest) =
        (compactEntries (e :: es)).toList ++ '\x7d' :: rest := by
      rw [ht]
      rfl
    rw [htext, readValue_brace hblank (by simp [ht]), hread]
    split <;> rfl

/-- The text of a legible value is read as the value if it is not nested too deep and refused otherwise. -/
theorem readValue_compact {v : Json} (h : v.Legible) : ∀ depth, v.ReadWithin depth := by
  induction h with
  | null => exact fun _ _ _ => by rw [readValue.eq_def]; rfl
  | bool b => exact fun _ _ _ => by rw [readValue.eq_def]; cases b <;> rfl
  | num hn => exact fun _ rest hrest => readValue_number (hn rest hrest)
  | str s =>
    intro _ rest _
    rw [compact, toList_quote, readValue.eq_def]
    show (readChars _).map _ = _
    rw [readChars_escape]
    exact congrArg (fun t => some (str t, rest)) String.ofList_toList
  | arr hvs ih =>
    intro depth
    cases depth with
    | zero =>
      intro rest _
      rw [compact, String.toList_append, String.toList_append, List.append_assoc, List.append_assoc]
      exact readValue_zero (Or.inl rfl) _
    | succ depth => exact readWithin_arr hvs fun v hv => ih v hv depth
  | obj _ hes ih =>
    intro depth
    cases depth with
    | zero =>
      intro rest _
      rw [compact, String.toList_append, String.toList_append, List.append_assoc, List.append_assoc]
      exact readValue_zero (Or.inr rfl) _
    | succ depth => exact readWithin_obj hes fun e he => ih e he depth

/-! ### Repeated names -/

theorem normalItems_eq_map (vs : List Json) : normalItems vs = vs.map normal := by
  induction vs with
  | nil => rfl
  | cons v vs ih => rw [normalItems, ih, List.map_cons]

theorem normalEntries_eq_map (es : Entries Json) : normalEntries es = es.map fun (k, v) => (k, normal v) := by
  induction es with
  | nil => rfl
  | cons e es ih => rw [normalEntries, ih, List.map_cons]

/-- A legible value repeats no name. -/
theorem normal_eq_self {v : Json} (h : v.Legible) : v.normal = v := by
  induction h with
  | null | bool | num | str => rw [normal] <;> nofun
  | arr _ ih => rw [normal, normalItems_eq_map, List.map_congr_left ih, List.map_id']
  | @obj es hnames _ ih =>
    have hes : normalEntries es = es := by
      rw [normalEntries_eq_map]
      refine (List.map_congr_left (g := id) fun e he => ?_).trans (List.map_id es)
      exact Prod.ext rfl (ih e he)
    rw [normal, hes, Entries.foldl_put [] es hnames, List.nil_append]

/-- The text of a legible value is read as the value if it is not nested too deep and refused otherwise. -/
theorem parse_compact {v : Json} (h : v.Legible) :
    parse v.compact = if v.depth ≤ maxDepth then some v else none := by
  have hread := readValue_compact h maxDepth [] .nil
  have hblank := (head_of_compact h []).1
  rw [List.append_nil] at hread hblank
  rw [parse, parseLiteral, hblank, hread]
  split
  · show (some v).map normal = some v
    rw [Option.map_some, normal_eq_self h]
  · rfl

end Json

end FacetedSearch
