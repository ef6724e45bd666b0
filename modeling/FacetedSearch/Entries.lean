/-!
# Entries

Named values in the order in which their names first appeared. `get?` is the value of a name, and `put` changes
it in place or adds it at the end, so the order of names never depends on later writes.
-/

namespace FacetedSearch

/-- Named values in order of first appearance. -/
abbrev Entries (α : Type) := List (String × α)

namespace Entries

variable {α : Type}

/-- The value of a name. -/
def get? (es : Entries α) (name : String) : Option α :=
  List.lookup name es

/-- Gives a name a value: in place when the name is there, at the end otherwise. -/
def put : Entries α → String → α → Entries α
  | [], name, v => [(name, v)]
  | (n, w) :: es, name, v => if n = name then (n, v) :: es else (n, w) :: put es name v

/-- The names, in order. -/
def names (es : Entries α) : List String :=
  es.map Prod.fst

/-- Adds the entries whose names are not there yet. -/
def addMissing (es new : Entries α) : Entries α :=
  new.foldl (fun acc (n, v) => if (acc.get? n).isSome then acc else acc ++ [(n, v)]) es

theorem get?_cons (n name : String) (w : α) (es : Entries α) :
    get? ((n, w) :: es) name = if name = n then some w else get? es name := by
  by_cases h : name = n
  · simp [get?, h]
  · have hn : (name == n) = false := by simpa using h
    simp [get?, List.lookup_cons, h, hn]

theorem get?_put (es : Entries α) (a b : String) (v : α) :
    (es.put a v).get? b = if b = a then some v else es.get? b := by
  induction es with
  | nil => simp [put, get?_cons]
  | cons e es ih =>
    obtain ⟨n, w⟩ := e
    by_cases h : n = a
    · subst h
      by_cases hb : b = n <;> simp [put, get?_cons, hb]
    · by_cases hb : b = n
      · subst hb; simp [put, get?_cons, h]
      · simp [put, get?_cons, h, hb, ih]

theorem names_put (es : Entries α) (a : String) (v : α) :
    (es.put a v).names = if a ∈ es.names then es.names else es.names ++ [a] := by
  induction es with
  | nil => simp [put, names]
  | cons e es ih =>
    obtain ⟨n, w⟩ := e
    simp only [names] at ih ⊢
    by_cases h : n = a
    · simp [put, h]
    · have h' : ¬a = n := fun e => h e.symm
      by_cases hm : a ∈ List.map Prod.fst es <;> simp [put, h, h', ih, hm]

end Entries

end FacetedSearch
