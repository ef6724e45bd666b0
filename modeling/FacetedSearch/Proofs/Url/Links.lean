import FacetedSearch.Proofs.Url.Parsed
import FacetedSearch.ShareLink

/-!
# What share links carry

A document is read from a link in four forms: from the whole link, from the query alone, with and without its question
mark, and from the document itself.  They are told apart by how they begin and by whether they are addresses; written
queries hold neither braces nor colons, so none of them is taken for another form.

* `sourceOf_braces`, `sourceOf_sharedText`: the text of a document stands for itself.
* `sourceOf_written`: the document of a written query.
* `sourceOf_address`: the document of an address.
* `link_carries_document`: all forms of a link give the document that it was made for.
-/

namespace FacetedSearch

/-- The text of a document begins and ends with a brace. -/
theorem sharedText_eq (d : Document) (withFacets : Bool) :
    ∃ t, d.sharedText withFacets = "\x7b" ++ t ++ "\x7d" := by
  rw [Document.sharedText, Document.toShared]
  split
  · exact ⟨_, rfl⟩
  · exact ⟨_, rfl⟩

/-- The text of a document stands for itself. -/
theorem sourceOf_braces (t : String) : sourceOf ("\x7b" ++ t ++ "\x7d") = .ok ("\x7b" ++ t ++ "\x7d") := by
  have hlist : ("\x7b" ++ t ++ "\x7d").toList = '\x7b' :: (t.toList ++ ['\x7d']) := by
    rw [String.append_assoc, String.toList_append, String.toList_append]
    rfl
  have htrim : trimmed ("\x7b" ++ t ++ "\x7d") = "\x7b" ++ t ++ "\x7d" := by
    refine trimmed_eq_self ?_ ?_ <;> rw [hlist]
    · rintro c ⟨⟩
      decide
    · rw [← List.cons_append, List.getLast?_concat]
      rintro c ⟨⟩
      decide
  rw [sourceOf, htrim, hlist]
  rfl

/-- So does the text that links carry. -/
theorem sourceOf_sharedText (d : Document) (withFacets : Bool) :
    sourceOf (d.sharedText withFacets) = .ok (d.sharedText withFacets) := by
  obtain ⟨t, ht⟩ := sharedText_eq d withFacets
  rw [ht]
  exact sourceOf_braces t

/-- A text that is not trimmed and does not begin like a document is searched for a pair. -/
theorem sourceOf_of_get? {input s : String} (htrim : trimmed input = input)
    (hhead : input.toList.head? ≠ some '\x7b') (hget : Form.get? (queryOfText input) sourceName = some s) :
    sourceOf input = .ok s := by
  rw [sourceOf, htrim, if_neg (by simpa using hhead), hget]

/-! ### Written queries -/

theorem toList_marked (q : List Char) : ("?" ++ String.ofList q).toList = '?' :: q := by
  rw [String.toList_append, String.toList_ofList, String.toList_ofList]
  rfl

section

variable {q : List Char} (hq : ∀ c ∈ q, Form.isWritten c = true)
include hq

/-- The query that a written query holds is the query itself, with a question mark before it or without: neither is an
address. -/
theorem queryOfText_written : queryOfText (String.ofList q) = q ∧ queryOfText ("?" ++ String.ofList q) = q := by
  have hcolon : ':' ∉ q := fun h => absurd (hq _ h) (by decide)
  constructor
  · rw [queryOfText, Url.parse_eq_noScheme (by rwa [String.toList_ofList]), String.toList_ofList]
    split
    · rename_i heq
      cases heq
    · exact absurd (hq _ (List.mem_cons_self ..)) (by decide)
    · rfl
  · have hmarked : ':' ∉ '?' :: q := List.not_mem_cons_of_ne_of_not_mem (by decide) hcolon
    rw [queryOfText, Url.parse_eq_noScheme (by rwa [toList_marked]), toList_marked]
    rfl

/-- The document of a written query. -/
theorem sourceOf_written {s : String} (hget : Form.get? q sourceName = some s) :
    sourceOf (String.ofList q) = .ok s ∧ sourceOf ("?" ++ String.ofList q) = .ok s := by
  have hvisible : ∀ c ∈ q, IsVisible c := fun c hc => Form.isVisible_of_isWritten (hq c hc)
  obtain ⟨hbare, hfull⟩ := queryOfText_written hq
  constructor
  · refine sourceOf_of_get? (trimmed_eq_self_of_visible (by rwa [String.toList_ofList])) ?_ (by rwa [hbare])
    rw [String.toList_ofList]
    exact fun h => absurd (hq _ (List.mem_of_mem_head? h)) (by decide)
  · refine sourceOf_of_get? (trimmed_eq_self_of_visible ?_) ?_ (by rwa [hfull])
    · rw [toList_marked]
      exact List.forall_mem_cons.2 ⟨⟨by decide, by decide⟩, hvisible⟩
    · rw [toList_marked, List.head?_cons]
      decide

end

/-! ### Addresses -/

/-- An address that was given named values has these. -/
theorem pairs_withPairs (u : Url) (ps : List (String × String)) : (u.withPairs ps).pairs = ps := by
  rw [Url.pairs, Url.queryChars, Url.withPairs, Option.getD_some, String.toList_ofList, Form.decode_encode]

/-- The document among the named values of an address is found in its text, provided that the text is read as the
address. -/
theorem sourceOf_address {u : Url} (hu : u.Printed) {ps : List (String × String)} {s : String}
    (hs : List.lookup sourceName ps = some s)
    (hreparse : Url.parse (u.withPairs ps).text = .ok (u.withPairs ps)) :
    sourceOf (u.withPairs ps).text = .ok s := by
  have hprinted : (u.withPairs ps).Printed := ⟨hu.scheme, hu.fragment⟩
  have hvisible : ∀ c ∈ (String.ofList (Form.encode ps)).toList, IsVisible c := by
    rw [String.toList_ofList]
    exact fun c hc => Form.isVisible_of_isWritten (Form.isWritten_of_mem_encode c hc)
  obtain ⟨c, hhead, hc⟩ := Url.head_text hprinted
  refine sourceOf_of_get? (Url.trimmed_text hprinted rfl hvisible) ?_ ?_
  · rw [hhead]
    rintro ⟨⟩
    exact absurd hc (by decide)
  · have hquery : queryOfText (u.withPairs ps).text = (u.withPairs ps).queryChars := by
      rw [queryOfText, hreparse]
    have hpairs : Form.decode (u.withPairs ps).queryChars = ps := pairs_withPairs u ps
    rw [Form.get?, hquery, hpairs, hs]

/-- The value that comes last under its name is found if no other has the name. -/
theorem lookup_filter_append (ps : List (String × String)) (name s : String) :
    List.lookup name (ps.filter (·.1 != name) ++ [(name, s)]) = some s := by
  have hnone : List.lookup name (ps.filter (·.1 != name)) = none := by
    refine List.lookup_eq_none_iff.2 fun p hp => ?_
    rw [List.mem_filter, bne_iff_ne] at hp
    exact bne_iff_ne.2 (Ne.symm hp.2)
  rw [List.lookup_append, hnone, Option.none_or, List.lookup_cons_self]

/-- A link is made from an address. -/
theorem exists_of_shareLink {base : String} {d : Document} {withFacets : Bool} {link : Url}
    (h : shareLink base d withFacets = .ok link) :
    ∃ u, Url.parse base = .ok u ∧
      link = u.withPairs (u.pairs.filter (·.1 != sourceName) ++ [(sourceName, d.sharedText withFacets)]) := by
  rw [shareLink] at h
  cases hparse : Url.parse base with
  | error fault =>
    rw [hparse] at h
    cases h
  | ok u =>
    rw [hparse] at h
    cases h
    exact ⟨u, rfl, rfl⟩

/-- Share links carry the document.  Every link is the address it was made from with other named values: those of the
address but for `source`, in their order, and then one `source` with the text of the document.  This text is found in
the query of the link, with a question mark before it and without, and in itself; and it is found in the whole link,
provided that reading the written link gives the link again. -/
theorem link_carries_document {base : String} {d : Document} {withFacets : Bool} {link : Url}
    (hlink : shareLink base d withFacets = .ok link) :
    ∃ u q, Url.parse base = .ok u ∧ link = { u with query := some q } ∧
      link.pairs = u.pairs.filter (·.1 != "source") ++ [("source", d.sharedText withFacets)] ∧
      (Url.parse link.text = .ok link → sourceOf link.text = .ok (d.sharedText withFacets)) ∧
      sourceOf q = .ok (d.sharedText withFacets) ∧ sourceOf ("?" ++ q) = .ok (d.sharedText withFacets) ∧
      sourceOf (d.sharedText withFacets) = .ok (d.sharedText withFacets) := by
  obtain ⟨u, hparse, rfl⟩ := exists_of_shareLink hlink
  have hlookup := lookup_filter_append u.pairs sourceName (d.sharedText withFacets)
  obtain ⟨hbare, hmarked⟩ := sourceOf_written Form.isWritten_of_mem_encode
    (by rw [Form.get?, Form.decode_encode, hlookup])
  refine ⟨u, _, hparse, rfl, pairs_withPairs .., sourceOf_address (Url.printed_of_parse hparse) hlookup, hbare,
    hmarked, sourceOf_sharedText ..⟩

/-- A link on top of an address with a language, an older document and a fragment: the language is kept, and the new
document is found in all its forms. -/
theorem link_keeps_language :
    let d : Document := { query := .term "size" "S & M" }
    let s := "\x7b\"query\":\x7b\"term\":\x7b\"size\":\"S & M\"\x7d\x7d\x7d"
    let q := "lang=en&source=%7B%22query%22%3A%7B%22term%22%3A%7B%22size%22%3A%22S+%26+M%22%7D%7D%7D"
    let link : Url := {
      scheme := "https", authority := some { host := .name "example.org" }, path := .names ["search"],
      query := some q, fragment := some "top" }
    shareLink "https://example.org/search?lang=en&source=old#top" d false = .ok link ∧
      link.pairs = [("lang", "en"), ("source", s)] ∧
      sourceOf ("https://example.org/search?" ++ q ++ "#top") = .ok s ∧
      sourceOf q = .ok s ∧ sourceOf ("?" ++ q) = .ok s ∧ sourceOf s = .ok s := by
  intro d s q link
  have hlink : shareLink "https://example.org/search?lang=en&source=old#top" d false = .ok link :=
    eq_ok_of_toOption (by decide +kernel)
  have hs : d.sharedText false = s := by decide +kernel
  have htext : link.text = "https://example.org/search?" ++ q ++ "#top" := by decide +kernel
  have hreparse : Url.parse link.text = .ok link := eq_ok_of_toOption (by decide +kernel)
  obtain ⟨u, q', hbase, hquery, hpairs, hfull, hbare, hmarked, hself⟩ := link_carries_document hlink
  have hu : Url.parse "https://example.org/search?lang=en&source=old#top" =
      .ok { link with query := some "lang=en&source=old" } := eq_ok_of_toOption (by decide +kernel)
  have hq : q' = q := (Option.some.inj (congrArg Url.query hquery)).symm
  subst hq
  rw [hs] at hpairs hfull hbare hmarked hself
  rw [← htext]
  refine ⟨hlink, ?_, hfull hreparse, hbare, hmarked, hself⟩
  rw [hpairs, Except.ok.inj (hbase.symm.trans hu)]
  decide +kernel

end FacetedSearch
