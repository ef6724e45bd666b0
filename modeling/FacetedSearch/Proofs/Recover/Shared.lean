import FacetedSearch.Proofs.Recover.Legible
import FacetedSearch.Proofs.Recover.RoundTrip
import FacetedSearch.Proofs.Url.Links

/-!
# Documents in links

A document that was read can be written and read any number of times.  A link carries it as text, with its facet
requests or without; opening the link reads the text, writes the document and reads it once more, and the commands are
those of the document itself.  A text is refused, however, when it is nested too deep, and a document may be written
deeper than it was read: an arm that held a single clause is written as an array.

* `reread_query`: the query of a document that was read has no raw clause left to read.
* `RecoversFrom`: a value from which the commands of a document are recovered, when it is read, written and read again.
* `OpensAs`: a text from which they are recovered, whatever carries it.
* `opensAs_sharedText_iff`: the texts of links.
* `document_reads_back`: documents read back as they were.
* `deep_document_refused`: a document that is read, but not from its own link.
-/

namespace FacetedSearch

namespace Document

/-- Reading the value, writing what was read and recovering from that gives the commands of the document. -/
def RecoversFrom (d : Document) (w : Json) : Prop :=
  ∀ c : Config, ∃ e, ofJson w = .ok e ∧ c.recoverJson e.toJson = c.recover d

/-- Opening anything that carries the text recovers the commands of the document. -/
def OpensAs (d : Document) (text : String) : Prop :=
  ∀ (c : Config) (input : String), sourceOf input = .ok text →
    ∃ e, documentOf input = .ok e ∧ c.recoverJson e.toJson = c.recover d

/-- The query of a document that was read has no raw clause left to read. -/
theorem reread_query {v : Json} {d : Document} (h : ofJson v = .ok d) : d.query.reread = d.query := by
  cases v with
  | obj es =>
    cases h
    rw [ofEntries]
    -- without a query entry the query matches all
    cases Entries.get? es "query" with
    | none => rfl
    | some q => exact Clause.reread_ofJson q
  | _ => cases h

/-- The facet requests do not matter for the commands. -/
theorem recoversFrom_of_read {d : Document} {w : Json} {facets : Entries Json} (hquery : d.query.reread = d.query)
    (hread : ofJson w = .ok { d with facets }) : d.RecoversFrom w := by
  refine fun c => ⟨_, hread, ?_⟩
  rw [Config.recoverJson, ofJson_toJson]
  show c.recover { d with query := d.query.reread, facets } = _
  rw [hquery]
  rfl

theorem RecoversFrom.opensAs {d : Document} {w : Json} (h : d.RecoversFrom w) {text : String}
    (htext : Json.parse text = some w) : d.OpensAs text := by
  intro c input hsource
  obtain ⟨e, hread, hcmds⟩ := h c
  have hparse : parse text = .ok e := by
    rw [parse, htext]
    exact hread
  exact ⟨e, by simp [documentOf, hsource, hparse, bind, Except.bind], hcmds⟩

/-- A link whose text cannot be read is refused. -/
theorem refused_of_parse_eq_none {d : Document} {withFacets : Bool} (h : Json.parse (d.sharedText withFacets) = none) :
    documentOf (d.sharedText withFacets) = .error (.source .invalidJson) ∧ ¬d.OpensAs (d.sharedText withFacets) := by
  have hsource := sourceOf_sharedText d withFacets
  have hrefused : documentOf (d.sharedText withFacets) = .error (.source .invalidJson) := by
    simp [documentOf, hsource, parse, h, bind, Except.bind]
  refine ⟨hrefused, fun hopens => ?_⟩
  obtain ⟨e, hread, -⟩ := hopens {} _ hsource
  rw [hrefused] at hread
  cases hread

/-- The text that links carry opens as the document just when it is not nested too deep. -/
theorem opensAs_sharedText_iff {d : Document} {withFacets : Bool} (hvalue : d.RecoversFrom (d.toShared withFacets))
    (hlegible : (d.toShared withFacets).Legible) :
    d.OpensAs (d.sharedText withFacets) ↔ (d.toShared withFacets).depth ≤ Json.maxDepth := by
  have hparse : Json.parse (d.sharedText withFacets) = _ := Json.parse_compact hlegible
  split at hparse
  · exact iff_of_true (hvalue.opensAs hparse) ‹_›
  · exact iff_of_false (refused_of_parse_eq_none hparse).2 ‹_›

end Document

/-- A document that was read reads back as it was, without its facet requests if it travels without them.  Its commands
are recovered from the value it came from and from what links carry, with facet requests or without, and from each text
that is read as one of these.  What links carry is legible if the value was, and its text is such a text just when it
is not nested deeper than texts are read. -/
theorem document_reads_back {v : Json} {d : Document} (hread : Document.ofJson v = .ok d) :
    Document.ofJson d.toJson = .ok d ∧
      Document.ofJson (d.toShared false) = .ok { d with facets := [] } ∧
      (∀ w ∈ [v, d.toShared true, d.toShared false],
        d.RecoversFrom w ∧ ∀ text, Json.parse text = some w → d.OpensAs text) ∧
      (v.Legible → ∀ withFacets, (d.toShared withFacets).Legible) ∧
      ∀ withFacets, (d.toShared withFacets).Legible →
        (d.OpensAs (d.sharedText withFacets) ↔ (d.toShared withFacets).depth ≤ Json.maxDepth) := by
  have hquery := Document.reread_query hread
  have hshared : ∀ withFacets, Document.ofJson (d.toShared withFacets) =
      .ok { d with facets := if withFacets then d.facets else [] } := fun withFacets => by
    rw [Document.ofJson_toShared, hquery]
  have hlinks : ∀ withFacets, d.RecoversFrom (d.toShared withFacets) := fun withFacets =>
    Document.recoversFrom_of_read hquery (hshared withFacets)
  have hvalues : ∀ w ∈ [v, d.toShared true, d.toShared false], d.RecoversFrom w := by
    intro w hw
    rcases List.mem_cons.1 hw with rfl | hw
    · exact Document.recoversFrom_of_read hquery hread
    rcases List.mem_cons.1 hw with rfl | hw
    · exact hlinks true
    · rw [List.mem_singleton.1 hw]
      exact hlinks false
  exact ⟨hshared true, hshared false, fun w hw => ⟨hvalues w hw, fun _ => (hvalues w hw).opensAs⟩,
    fun hv => (Document.legible_of_read hread hv).toShared,
    fun withFacets => Document.opensAs_sharedText_iff (hlinks withFacets)⟩

/-- A document in a lenient spelling is read from its own text, and from the link that carries it without its facet
requests. -/
theorem year_document_reads_back :
    let es : Entries Json := [("query", .keyed "term" (.keyed "size" (.str "S"))), ("from", .str " 20 "),
      ("sort", .str "year"), ("facets", .keyed "size" .null)]
    let d := Document.ofEntries es
    let text := "\x7b\"query\":\x7b\"term\":\x7b\"size\":\"S\"\x7d\x7d,\"from\":\" 20 \",\"sort\":\"year\"," ++
      "\"facets\":\x7b\"size\":null\x7d\x7d"
    let link := "?source=\x7b\"query\":\x7b\"term\":\x7b\"size\":\"S\"\x7d\x7d,\"from\":20,\"sort\":[\"year\"]\x7d"
    let cmds : List Command := [.addSelection "size" (.ofText "S") (some .and), .setSort [⟨"year", .asc⟩], .setPage 20]
    Document.ofJson (.obj es) = .ok d ∧ Document.ofJson d.toJson = .ok d ∧
      Document.ofJson (d.toShared false) = .ok { d with facets := [] } ∧
      (∃ e, documentOf text = .ok e ∧ ({} : Config).recoverJson e.toJson = cmds) ∧
      ∃ e, documentOf link = .ok e ∧ ({} : Config).recoverJson e.toJson = cmds := by
  intro es d text link cmds
  have hread : Document.ofJson (.obj es) = .ok d := rfl
  have hcmds : ({} : Config).recover d = cmds := by decide +kernel
  have hlegible : (Json.obj es).Legible := by simp [es, Entries.names]
  obtain ⟨hfull, hbase, hvalues, hshared, hlinks⟩ := document_reads_back hread
  have hparse : Json.parse text = some (.obj es) := by
    have hcompact : (Json.obj es).compact = text := by decide +kernel
    rw [← hcompact, Json.parse_compact hlegible, if_pos (by decide)]
  have hopens := (hlinks false (hshared hlegible false)).2 (by decide)
  have htext : sourceOf text = .ok text := eq_ok_of_toOption (by decide +kernel)
  have hlink : sourceOf link = .ok (d.sharedText false) := eq_ok_of_toOption (by decide +kernel)
  rw [← hcmds]
  exact ⟨hread, hfull, hbase, (hvalues _ (List.mem_cons_self ..)).2 text hparse {} _ htext, hopens {} _ hlink⟩

/-! ### A document that is nested too deep -/

/-- A term under a number of `bool` clauses, each with a single clause in its arm. -/
def nestedMust : Nat → Json
  | 0 => .keyed "term" (.keyed "size" (.str "S"))
  | n + 1 => .keyed "bool" (.keyed "must" (nestedMust n))

theorem legible_nestedMust (n : Nat) : (nestedMust n).Legible := by
  induction n with
  | zero => simp [nestedMust]
  | succ n ih => simpa [nestedMust] using ih

theorem depth_nestedMust (n : Nat) : (nestedMust n).depth = 2 * n + 2 := by
  induction n with
  | zero => rfl
  | succ n ih =>
    simp only [nestedMust, Json.keyed, Json.depth, Json.depthEntries, ih]
    omega

theorem ofJson_nestedMust (n : Nat) : Clause.ofJson (nestedMust (n + 1)) = .must [Clause.ofJson (nestedMust n)] := by
  have harm : Clause.readArm (nestedMust n) = [Clause.ofJson (nestedMust n)] := by cases n <;> rfl
  rw [nestedMust, Json.keyed, Clause.ofJson, Json.keyed, Clause.readBody]
  simp [Clause.onlyArms, Clause.armAt_eq, Entries.get?_cons, Entries.get?_nil, harm, Clause.must]

/-- Each arm is written as an array, which is one level more. -/
theorem depth_written_nestedMust (n : Nat) : (Clause.ofJson (nestedMust n)).toJson.depth = 3 * n + 2 := by
  induction n with
  | zero => rfl
  | succ n ih =>
    simp only [ofJson_nestedMust, Clause.must, Clause.toJson, Clause.toJsonList, Clause.armEntry, Json.keyed,
      List.append_nil, Json.depth, Json.depthEntries, Json.depthItems, ih]
    omega

/-- A term under 42 `bool` clauses is read from its text as a document that selects the term, but the text of the
document's own link is refused. -/
theorem deep_document_refused :
    let v : Json := .obj [("query", nestedMust 42)]
    let d : Document := { query := Clause.ofJson (nestedMust 42) }
    Json.parse v.compact = some v ∧ Document.ofJson v = .ok d ∧
      ({} : Config).recover d = [.addSelection "size" (.ofText "S") (some .and)] ∧
      documentOf (d.sharedText false) = .error (.source .invalidJson) ∧ ¬d.OpensAs (d.sharedText false) := by
  intro v d
  have hread : Document.ofJson v = .ok d := rfl
  have hlegible : v.Legible := Json.legible_keyed_iff.2 (legible_nestedMust 42)
  have hdepth : v.depth = 87 := by
    simp only [v, Json.depth, Json.depthEntries, depth_nestedMust]
    rfl
  have hshared : (d.toShared false).Legible := (Document.legible_of_read hread hlegible).toShared false
  have hdeep : (d.toShared false).depth = 129 := by
    show Json.depth (.obj [("query", (Clause.ofJson (nestedMust 42)).toJson)]) = _
    simp only [Json.depth, Json.depthEntries, depth_written_nestedMust]
    rfl
  have hparse : Json.parse (d.sharedText false) = none := by
    rw [Document.sharedText, Json.parse_compact hshared, hdeep]
    rfl
  have hcmds : ({} : Config).recover d = [.addSelection "size" (.ofText "S") (some .and)] := by decide +kernel
  exact ⟨by rw [Json.parse_compact hlegible, hdepth]; rfl, hread, hcmds, Document.refused_of_parse_eq_none hparse⟩

end FacetedSearch
