import FacetedSearch.Config.Merge
import FacetedSearch.Config.Settings
import FacetedSearch.Proofs.Toml.Document

/-!
# Effective settings that are loaded again

The effective settings are printed as a settings file with three sections.  Loaded as the only file, it gives the same
backend, search and paging settings: every setting is printed, or is missing just when the default is that it is
missing, and each is read under the name under which it was printed.

* `settingsText_eq`: the sections of the printed settings.
* `ofEntries_settings`: what is read from the sections.
* `load_settingsText`: what is loaded from the printed settings.
-/

namespace FacetedSearch

open Toml

namespace Config

/-- The numbers among the settings are of 64 bits. -/
structure Words (c : Config) : Prop where
  timeout : c.backend.timeout < wordLimit
  delay : c.search.delay < wordLimit
  offset : c.paging.offset < wordLimit
  size : c.paging.size < wordLimit

/-! ### The sections -/

/-- A string setting. -/
def stringEntry (key text : String) : WrittenEntry := ⟨key, quote text, .str text⟩

/-- A number among the settings. -/
def numberEntry (key : String) (n : Nat) : WrittenEntry := ⟨key, toString n, .int n⟩

/-- A truth value among the settings. -/
def flagEntry (key : String) (b : Bool) : WrittenEntry := ⟨key, boolText b, .bool b⟩

theorem sound_stringEntry {key : String} (h : IsBare key) (text : String) : (stringEntry key text).Sound :=
  ⟨h, reads_quote text⟩

theorem sound_numberEntry {key : String} (h : IsBare key) {n : Nat} (hn : n < wordLimit) : (numberEntry key n).Sound :=
  ⟨h, reads_toString hn⟩

theorem sound_flagEntry {key : String} (h : IsBare key) (b : Bool) : (flagEntry key b).Sound :=
  ⟨h, reads_boolText b⟩

/-- The printed backend settings; a missing address is not printed. -/
def backendSection (b : BackendSettings) : WrittenSection where
  name := "backend"
  entries := (b.url.map (stringEntry "url")).toList ++
    [stringEntry "method" b.method.name, numberEntry "timeout_secs" b.timeout]

/-- The printed search settings. -/
def searchSection (s : SearchSettings) : WrittenSection where
  name := "search"
  entries := [
    stringEntry "default_operator" s.operator.name,
    stringEntry "fuzzify" s.fuzziness.name,
    numberEntry "submit_delay_ms" s.delay,
    flagEntry "add_undefined" s.addUndefined,
    flagEntry "prune_zero_counts" s.pruneZero,
    flagEntry "include_facets_in_share_link" s.shareFacets]

/-- The printed page. -/
def pagingSection (p : Page) : WrittenSection where
  name := "paging"
  entries := [numberEntry "from" p.offset, numberEntry "size" p.size]

/-- All printed settings. -/
def settingsSections (c : Config) : List WrittenSection :=
  [backendSection c.backend, searchSection c.search, pagingSection c.paging]

theorem settingsText_eq (c : Config) : c.settingsText = documentText (settingsSections c) := by
  have hbackend : backendText c.backend = (backendSection c.backend).text := by
    cases hurl : c.backend.url <;>
      simp [backendText, backendSection, WrittenSection.text, stringEntry, numberEntry, hurl, String.append_assoc]
  have hsearch : searchText c.search = (searchSection c.search).text := by
    simp [searchText, searchSection, WrittenSection.text, stringEntry, numberEntry, flagEntry, String.append_assoc]
  have hpaging : pagingText c.paging = (pagingSection c.paging).text := by
    simp [pagingText, pagingSection, WrittenSection.text, numberEntry, String.append_assoc]
  simp only [settingsText, settingsSections, documentText, hbackend, hsearch, hpaging, String.append_assoc]

theorem sound_backendSection {b : BackendSettings} (h : b.timeout < wordLimit) : (backendSection b).Sound where
  bare := (by decide : IsBare "backend")
  entries := by
    have hurl : ∀ e ∈ (b.url.map (stringEntry "url")).toList, e.Sound := by
      intro e he
      obtain ⟨u, -, rfl⟩ := Option.map_eq_some_iff.1 (Option.mem_toList.1 he)
      exact sound_stringEntry (by decide) u
    simp only [backendSection, List.forall_mem_append, List.forall_mem_cons]
    exact ⟨hurl, sound_stringEntry (by decide) _, sound_numberEntry (by decide) h, nofun⟩
  nodup := by cases hurl : b.url <;> simp [backendSection, hurl, stringEntry, numberEntry]

theorem sound_searchSection {s : SearchSettings} (h : s.delay < wordLimit) : (searchSection s).Sound where
  bare := (by decide : IsBare "search")
  entries := by
    simp only [searchSection, List.forall_mem_cons]
    exact ⟨sound_stringEntry (by decide) _, sound_stringEntry (by decide) _, sound_numberEntry (by decide) h,
      sound_flagEntry (by decide) _, sound_flagEntry (by decide) _, sound_flagEntry (by decide) _, nofun⟩
  nodup := by simp [searchSection, stringEntry, numberEntry, flagEntry]

theorem sound_pagingSection {p : Page} (hoffset : p.offset < wordLimit) (hsize : p.size < wordLimit) :
    (pagingSection p).Sound where
  bare := (by decide : IsBare "paging")
  entries := by
    simp only [pagingSection, List.forall_mem_cons]
    exact ⟨sound_numberEntry (by decide) hoffset, sound_numberEntry (by decide) hsize, nofun⟩
  nodup := by simp [pagingSection, numberEntry]

/-! ### What is read -/

theorem optional?_word {n : Nat} (hn : n < wordLimit) : optional? Toml.word? (some (.int n)) = some (some n) := by
  have hrange : (0 : Int) ≤ n ∧ (n : Int) < wordLimit := by omega
  rw [optional?, Toml.word?, if_pos hrange]
  rfl

theorem optional?_choice {α : Type} {read : String → Option α} {name : String} {a : α} (h : read name = some a) :
    optional? (fun v => v.choice?.bind read) (some (.str name)) = some (some a) := by
  show ((some name).bind read).map some = _
  rw [Option.bind_some, h]
  rfl

section

variable {es : Entries Toml}

theorem readBackend_table {url : Option String} {method : Option Method} {timeout : Option Nat}
    (hurl : optional? str? (es.get? "url") = some url)
    (hmethod : optional? (fun v => v.choice?.bind Method.ofName?) (es.get? "method") = some method)
    (htimeout : optional? Toml.word? (es.get? "timeout_secs") = some timeout) :
    Layer.readBackend (.table es) = some ⟨url, method, timeout⟩ := by
  simp only [Layer.readBackend, section?, Option.bind_eq_bind, Option.bind_some, hurl, hmethod, htimeout]
  rfl

/-- The delay is read under its newer name if the older one is not used. -/
theorem readDelay_table {delay : Option Nat} (hdelay : optional? Toml.word? (es.get? "submit_delay_ms") = some delay)
    (hold : es.get? "freetext_submit_delay" = none) : Layer.readDelay (fun name _ => es.get? name) = some delay := by
  rw [Layer.readDelay, hold]
  cases hkey : es.get? "submit_delay_ms" with
  | none => rwa [hkey] at hdelay
  | some v => rwa [hkey] at hdelay

theorem readSearch_table {operator : Option Logic} {fuzziness : Option Fuzziness} {delay : Option Nat}
    {addUndefined pruneZero shareFacets : Option Bool}
    (hoperator : optional? (fun v => v.choice?.bind Logic.ofName?) (es.get? "default_operator") = some operator)
    (hfuzziness : optional? (fun v => v.choice?.bind Fuzziness.ofName?) (es.get? "fuzzify") = some fuzziness)
    (hdelay : optional? Toml.word? (es.get? "submit_delay_ms") = some delay)
    (hold : es.get? "freetext_submit_delay" = none)
    (hundefined : optional? bool? (es.get? "add_undefined") = some addUndefined)
    (hprune : optional? bool? (es.get? "prune_zero_counts") = some pruneZero)
    (hshare : optional? bool? (es.get? "include_facets_in_share_link") = some shareFacets) :
    Layer.readSearch (.table es) = some ⟨operator, fuzziness, delay, addUndefined, pruneZero, shareFacets⟩ := by
  simp only [Layer.readSearch, section?, Option.bind_eq_bind, Option.bind_some, hoperator, hfuzziness,
    readDelay_table hdelay hold, hundefined, hprune, hshare]
  rfl

theorem readPaging_table {offset size : Option Nat} (hoffset : optional? Toml.word? (es.get? "from") = some offset)
    (hsize : optional? Toml.word? (es.get? "size") = some size) :
    Layer.readPaging (.table es) = some ⟨offset, size⟩ := by
  simp only [Layer.readPaging, section?, Option.bind_eq_bind, Option.bind_some, hoffset, hsize]
  rfl

end

theorem readBackend_section {b : BackendSettings} (h : b.timeout < wordLimit) :
    Layer.readBackend (backendSection b).table.2 = some ⟨b.url, some b.method, some b.timeout⟩ := by
  have hmethod := optional?_choice (Method.ofName?_name b.method)
  have htimeout := optional?_word h
  cases hurl : b.url <;> rw [backendSection, hurl] <;> exact readBackend_table rfl hmethod htimeout

theorem readSearch_section {s : SearchSettings} (h : s.delay < wordLimit) :
    Layer.readSearch (searchSection s).table.2 =
      some ⟨some s.operator, some s.fuzziness, some s.delay, some s.addUndefined, some s.pruneZero,
        some s.shareFacets⟩ :=
  readSearch_table (optional?_choice (Logic.ofName?_name _)) (optional?_choice (Fuzziness.ofName?_name _))
    (optional?_word h) rfl rfl rfl rfl

theorem readPaging_section {p : Page} (hoffset : p.offset < wordLimit) (hsize : p.size < wordLimit) :
    Layer.readPaging (pagingSection p).table.2 = some ⟨some p.offset, some p.size⟩ :=
  readPaging_table (optional?_word hoffset) (optional?_word hsize)

/-- The printed settings are read as a layer that says nothing else. -/
theorem parse_settingsText {c : Config} (h : c.Words) :
    Layer.parse c.settingsText = some {
      backend := ⟨c.backend.url, some c.backend.method, some c.backend.timeout⟩
      search := ⟨some c.search.operator, some c.search.fuzziness, some c.search.delay, some c.search.addUndefined,
        some c.search.pruneZero, some c.search.shareFacets⟩
      paging := ⟨some c.paging.offset, some c.paging.size⟩ } := by
  have hsound : ∀ sec ∈ settingsSections c, sec.Sound := by
    simp only [settingsSections, List.forall_mem_cons]
    exact ⟨sound_backendSection h.timeout, sound_searchSection h.delay, sound_pagingSection h.offset h.size, nofun⟩
  have hnodup : ((settingsSections c).map (·.name)).Nodup := by
    simp [settingsSections, backendSection, searchSection, pagingSection]
  rw [Layer.parse, settingsText_eq, parse_documentText hsound hnodup]
  have hbackend : Entries.get? ((settingsSections c).map (·.table)) "backend" =
      some (backendSection c.backend).table.2 := rfl
  have hsearch : Entries.get? ((settingsSections c).map (·.table)) "search" =
      some (searchSection c.search).table.2 := rfl
  have hpaging : Entries.get? ((settingsSections c).map (·.table)) "paging" =
      some (pagingSection c.paging).table.2 := rfl
  have hother : ∀ name ∉ ["backend", "search", "paging"],
      Entries.get? ((settingsSections c).map (·.table)) name = none := fun _ hname =>
    Entries.get?_eq_none_iff.2 hname
  simp only [Layer.ofEntries, Option.bind_eq_bind, Option.bind_some, hbackend, hsearch, hpaging, optional?,
    readBackend_section h.timeout, readSearch_section h.delay, readPaging_section h.offset h.size, Option.map_some,
    hother "root" (by decide), hother "nested" (by decide), hother "results" (by decide), hother "facet" (by decide),
    hother "predefined_filters" (by decide), hother "hierarchy" (by decide), hother "extra_facets" (by decide)]
  rfl

/-- Printed settings load as they are, with nothing but these settings. -/
theorem load_settingsText {c : Config} (h : c.Words) :
    Config.ofText c.settingsText = .ok { backend := c.backend, search := c.search, paging := c.paging } := by
  have hurl : c.backend.url.or none = c.backend.url := Option.or_none ..
  rw [Config.ofText, readSource, parse_settingsText h]
  show Except.ok ({
    backend := ⟨c.backend.url.or none, c.backend.method, c.backend.timeout⟩
    search := c.search
    paging := c.paging } : Config) = _
  rw [hurl]

/-- An address that holds quotes of both kinds, a backslash and a line end is printed on two lines with escapes; the
time that is waited is the largest number of 64 bits. -/
theorem load_escaped_settings :
    let c : Config := {
      backend := ⟨some "a'''\"\"\"\\\n", .post, 18446744073709551615⟩
      search := ⟨.and, .approximate, 0, true, false, true⟩
      paging := ⟨20, 5⟩
      facets := [{ field := "size" }] }
    c.Words ∧ quote "a'''\"\"\"\\\n" = "\"\"\"\na'''\"\"\\\"\\\\\n\"\"\"" ∧
      Config.ofText c.settingsText = .ok { backend := c.backend, search := c.search, paging := c.paging } := by
  intro c
  have hwords : c.Words := ⟨by decide, by decide, by decide, by decide⟩
  exact ⟨hwords, by decide, load_settingsText hwords⟩

end Config

end FacetedSearch
