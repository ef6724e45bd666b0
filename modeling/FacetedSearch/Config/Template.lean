/-!
# Template of a settings file

An example of every setting, in which all settings are commented out.
-/

namespace FacetedSearch

/-- The lines of an example settings file. -/
def exampleLines : List String :=
  ["# facet configuration.",
   "#",
   "# facet looks for .facet.toml in the current directory and every parent,",
   "# then in your home directory. Closer files take precedence. Set",
   "# `root = true` to stop the search at this file.",
   "",
   "# Field prefixes that hold nested sub-documents. Selections on keys under",
   "# a prefix are grouped into a single nested query.",
   "nested = [\"stats\"]",
   "",
   "[backend]",
   "# Search endpoint. GET sends the query as ?source=<json>, POST as the body.",
   "url = \"http://localhost:9200/records/_search\"",
   "method = \"get\"",
   "timeout_secs = 30",
   "",
   "[search]",
   "# Operator joining free-text terms: AND or OR.",
   "default_operator = \"OR\"",
   "# Decorate free-text terms: \"none\", \"*\" (wildcards) or \"~\" (fuzzy).",
   "fuzzify = \"none\"",
   "# Quiet period before typing triggers a search.",
   "submit_delay_ms = 500",
   "# Count records without a value as \"undefined\".",
   "add_undefined = false",
   "# Hide zero-count values of AND-mode facets.",
   "prune_zero_counts = true",
   "# Carry facet requests in share links.",
   "include_facets_in_share_link = false",
   "",
   "[paging]",
   "from = 0",
   "size = 10",
   "",
   "[results]",
   "fields = [\"title\", \"author.name\", \"year\"]",
   "sort_options = [",
   "    \x7b field = \"year\", display = \"Year\" \x7d,",
   "    \x7b field = \"title.exact\", display = \"Title\" \x7d,",
   "]",
   "",
   "[[facet]]",
   "field = \"subject\"",
   "display = \"Subject\"",
   "order = \"term\"",
   "size = 20",
   "min_size = 5",
   "",
   "[[facet]]",
   "field = \"year\"",
   "display = \"Year\"",
   "order = \"reverse_term\"",
   "operator = \"OR\"",
   "",
   "[[facet]]",
   "field = \"stats.source\"",
   "display = \"Source\"",
   "order = \"count\"",
   "",
   "# Clauses added to every search. Prefix a name with a nested prefix",
   "# (e.g. \"stats.public\") to apply it inside that nested query.",
   "[predefined_filters]",
   "type = \x7b term = \x7b type = \"article\" \x7d \x7d",
   "",
   "# Group facet values into a tree. Empty lists mark leaves.",
   "[hierarchy.subject]",
   "Science = \x7b Physics = [], Chemistry = [] \x7d",
   "Humanities = [\"History\", \"Philosophy\"]",
   "",
   "# Additional aggregation requests sent with every search.",
   "[extra_facets]",
   "decades = \x7b histogram = \x7b field = \"year\", interval = 10 \x7d \x7d"]

/-- Comments a line out; blank lines and comments stay as they are. -/
def commentOut (line : String) : String :=
  match line.toList with
  | [] => line
  | '#' :: _ => line
  | _ => "# " ++ line

/-- The example settings file with all settings commented out. -/
def settingsTemplate : String :=
  String.join (exampleLines.map fun l => commentOut l ++ "\n")

end FacetedSearch
