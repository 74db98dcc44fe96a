import Mathlib.Algebra.BigOperators.Ring.Finset
import SchemaSeed.Proofs.Dependency.Graph

/-!
# What the graph of a list of facts holds

The graph is kept in two lists that two passes fill by different ways, and the ordering
relies on both of them to agree. `Represents` says what they hold of the facts: the same
tables in the same order, how many references each table has, and from which tables each
one is referred to. All ways to count the references come to the same number
(`build_represents_facts`).
-/

namespace SchemaSeed

open Facts DependencyGraph

variable {facts : List TableDependency} {table : String}

/-! ## References, counted -/

namespace Facts

def referenceCount (facts : List TableDependency) (table : String) : Nat :=
  ((facts.filter fun fact => fact.name == table).map (·.dependencies.length)).sum

/-- Counted fact by fact, or edge by edge: by induction on the facts. -/
theorem length_references (facts : List TableDependency) (table : String) :
    (references facts table).length = referenceCount facts table := by
  rw [references, List.length_map, referenceCount, edges]
  induction facts with
  | nil => rfl
  | cons fact rest ih =>
    rw [List.flatMap_cons, List.filter_append, List.length_append, ih, List.filter_map,
      List.length_map]
    by_cases h : fact.name = table <;> simp [h, Function.comp_def]

theorem length_edges (facts : List TableDependency) :
    (edges facts).length = (facts.map (·.dependencies.length)).sum := by
  simp [edges, List.length_flatMap]

/-- Of edges that end at some of the given tables, those that end at each of them add up to all. The
end may be either `side` of an edge, so that one lemma serves for both. -/
theorem sum_length_filter {names : List String} (hnames : names.Nodup)
    {es : List (String × String)} {side : String × String → String}
    (h : ∀ edge ∈ es, side edge ∈ names) :
    (names.map fun name => (es.filter fun edge => side edge == name).length).sum =
      es.length := by
  have hcount : ∀ name, (es.filter fun edge => side edge == name).length =
      (es.map side).count name := by
    intro name
    rw [List.count, List.countP_map, List.countP_eq_length_filter]
    rfl
  have hmem : ∀ name ∈ (es.map side : Multiset String), name ∈ names.toFinset := by
    intro name hname
    obtain ⟨edge, hedge, rfl⟩ := List.mem_map.1 (Multiset.mem_coe.1 hname)
    exact List.mem_toFinset.2 (h edge hedge)
  simp only [hcount]
  rw [← List.sum_toFinset _ hnames, ← List.length_map side, ← Multiset.coe_card,
    ← Multiset.sum_count_eq_card hmem]
  simp only [Multiset.coe_count]

/-- Each reference is counted at the table that has it. -/
theorem sum_length_references (facts : List TableDependency) :
    ((tables facts).map fun table => (references facts table).length).sum =
      (edges facts).length := by
  simp only [references, List.length_map]
  apply sum_length_filter (nodup_tables facts)
  intro edge hedge
  exact (mem_tables_of_refers (mem_edges.1 hedge)).1

/-- Each reference is counted at the table that it leads to. -/
theorem sum_length_dependents (facts : List TableDependency) :
    ((tables facts).map fun table => (dependents facts table).length).sum =
      (edges facts).length := by
  simp only [dependents, List.length_map]
  apply sum_length_filter (nodup_tables facts)
  intro edge hedge
  exact (mem_tables_of_refers (mem_edges.1 hedge)).2

/-! ## Tables, in the order of their discovery -/

/-- The names of a list, each once, in the order in which they first come. -/
structure FirstOccurrences (names order : List String) : Prop where
  nodup : order.Nodup
  mem_iff : ∀ name, name ∈ order ↔ name ∈ names
  pairwise : order.Pairwise fun s t => names.idxOf s < names.idxOf t

/-- What is kept of repeated names stands in the order in which they first came. By
induction from the end: a new name comes after all that were there. -/
theorem pairwise_eraseDups (names : List String) :
    names.eraseDups.Pairwise fun s t => names.idxOf s < names.idxOf t := by
  induction names using List.reverseRecOn with
  | nil => exact List.Pairwise.nil
  | append_singleton names name ih =>
    have hold : ∀ s ∈ names, (names ++ [name]).idxOf s = names.idxOf s :=
      fun s hs => List.idxOf_append_of_mem hs
    have hinit : names.eraseDups.Pairwise fun s t =>
        (names ++ [name]).idxOf s < (names ++ [name]).idxOf t := by
      refine ih.imp_of_mem fun {s t} hs ht hlt => ?_
      rwa [hold s (List.mem_eraseDups.1 hs), hold t (List.mem_eraseDups.1 ht)]
    rw [List.eraseDups_append]
    -- A name that came before is dropped; a new one is put behind all others.
    by_cases hname : name ∈ names
    · simpa [hname, List.removeAll] using hinit
    · have hlast : ∀ s ∈ names, (names ++ [name]).idxOf s < (names ++ [name]).idxOf name := by
        intro s hs
        rw [hold s hs, List.idxOf_append_of_notMem hname]
        have := List.idxOf_lt_length_of_mem hs
        omega
      simpa [hname, List.removeAll, List.eraseDups_cons, List.pairwise_append, hinit]
        using hlast

theorem firstOccurrences_tables (facts : List TableDependency) :
    FirstOccurrences (mentions facts) (tables facts) where
  nodup := nodup_tables facts
  mem_iff _ := List.mem_eraseDups
  pairwise := pairwise_eraseDups (mentions facts)

/-- There are as many as there are different names. -/
theorem FirstOccurrences.card_toFinset {names order : List String}
    (h : FirstOccurrences names order) : names.toFinset.card = order.length := by
  have hset : names.toFinset = order.toFinset := by
    ext name
    rw [List.mem_toFinset, List.mem_toFinset, h.mem_iff]
  rw [hset, List.toFinset_card_of_nodup h.nodup]

end Facts

/-! ## The representation -/

namespace DependencyGraph

/-- What a graph holds that was built from the facts: two lists with the same keys in the same
order, the counts in one of them and the dependents in the other. -/
structure Represents (facts : List TableDependency) (g : DependencyGraph) : Prop where
  keys_dependents : Assoc.keys g.dependents = tables facts
  keys_indegree : Assoc.keys g.indegree = tables facts
  indegree : ∀ table ∈ tables facts,
    Assoc.find? g.indegree table = some (referenceCount facts table)
  dependents : ∀ table ∈ tables facts,
    Assoc.find? g.dependents table = some (Facts.dependents facts table)

/-- The parts of what `Graph` says about nodes and edges, put together. -/
theorem represents_build (facts : List TableDependency) : Represents facts (build facts) where
  keys_dependents := (hasNodes_build facts).dependents
  keys_indegree := (hasNodes_build facts).indegree
  indegree table htable := by rw [indegree_build facts htable, length_references]
  dependents table htable := by
    obtain ⟨names, hnames⟩ :=
      Assoc.exists_find?_of_mem_keys ((hasNodes_build facts).dependents ▸ htable)
    rw [← dependents_build, hnames]
    rfl

namespace Represents

variable {g : DependencyGraph} (h : Represents facts g)
include h

/-- The keys and what is found at them are known, and so is the whole list. -/
theorem indegree_eq :
    g.indegree = (tables facts).map fun table => (table, referenceCount facts table) := by
  have hall := Assoc.eq_map_keys (h.keys_indegree ▸ nodup_tables facts) fun table htable =>
    h.indegree table (h.keys_indegree ▸ htable)
  rwa [h.keys_indegree] at hall

theorem dependents_eq :
    g.dependents = (tables facts).map fun table => (table, Facts.dependents facts table) := by
  have hall := Assoc.eq_map_keys (h.keys_dependents ▸ nodup_tables facts) fun table htable =>
    h.dependents table (h.keys_dependents ▸ htable)
  rwa [h.keys_dependents] at hall

/-- Each edge is counted once, at the table that it leaves. -/
theorem sum_indegree : (g.indegree.map (·.2)).sum = (edges facts).length := by
  rw [h.indegree_eq, List.map_map, ← sum_length_references]
  simp only [length_references]
  rfl

/-- Each edge is listed once, at the table where it arrives. -/
theorem sum_dependents : (g.dependents.map (·.2.length)).sum = (edges facts).length := by
  rw [h.dependents_eq, List.map_map, ← sum_length_dependents]
  rfl

theorem edgeCount_eq : g.edgeCount = (edges facts).length := by
  rw [edgeCount, List.length_flatMap]
  exact h.sum_dependents

theorem nodeCount_eq : g.nodeCount = (tables facts).length := by
  rw [nodeCount, ← h.keys_indegree, Assoc.keys, List.length_map]

end Represents

/-- The two lists of the graph agree with the facts and with each other. So there are as many
edges as the facts have references, whether they are counted where they arrive, where they
leave or altogether, and as many nodes as the facts have different names. -/
theorem build_represents_facts (facts : List TableDependency) :
    Represents facts (build facts) ∧
    FirstOccurrences (mentions facts) (tables facts) ∧
    ((build facts).indegree.map (·.2)).sum = (facts.map (·.dependencies.length)).sum ∧
    ((build facts).dependents.map (·.2.length)).sum =
      (facts.map (·.dependencies.length)).sum ∧
    (build facts).edgeCount = (facts.map (·.dependencies.length)).sum ∧
    (build facts).nodeCount = (mentions facts).toFinset.card := by
  have h := represents_build facts
  have hnames := firstOccurrences_tables facts
  rw [← length_edges, hnames.card_toFinset]
  exact ⟨h, hnames, h.sum_indegree, h.sum_dependents, h.edgeCount_eq, h.nodeCount_eq⟩

end DependencyGraph

end SchemaSeed
