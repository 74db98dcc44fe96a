import SchemaSeed.Dependency.Graph
import SchemaSeed.Proofs.Assoc
import SchemaSeed.Proofs.Dependency.Facts

/-!
# The graph of a list of facts

`build` puts all tables into the graph and then all edges. Both of its lists have the tables
of the facts for keys, in the order of their discovery (`hasNodes_build`), the edges that leave
a table lead to its dependents (`dependents_build`), and as many arrive at a table as it has
references (`indegree_build`).
-/

namespace SchemaSeed.DependencyGraph

open Facts

/-! ## Nodes -/

/-- Both lists have the given tables for keys, in this order. That they agree is the invariant under
which the two lookups of an edge find something. -/
structure HasNodes (g : DependencyGraph) (names : List String) : Prop where
  dependents : Assoc.keys g.dependents = names
  indegree : Assoc.keys g.indegree = names

/-- One list is asked whether the table is there, and both of them take it in. So they stay in step,
because they were before. -/
theorem HasNodes.addNode {g : DependencyGraph} {names : List String} (h : g.HasNodes names)
    (name : String) :
    (g.addNode name).HasNodes (if name ∈ names then names else names ++ [name]) := by
  have hcontains : Assoc.contains g.indegree name ↔ name ∈ names := by
    rw [← h.indegree]
    exact Assoc.isSome_find? g.indegree name
  unfold DependencyGraph.addNode
  by_cases hmem : name ∈ names
  · rw [if_pos (hcontains.2 hmem), if_pos hmem]
    exact h
  · rw [if_neg (mt hcontains.1 hmem), if_neg hmem]
    refine ⟨?_, ?_⟩
    · rw [Assoc.keys_insert_of_notMem (h.dependents.symm ▸ hmem), h.dependents]
    · rw [Assoc.keys_insert_of_notMem (h.indegree.symm ▸ hmem), h.indegree]

/-- A node that is added refers to nothing yet, and those that are there keep their counts. -/
theorem find?_indegree_addNode {g : DependencyGraph} (name : String) {table : String}
    (h : table ∈ Assoc.keys g.indegree → Assoc.find? g.indegree table = some 0)
    (hmem : table ∈ Assoc.keys (g.addNode name).indegree) :
    Assoc.find? (g.addNode name).indegree table = some 0 := by
  unfold addNode at hmem ⊢
  split
  · next hc =>
    rw [if_pos hc] at hmem
    exact h hmem
  · next hc =>
    rw [if_neg hc] at hmem
    simp only [Assoc.find?_insert]
    split
    · rfl
    · next hne =>
      rcases (Assoc.mem_keys_insert _ _ _ _).1 hmem with hold | rfl
      · exact h hold
      · simp at hne

theorem find?_dependents_addNode {g : DependencyGraph} (name : String) {table : String}
    (h : (Assoc.find? g.dependents table).getD [] = []) :
    (Assoc.find? (g.addNode name).dependents table).getD [] = [] := by
  unfold addNode
  split
  · exact h
  · simp only [Assoc.find?_insert]
    split
    · rfl
    · exact h

/-- A graph with the given nodes and without edges: what the first of the two loops over the facts
makes. -/
def ofNodes (names : List String) : DependencyGraph := names.foldl addNode empty

theorem ofNodes_concat (names : List String) (name : String) :
    ofNodes (names ++ [name]) = (ofNodes names).addNode name := by
  simp [ofNodes]

/-- By induction from the end: each name becomes a node where it comes first. -/
theorem hasNodes_ofNodes (names : List String) :
    (ofNodes names).HasNodes names.eraseDups := by
  induction names using List.reverseRecOn with
  | nil => exact ⟨rfl, rfl⟩
  | append_singleton names name ih =>
    have hnext := ih.addNode name
    rw [ofNodes_concat, List.eraseDups_append]
    by_cases h : name ∈ names <;> simpa [h, List.removeAll, List.eraseDups_cons] using hnext

/-- Before there are edges, every count is zero, and no table has dependents. -/
theorem find?_indegree_ofNodes (names : List String) {table : String}
    (h : table ∈ Assoc.keys (ofNodes names).indegree) :
    Assoc.find? (ofNodes names).indegree table = some 0 := by
  induction names using List.reverseRecOn with
  | nil => simp [ofNodes, empty, Assoc.keys] at h
  | append_singleton names name ih =>
    rw [ofNodes_concat] at h ⊢
    exact find?_indegree_addNode name ih h

theorem find?_dependents_ofNodes (names : List String) (table : String) :
    (Assoc.find? (ofNodes names).dependents table).getD [] = [] := by
  induction names using List.reverseRecOn with
  | nil => rfl
  | append_singleton names name ih =>
    rw [ofNodes_concat]
    exact find?_dependents_addNode name ih

/-! ## Edges -/

/-- A graph with more edges, each given as a table and the table that it refers to: what the second
loop makes. -/
def withEdges (g : DependencyGraph) (new : List (String × String)) : DependencyGraph :=
  new.foldl (fun g edge => addEdge edge.1 g edge.2) g

theorem withEdges_concat (g : DependencyGraph) (new : List (String × String))
    (edge : String × String) :
    g.withEdges (new ++ [edge]) = addEdge edge.1 (g.withEdges new) edge.2 := by
  simp [withEdges]

/-- An edge between nodes of the graph adds no node, because both of its lookups find a key that is
there. -/
theorem HasNodes.addEdge {g : DependencyGraph} {names : List String} (h : g.HasNodes names)
    {table referenced : String} (htable : table ∈ names) (hreferenced : referenced ∈ names) :
    (addEdge table g referenced).HasNodes names := by
  refine ⟨?_, ?_⟩
  · exact (Assoc.keys_insert_of_mem (h.dependents.symm ▸ hreferenced)).trans h.dependents
  · exact (Assoc.keys_insert_of_mem (h.indegree.symm ▸ htable)).trans h.indegree

theorem HasNodes.withEdges {g : DependencyGraph} {names : List String} (h : g.HasNodes names)
    {new : List (String × String)} (hnew : ∀ edge ∈ new, edge.1 ∈ names ∧ edge.2 ∈ names) :
    (g.withEdges new).HasNodes names := by
  induction new using List.reverseRecOn with
  | nil => exact h
  | append_singleton new edge ih =>
    have hinit := ih fun e he => hnew e (List.mem_append_left _ he)
    obtain ⟨htable, hreferenced⟩ := hnew edge (by simp)
    rw [withEdges_concat]
    exact hinit.addEdge htable hreferenced

/-- The count of a table grows by one for each edge from it. By induction from the end, with a
repeated edge counted again. -/
theorem indegree_withEdges (g : DependencyGraph) (new : List (String × String))
    (table : String) :
    (Assoc.find? (g.withEdges new).indegree table).getD 0 =
      (Assoc.find? g.indegree table).getD 0 +
        (new.filter fun edge => edge.1 == table).length := by
  induction new using List.reverseRecOn with
  | nil => rfl
  | append_singleton new edge ih =>
    rw [withEdges_concat]
    simp only [addEdge, Assoc.find?_insert, List.filter_append, List.length_append]
    by_cases h : edge.1 = table
    · simp [h, ih, Nat.add_assoc]
    · simp [h, ih]

/-- The dependents of a table are appended in the order of the edges to it, with repetitions. -/
theorem dependents_withEdges (g : DependencyGraph) (new : List (String × String))
    (table : String) :
    (Assoc.find? (g.withEdges new).dependents table).getD [] =
      (Assoc.find? g.dependents table).getD [] ++
        (new.filter fun edge => edge.2 == table).map (·.1) := by
  induction new using List.reverseRecOn with
  | nil => simp [withEdges]
  | append_singleton new edge ih =>
    rw [withEdges_concat]
    simp only [addEdge, Assoc.find?_insert, List.filter_append, List.map_append]
    by_cases h : edge.2 = table
    · simp [h, ih]
    · simp [h, ih]

/-! ## The whole graph -/

/-- First all names, and then all references, each in reading order. What is said of nodes and of
edges can then be proved apart from the facts. -/
theorem build_eq (facts : List TableDependency) :
    build facts = (ofNodes (mentions facts)).withEdges (edges facts) := by
  have hnodes : facts.foldl addNodes empty = ofNodes (mentions facts) := by
    rw [ofNodes, mentions, List.foldl_flatMap]
    rfl
  have hedges : ∀ g : DependencyGraph, facts.foldl addEdges g = g.withEdges (edges facts) := by
    intro g
    rw [withEdges, edges, List.foldl_flatMap]
    simp only [List.foldl_map]
    rfl
  rw [build, hnodes, hedges]

variable (facts : List TableDependency)

theorem hasNodes_build : (build facts).HasNodes (tables facts) := by
  rw [build_eq]
  apply (hasNodes_ofNodes (mentions facts)).withEdges
  intro edge hedge
  exact mem_tables_of_refers (mem_edges.1 hedge)

/-- The tables of the facts, each once, in the order of their discovery. -/
theorem keys_build : Assoc.keys (build facts).indegree = tables facts :=
  (hasNodes_build facts).indegree

theorem dependents_build (table : String) :
    (Assoc.find? (build facts).dependents table).getD [] =
      Facts.dependents facts table := by
  rw [build_eq, dependents_withEdges, find?_dependents_ofNodes, List.nil_append,
    Facts.dependents]

/-- The count of a table is the number of its references, over all facts about it. -/
theorem indegree_build {table : String} (h : table ∈ tables facts) :
    Assoc.find? (build facts).indegree table = some (references facts table).length := by
  obtain ⟨n, hn⟩ := Assoc.exists_find?_of_mem_keys (keys_build facts ▸ h)
  -- Before the edges are added the count is zero, and then each of them counts once.
  have hcount := indegree_withEdges (ofNodes (mentions facts)) (edges facts) table
  have hzero : Assoc.find? (ofNodes (mentions facts)).indegree table = some 0 := by
    apply find?_indegree_ofNodes
    rw [(hasNodes_ofNodes (mentions facts)).indegree]
    exact h
  rw [← build_eq, hn, hzero] at hcount
  rw [hn, references, List.length_map]
  simpa using hcount

end SchemaSeed.DependencyGraph
