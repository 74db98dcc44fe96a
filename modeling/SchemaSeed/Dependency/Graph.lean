import SchemaSeed.Assoc
import SchemaSeed.Dependency.Basic

/-!
# The dependency graph

Nodes are tables, and an edge leads from a table to each table that refers to it, once for
each reference. The graph is two association lists over the same tables in the same
order: `dependents` holds the edges, and `indegree` counts how many of them arrive.
-/

namespace SchemaSeed

structure DependencyGraph where
  dependents : List (String × List String)
  indegree : List (String × Nat)
  deriving Repr

namespace DependencyGraph

def empty : DependencyGraph := ⟨[], []⟩

/-- Adds a table without edges, unless it is there. It then keeps its place, so that the tables
stand in the order of their discovery. -/
def addNode (g : DependencyGraph) (name : String) : DependencyGraph :=
  if Assoc.contains g.indegree name then g
  else ⟨Assoc.insert g.dependents name [], Assoc.insert g.indegree name 0⟩

/-- Adds the table of a fact, and then the tables that it refers to, which need not be declared
themselves. -/
def addNodes (g : DependencyGraph) (fact : TableDependency) : DependencyGraph :=
  fact.dependencies.foldl addNode (g.addNode fact.name)

/-- Adds an edge to `table` from the table that it refers to. An edge that is there already is
added, and counted, once more. -/
def addEdge (table : String) (g : DependencyGraph) (referenced : String) : DependencyGraph :=
  ⟨Assoc.insert g.dependents referenced
      ((Assoc.find? g.dependents referenced).getD [] ++ [table]),
    Assoc.insert g.indegree table ((Assoc.find? g.indegree table).getD 0 + 1)⟩

def addEdges (g : DependencyGraph) (fact : TableDependency) : DependencyGraph :=
  fact.dependencies.foldl (addEdge fact.name) g

/-- The graph of a list of facts: first all tables, in the order in which they are
discovered, and then all edges. -/
def build (facts : List TableDependency) : DependencyGraph :=
  facts.foldl addEdges (facts.foldl addNodes empty)

def nodeCount (g : DependencyGraph) : Nat := g.indegree.length

def edgeCount (g : DependencyGraph) : Nat := (g.dependents.flatMap (·.2)).length

end DependencyGraph

end SchemaSeed
