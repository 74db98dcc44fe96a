import Mathlib.Data.Fintype.Pigeonhole
import Mathlib.Logic.Relation
import SchemaSeed.Dependency.Basic

/-!
# What a list of facts says

The facts of a schema are read as a multigraph. `edges` lists its edges, one for each
reference, in reading order; `references` and `dependents` are the two ways of looking at
them, and `tables` are the nodes in the order of their discovery. `Refers` forgets how often
a table is referred to, and `Acyclic` says that no chain of references comes back to where
it began.

The graph of the program is compared with these in `Proofs.Dependency.Graph`, and the order
that it yields in `Proofs.Dependency.Order`.
-/

namespace SchemaSeed.Facts

/-- Each reference of the facts in reading order: a table, and the table it refers to. -/
def edges (facts : List TableDependency) : List (String × String) :=
  facts.flatMap fun fact => fact.dependencies.map fun referenced => (fact.name, referenced)

/-- All names of the facts in reading order: of each fact its table, and then the tables that it
refers to. -/
def mentions (facts : List TableDependency) : List String :=
  facts.flatMap fun fact => fact.name :: fact.dependencies

/-- The tables in the order of their discovery, each once. -/
def tables (facts : List TableDependency) : List String := (mentions facts).eraseDups

/-- The tables that `table` refers to, over all facts about it, with repetitions. -/
def references (facts : List TableDependency) (table : String) : List String :=
  ((edges facts).filter fun edge => edge.1 == table).map (·.2)

/-- The tables that refer to `table`, once for each time they do. -/
def dependents (facts : List TableDependency) (table : String) : List String :=
  ((edges facts).filter fun edge => edge.2 == table).map (·.1)

def Refers (facts : List TableDependency) (table referenced : String) : Prop :=
  ∃ fact ∈ facts, fact.name = table ∧ referenced ∈ fact.dependencies

/-- No table is referred to, directly or through others, by itself. -/
def Acyclic (facts : List TableDependency) : Prop :=
  ∀ table, ¬ Relation.TransGen (Refers facts) table table

variable {facts : List TableDependency} {table referenced : String}

/-! ## Edges, seen from both ends -/

/-- An edge is a reference that some fact has; how often it comes does not matter here. -/
theorem mem_edges : (table, referenced) ∈ edges facts ↔ Refers facts table referenced := by
  simp only [edges, Refers, List.mem_flatMap, List.mem_map, Prod.mk.injEq]
  constructor
  · rintro ⟨fact, hfact, r, hr, hname, rfl⟩
    exact ⟨fact, hfact, hname, hr⟩
  · rintro ⟨fact, hfact, hname, hr⟩
    exact ⟨fact, hfact, referenced, hr, hname, rfl⟩

theorem mem_references : referenced ∈ references facts table ↔ Refers facts table referenced := by
  simp [references, ← mem_edges]

theorem mem_dependents : table ∈ dependents facts referenced ↔ Refers facts table referenced := by
  simp [dependents, ← mem_edges]

/-- Seen from the table that refers, and from the one that is referred to, an edge has the same
multiplicity. So what the loop subtracts is what was added. -/
theorem count_dependents (facts : List TableDependency) (table referenced : String) :
    (dependents facts referenced).count table = (references facts table).count referenced := by
  simp only [dependents, references]
  induction edges facts with
  | nil => rfl
  | cons edge rest ih =>
    obtain ⟨c, r⟩ := edge
    by_cases hc : c = table <;> by_cases hr : r = referenced <;>
      simp [hc, hr, ih]

/-! ## Tables -/

/-- By strong induction on the length, since what is left after the first name is filtered and not
just the tail. -/
theorem nodup_eraseDups (names : List String) : names.eraseDups.Nodup := by
  cases names with
  | nil => exact List.nodup_nil
  | cons name rest =>
    rw [List.eraseDups_cons, List.nodup_cons]
    exact ⟨by simp, nodup_eraseDups _⟩
termination_by names.length
decreasing_by exact Nat.lt_succ_of_le (List.length_filter_le _ _)

theorem nodup_tables (facts : List TableDependency) : (tables facts).Nodup :=
  nodup_eraseDups _

/-- The tables of the facts are those that are named in them, on either side of a reference. -/
theorem mem_tables :
    table ∈ tables facts ↔ ∃ fact ∈ facts, table = fact.name ∨ table ∈ fact.dependencies := by
  simp [tables, mentions]

/-- Both ends of an edge are tables, so that every lookup of an edge's end succeeds. -/
theorem mem_tables_of_refers (h : Refers facts table referenced) :
    table ∈ tables facts ∧ referenced ∈ tables facts := by
  obtain ⟨fact, hfact, rfl, hr⟩ := h
  constructor
  · exact mem_tables.2 ⟨fact, hfact, .inl rfl⟩
  · exact mem_tables.2 ⟨fact, hfact, .inr hr⟩

/-! ## Cycles -/

/-- Where every table of a finite collection refers to another one in it, each of them leads
to a table on a cycle. Following references from it, a table must come twice. -/
theorem exists_cycle_of_forall_refers {names : List String}
    (h : ∀ t ∈ names, ∃ r ∈ names, Refers facts t r) (hmem : table ∈ names) :
    ∃ c ∈ names, Relation.ReflTransGen (Refers facts) table c ∧
      Relation.TransGen (Refers facts) c c := by
  -- Follow one reference of each table, and keep that it leads to one of the names.
  choose next hnext using fun t : { t // t ∈ names } => h t.1 t.2
  let follow (t : { t // t ∈ names }) : { t // t ∈ names } := ⟨next t, (hnext t).1⟩
  have hfollow : ∀ (t : { t // t ∈ names }) (n : Nat),
      Relation.ReflTransGen (Refers facts) t.1 (follow^[n] t).1 := by
    intro t n
    induction n generalizing t with
    | zero => exact .refl
    | succ n ih => exact .head (hnext t).2 (ih (follow t))
  -- Finitely many tables cannot be all different at infinitely many times.
  obtain ⟨m, n, hne, heq⟩ :=
    Finite.exists_ne_map_eq_of_infinite fun n : Nat => follow^[n] ⟨table, hmem⟩
  wlog hlt : m < n generalizing m n
  · exact this n m hne.symm heq.symm (by omega)
  set c := follow^[m] ⟨table, hmem⟩ with hc
  refine ⟨c.1, c.2, hfollow ⟨table, hmem⟩ m, ?_⟩
  -- From `c` it takes `k + 1` references to come back to it.
  obtain ⟨k, rfl⟩ : ∃ k, n = (k + 1) + m := ⟨n - m - 1, by omega⟩
  have hback : follow^[k] (follow c) = c := by
    rw [← Function.iterate_succ_apply, hc, ← Function.iterate_add_apply]
    exact heq.symm
  have hcycle := Relation.TransGen.head' (hnext c).2 (hfollow (follow c) k)
  rwa [hback] at hcycle

end SchemaSeed.Facts
