import SchemaSeed.Proofs.Dependency.Progress

/-!
# Soundness and completeness of the seeding order

* **Completeness**: tables whose references form no cycle have an order. What is left over
  when the ordering stops refers to something else that is left over (`mem_placed_final`),
  and finitely many tables that do so contain a cycle (`exists_cycle_of_unplaced`).
* **Soundness**: an order holds each table once, and behind all that it refers to, so that no
  cycle can be among them.
-/

namespace SchemaSeed

open Facts DependencyGraph

variable {facts : List TableDependency} {table : String}

namespace DependencyGraph

def final (facts : List TableDependency) : Progress := (build facts).finish (build facts).start

theorem consistent_final (facts : List TableDependency) : Consistent facts (final facts) :=
  (consistent_finish (consistent_start facts)).1

theorem nodup_placed_final (facts : List TableDependency) : (final facts).placed.Nodup :=
  (consistent_final facts).nodup.of_append_left

/-- In the end the tables are placed whose references are all placed. From left to right it is the
invariant, from right to left that the queue is empty. -/
theorem mem_placed_final : table ∈ (final facts).placed ↔
    table ∈ tables facts ∧ ∀ r, Refers facts table r → r ∈ (final facts).placed := by
  have hdue := (consistent_final facts).due table
  have hqueue : (final facts).queue = [] := (consistent_finish (consistent_start facts)).2
  rwa [hqueue, List.append_nil, pending_eq_zero] at hdue

/-- From a table that is left over, references lead to a cycle: each table that is left over refers
to another one, and there are finitely many. -/
theorem exists_cycle_of_unplaced (htable : table ∈ tables facts)
    (hleft : table ∉ (final facts).placed) :
    ∃ c, c ∉ (final facts).placed ∧ Relation.ReflTransGen (Refers facts) table c ∧
      Relation.TransGen (Refers facts) c c := by
  -- What is left over refers to something that is left over, or else it would be placed.
  have hnext : ∀ t ∈ (tables facts).filter (· ∉ (final facts).placed),
      ∃ r ∈ (tables facts).filter (· ∉ (final facts).placed), Refers facts t r := by
    intro t ht
    obtain ⟨ht, hopen⟩ := List.mem_filter.1 ht
    have hopen := of_decide_eq_true hopen
    rw [mem_placed_final] at hopen
    push Not at hopen
    obtain ⟨r, hr, hnot⟩ := hopen ht
    exact ⟨r, List.mem_filter.2 ⟨(mem_tables_of_refers hr).2, decide_eq_true hnot⟩, hr⟩
  obtain ⟨c, hc, hreach, hcycle⟩ := exists_cycle_of_forall_refers hnext
    (List.mem_filter.2 ⟨htable, decide_eq_true hleft⟩)
  exact ⟨c, of_decide_eq_true (List.mem_filter.1 hc).2, hreach, hcycle⟩

/-- As many tables are placed as there are, or else one is left over. The program compares the
numbers only. -/
theorem length_placed_final :
    (final facts).placed.length = (final facts).indegree.length ↔
      ∀ t ∈ tables facts, t ∈ (final facts).placed := by
  have hlength : (final facts).indegree.length = (tables facts).length := by
    rw [← (consistent_final facts).keys, Assoc.keys, List.length_map]
  have hsub : (final facts).placed ⊆ tables facts := by
    intro t ht
    exact (mem_placed_final.1 ht).1
  have hperm := (List.subperm_of_subset (nodup_placed_final facts) hsub).perm_of_length_le
  rw [hlength]
  constructor
  · intro h t ht
    exact (hperm h.ge).mem_iff.2 ht
  · intro h
    apply List.Perm.length_eq
    rw [List.perm_ext_iff_of_nodup (nodup_placed_final facts) (nodup_tables facts)]
    intro t
    exact ⟨fun ht => hsub ht, h t⟩

end DependencyGraph

/-! ## The order, if there is one -/

/-- An order is the list of the placed tables, and it is given exactly when that list is complete.
-/
theorem orderTables_eq_ok {order : List String} : orderTables facts = .ok order ↔
    order = (final facts).placed ∧ ∀ t ∈ tables facts, t ∈ order := by
  rw [orderTables, DependencyGraph.order]
  show (if (final facts).placed.length = (final facts).indegree.length then _ else _) = _ ↔ _
  split
  · next h =>
    constructor
    · rintro ⟨⟩
      exact ⟨rfl, length_placed_final.1 h⟩
    · rintro ⟨rfl, -⟩
      rfl
  · next h =>
    constructor
    · rintro ⟨⟩
    · rintro ⟨rfl, hall⟩
      exact absurd (length_placed_final.2 hall) h

section
variable {order : List String} (h : orderTables facts = .ok order)
include h

theorem nodup_order : order.Nodup := by
  obtain ⟨rfl, -⟩ := orderTables_eq_ok.1 h
  exact nodup_placed_final facts

theorem mem_order : table ∈ order ↔ table ∈ tables facts := by
  obtain ⟨rfl, hall⟩ := orderTables_eq_ok.1 h
  constructor
  · intro ht
    exact (mem_placed_final.1 ht).1
  · exact hall table

/-- In the order, every table comes behind all that it refers to, whether these were declared or
not. -/
theorem referencesFirst_order : ReferencesFirst facts order := by
  obtain ⟨rfl, -⟩ := orderTables_eq_ok.1 h
  exact (consistent_final facts).earlier

/-- A table that is referred to stands strictly before the one that refers to it, so that none
refers to itself. -/
theorem idxOf_lt_of_refers {r : String} (hr : Refers facts table r) :
    order.idxOf r < order.idxOf table :=
  (referencesFirst_order h).idxOf_lt ((mem_order h).2 (mem_tables_of_refers hr).1) hr

/-- Along references the places go down, and around a cycle they would come back to where they were.
-/
theorem acyclic_of_order : Acyclic facts := by
  intro t hcycle
  -- Along references the positions go down, so no chain of them comes back.
  have hlt : ∀ c, Relation.TransGen (Refers facts) t c → order.idxOf c < order.idxOf t := by
    intro c hc
    induction hc with
    | single hr => exact idxOf_lt_of_refers h hr
    | tail _ hr ih => exact (idxOf_lt_of_refers h hr).trans ih
  exact Nat.lt_irrefl _ (hlt t hcycle)

end

/-- Without a cycle no table can be left over, by `exists_cycle_of_unplaced`. -/
theorem exists_order_of_acyclic (h : Acyclic facts) : ∃ order, orderTables facts = .ok order := by
  refine ⟨(final facts).placed, orderTables_eq_ok.2 ⟨rfl, ?_⟩⟩
  intro t ht
  by_contra hleft
  obtain ⟨c, -, -, hcycle⟩ := exists_cycle_of_unplaced ht hleft
  exact h c hcycle

/-- Facts have an order exactly when their references form no cycle. The order holds all
tables of the facts and nothing else, each once and strictly behind all that it refers to. -/
theorem orderTables_sound_complete (facts : List TableDependency) :
    ((∃ order, orderTables facts = .ok order) ↔ Acyclic facts) ∧
    ∀ order, orderTables facts = .ok order →
      order.Nodup ∧
      (∀ table, table ∈ order ↔
        ∃ fact ∈ facts, table = fact.name ∨ table ∈ fact.dependencies) ∧
      ∀ fact ∈ facts, ∀ referenced ∈ fact.dependencies,
        order.idxOf referenced < order.idxOf fact.name := by
  constructor
  · constructor
    · rintro ⟨order, h⟩
      exact acyclic_of_order h
    · exact exists_order_of_acyclic
  · intro order h
    refine ⟨nodup_order h, ?_, ?_⟩
    · intro table
      exact (mem_order h).trans mem_tables
    · intro fact hfact referenced hr
      exact idxOf_lt_of_refers h ⟨fact, hfact, rfl, hr⟩

/-- A diamond whose top is not declared, with a double reference and with the references of one
table in two facts. -/
def diamond : List TableDependency :=
  [⟨"items", ["orders", "products"]⟩, ⟨"orders", ["users", "users"]⟩, ⟨"items", ["orders"]⟩,
    ⟨"products", ["users"]⟩]

theorem orderTables_diamond :
    orderTables diamond = .ok ["users", "orders", "products", "items"] ∧
      Acyclic diamond ∧
      ["users", "orders", "products", "items"].idxOf "users" <
        ["users", "orders", "products", "items"].idxOf "orders" := by
  have h : orderTables diamond = .ok ["users", "orders", "products", "items"] := by
    with_unfolding_all rfl
  refine ⟨h, (orderTables_sound_complete diamond).1.1 ⟨_, h⟩, ?_⟩
  exact ((orderTables_sound_complete diamond).2 _ h).2.2 ⟨"orders", ["users", "users"]⟩
    (by simp [diamond]) "users" (by simp)

end SchemaSeed
