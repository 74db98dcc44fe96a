import SchemaSeed.Proofs.Dependency.Order

/-!
# What is reported of cycles

When the ordering fails it names the tables that it could not place. Those are the tables
that lead to a cycle (`notMem_placed_final`): nothing that is placed does, since positions go
down along references, and what is left over does, since it always refers to something else
that is left over. Without the facts about them there is an order again.
-/

namespace SchemaSeed

open Facts DependencyGraph

variable {facts : List TableDependency} {table : String}

/-- Following references from `table` leads to a table that lies on a cycle. The table itself need
not lie on one. -/
def Facts.LeadsToCycle (facts : List TableDependency) (table : String) : Prop :=
  ∃ c, Relation.ReflTransGen (Refers facts) table c ∧ Relation.TransGen (Refers facts) c c

/-- Fewer facts have fewer references, so that leaving out facts makes no cycle. -/
theorem Facts.Refers.of_subset {fewer : List TableDependency} (h : fewer ⊆ facts)
    {referenced : String} (hr : Refers fewer table referenced) :
    Refers facts table referenced := by
  obtain ⟨fact, hfact, hname, hmem⟩ := hr
  exact ⟨fact, h hfact, hname, hmem⟩

namespace DependencyGraph

/-! ## What is left over -/

/-- All that a placed table leads to is placed before it. By induction on the chain of references.
-/
theorem idxOf_lt_of_transGen {t : String} (ht : t ∈ (final facts).placed) {c : String}
    (h : Relation.TransGen (Refers facts) t c) :
    c ∈ (final facts).placed ∧
      (final facts).placed.idxOf c < (final facts).placed.idxOf t := by
  have hstep : ∀ {a b : String}, a ∈ (final facts).placed → Refers facts a b →
      b ∈ (final facts).placed ∧
        (final facts).placed.idxOf b < (final facts).placed.idxOf a := by
    intro a b ha hr
    exact ⟨(mem_placed_final.1 ha).2 b hr, (consistent_final facts).earlier.idxOf_lt ha hr⟩
  induction h with
  | single hr => exact hstep ht hr
  | tail _ hr ih =>
    obtain ⟨hmem, hlt⟩ := hstep ih.1 hr
    exact ⟨hmem, hlt.trans ih.2⟩

/-- What leads to a cycle is never placed: a table on the cycle would be placed before itself. -/
theorem notMem_placed_of_leadsToCycle (h : LeadsToCycle facts table) :
    table ∉ (final facts).placed := by
  intro hplaced
  obtain ⟨c, hreach, hcycle⟩ := h
  have hc : c ∈ (final facts).placed := by
    rcases Relation.reflTransGen_iff_eq_or_transGen.1 hreach with rfl | hreach
    · exact hplaced
    · exact (idxOf_lt_of_transGen hplaced hreach).1
  exact Nat.lt_irrefl _ (idxOf_lt_of_transGen hc hcycle).2

theorem mem_tables_of_leadsToCycle (h : LeadsToCycle facts table) : table ∈ tables facts := by
  obtain ⟨c, hreach, hcycle⟩ := h
  obtain ⟨r, hr, -⟩ := Relation.TransGen.head'_iff.1 (hcycle.trans_right hreach)
  exact (mem_tables_of_refers hr).1

/-- Left over is what leads to a cycle, and nothing else. A table that leads to none has its
references placed at some time, and then waits. -/
theorem notMem_placed_final (htable : table ∈ tables facts) :
    table ∉ (final facts).placed ↔ LeadsToCycle facts table := by
  constructor
  · intro hleft
    obtain ⟨c, -, hreach, hcycle⟩ := exists_cycle_of_unplaced htable hleft
    exact ⟨c, hreach, hcycle⟩
  · exact notMem_placed_of_leadsToCycle

/-- The tables whose count stays positive, in the order of their discovery. A count is positive as
long as a reference is not placed. -/
theorem unplaced_final (facts : List TableDependency) :
    ((final facts).indegree.filter fun entry => 0 < entry.2).map (·.1) =
      (tables facts).filter (· ∉ (final facts).placed) := by
  have hfinal := consistent_final facts
  have hkeys : (Assoc.keys (final facts).indegree).Nodup := hfinal.keys ▸ nodup_tables facts
  rw [Assoc.eq_map_keys hkeys fun t ht => hfinal.indegree t (hfinal.keys ▸ ht), hfinal.keys,
    List.filter_map, List.map_map]
  refine (List.map_id _).trans (List.filter_congr fun t ht => ?_)
  rw [Function.comp_apply, decide_eq_decide, Nat.pos_iff_ne_zero, not_iff_not, pending_eq_zero,
    mem_placed_final]
  exact ⟨fun h => ⟨ht, h⟩, And.right⟩

end DependencyGraph

/-! ## The report -/

/-- An error lists all tables that were not placed, and there is one. -/
theorem orderTables_eq_error {left : List String} (h : orderTables facts = .error left) :
    left = (tables facts).filter (· ∉ (final facts).placed) ∧
      ∃ t ∈ tables facts, t ∉ (final facts).placed := by
  rw [orderTables, DependencyGraph.order] at h
  change (if (final facts).placed.length = (final facts).indegree.length then _ else _) = _ at h
  split at h
  · cases h
  · next hlength =>
    cases h
    refine ⟨unplaced_final facts, ?_⟩
    rw [length_placed_final] at hlength
    push Not at hlength
    exact hlength

/-- Without the facts about tables that lead to a cycle, none is left: every table on it would lead
to it. -/
theorem acyclic_filter_name {left : List String}
    (h : ∀ t, LeadsToCycle facts t → t ∈ left) :
    Acyclic (facts.filter fun fact => fact.name ∉ left) := by
  intro t hcycle
  have hall : Relation.TransGen (Refers facts) t t := by
    refine Relation.TransGen.mono (fun a b hr => ?_) t t hcycle
    exact Refers.of_subset (List.filter_subset_self _) hr
  -- The first reference of the cycle stands in a fact about `t` that was kept.
  obtain ⟨r, ⟨fact, hfact, rfl, -⟩, -⟩ := Relation.TransGen.head'_iff.1 hcycle
  have hkept := of_decide_eq_true (List.mem_filter.1 hfact).2
  exact hkept (h fact.name ⟨fact.name, .refl, hall⟩)

/-- Where there is no order, the tables that lead to a cycle are reported, and no others,
each once and in the order of their discovery. The facts about other tables have an order. -/
theorem orderTables_reports_cycles {left : List String} (h : orderTables facts = .error left) :
    left.Nodup ∧ left.Sublist (tables facts) ∧
      (∀ table, table ∈ left ↔ LeadsToCycle facts table) ∧ left ≠ [] ∧
      ∃ order, orderTables (facts.filter fun fact => fact.name ∉ left) = .ok order := by
  obtain ⟨hleft, t, ht, hopen⟩ := orderTables_eq_error h
  have hmem : ∀ table, table ∈ left ↔ LeadsToCycle facts table := by
    intro table
    rw [hleft, List.mem_filter, decide_eq_true_eq]
    constructor
    · rintro ⟨htable, hnot⟩
      exact (notMem_placed_final htable).1 hnot
    · intro hcycle
      exact ⟨mem_tables_of_leadsToCycle hcycle, notMem_placed_of_leadsToCycle hcycle⟩
  have hsub : left.Sublist (tables facts) := hleft ▸ List.filter_sublist
  refine ⟨hsub.nodup (nodup_tables facts), hsub, hmem, ?_, ?_⟩
  · apply List.ne_nil_of_mem
    rw [hleft]
    exact List.mem_filter.2 ⟨ht, decide_eq_true hopen⟩
  · exact exists_order_of_acyclic (acyclic_filter_name fun t => (hmem t).2)

/-- Two cycles, a table behind one of them, and tables that no cycle concerns. -/
def entangled : List TableDependency :=
  [⟨"orders", ["users", "invoices"]⟩, ⟨"invoices", ["orders"]⟩, ⟨"staff", ["users", "staff"]⟩,
    ⟨"payments", ["invoices"]⟩, ⟨"users", ["regions"]⟩]

theorem orderTables_entangled :
    orderTables entangled = .error ["orders", "invoices", "staff", "payments"] ∧
      LeadsToCycle entangled "payments" ∧ ¬ LeadsToCycle entangled "users" ∧
      ∃ order, orderTables [⟨"users", ["regions"]⟩] = .ok order := by
  have h : orderTables entangled = .error ["orders", "invoices", "staff", "payments"] := by
    with_unfolding_all rfl
  obtain ⟨-, -, hmem, -, hrest⟩ := orderTables_reports_cycles h
  exact ⟨h, (hmem "payments").1 (by decide), mt (hmem "users").2 (by decide), hrest⟩

end SchemaSeed
