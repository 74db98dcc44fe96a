import SchemaSeed.Proofs.Dependency.Order

/-!
# When tables arrive in the queue

First the tables without references wait. After that a table arrives when the last of its
references is placed, and with it all others for which that was the last one, in the order
of their last references to it. So the order of all tables is a list that tells its own
continuation (`order_eq`): what arrives comes in the order of what is placed.
-/

namespace SchemaSeed

open Facts DependencyGraph

variable {facts : List TableDependency} {order : List String} {s t u v : String}

/-- The tables that refer to nothing, in the order of their discovery. -/
def Facts.roots (facts : List TableDependency) : List String :=
  (tables facts).filter fun table => (references facts table).length == 0

/-- The tables that waited only for `table` when it was placed, in the order of their last
references to it. It is decided by the tables placed so far, up to and including `table`. -/
def Facts.released (facts : List TableDependency) (placed : List String) (table : String) :
    List String :=
  (dependents facts table).dedup.filter
    (pending facts (placed.take (placed.idxOf table + 1)) · = 0)

/-- What was placed later does not matter: what a table releases is settled when it is placed. -/
theorem released_concat_of_mem {placed : List String} {new : String} (h : u ∈ placed) :
    released facts (placed ++ [new]) u = released facts placed u := by
  have hlt := List.idxOf_lt_length_of_mem h
  rw [released, List.idxOf_append_of_mem h, List.take_append_of_le_length hlt, released]

theorem released_concat_self {placed : List String} {new : String} (h : new ∉ placed) :
    released facts (placed ++ [new]) new = (dependents facts new).dedup.filter
      (pending facts (placed ++ [new]) · = 0) := by
  have hall : (placed ++ [new]).length ≤ (placed ++ [new]).idxOf new + 1 := by
    rw [List.idxOf_append_of_notMem h]
    simp
  rw [released, List.take_of_length_le hall]

namespace DependencyGraph

/-- The queue after some tables were placed: the roots and all that was released since, as far as it
was not placed itself. The invariant of the loop from which the order is read off. -/
def Queued (facts : List TableDependency) (p : Progress) : Prop :=
  p.placed ++ p.queue = roots facts ++ p.placed.flatMap (released facts p.placed)

theorem queued_start (facts : List TableDependency) : Queued facts (build facts).start := by
  have hkeys := keys_build facts
  have hnodup : (Assoc.keys (build facts).indegree).Nodup := hkeys ▸ nodup_tables facts
  rw [Queued, start, List.nil_append, List.flatMap_nil, List.append_nil,
    Assoc.eq_map_keys hnodup fun table htable => indegree_build facts (hkeys ▸ htable), hkeys,
    List.filter_map, List.map_map]
  exact List.map_id _

/-- A step places one table and releases those that waited only for it, at the end of the queue. -/
theorem Queued.step {p q : Progress} (hp : Consistent facts p) (hqueued : Queued facts p)
    (h : (build facts).step p = some q) : Queued facts q := by
  obtain ⟨table, queue, hqueue, hplaced, hjoin⟩ := step_eq hp h
  have hnew := notMem_placed_of_queue hp.nodup hqueue
  have hbefore : ∀ t ∈ p.placed,
      released facts (p.placed ++ [table]) t = released facts p.placed t :=
    fun t ht => released_concat_of_mem ht
  rw [Queued, hplaced, hjoin, List.flatMap_append, List.flatMap_singleton,
    released_concat_self hnew, ← List.append_assoc, List.append_assoc p.placed,
    List.singleton_append, ← hqueue, hqueued, List.append_assoc]
  rw [List.flatMap_congr hbefore]

theorem queued_finish {p : Progress} (hp : Consistent facts p) (hqueued : Queued facts p) :
    Queued facts ((build facts).finish p) := by
  fun_induction finish (build facts) p with
  | case1 p h => exact hqueued
  | case2 p q h ih => exact ih (hp.step h) (hqueued.step hp h)

/-- At the end of the loop the queue is empty, and the invariant speaks of the order alone. -/
theorem queued_final (facts : List TableDependency) : Queued facts (final facts) :=
  queued_finish (consistent_start facts) (queued_start facts)

end DependencyGraph

/-! ## The order as its own continuation -/

/-- The reference of `table` that is placed last: the one that `table` has to wait for. -/
def IsLastPlaced (facts : List TableDependency) (order : List String)
    (table referenced : String) : Prop :=
  Refers facts table referenced ∧
    ∀ r, Refers facts table r → order.idxOf r ≤ order.idxOf referenced

section
variable (h : orderTables facts = .ok order)
include h

/-- The order is its own continuation: first the roots, then what each of its tables releases, in
turn. -/
theorem order_eq : order = roots facts ++ order.flatMap (released facts order) := by
  obtain ⟨rfl, -⟩ := orderTables_eq_ok.1 h
  have hqueue : (final facts).queue = [] := (consistent_finish (consistent_start facts)).2
  have hqueued := queued_final facts
  rwa [Queued, hqueue, List.append_nil] at hqueued

theorem mem_order_of_refers (hr : Refers facts t u) : u ∈ order :=
  (mem_order h).2 (mem_tables_of_refers hr).2

/-- No two tables are in the same place of the order, so only one of several comes last. -/
theorem IsLastPlaced.unique (hu : IsLastPlaced facts order t u)
    (hv : IsLastPlaced facts order t v) : u = v := by
  have hle := Nat.le_antisymm (hv.2 u hu.1) (hu.2 v hv.1)
  exact (List.idxOf_inj (mem_order_of_refers h hu.1)).1 hle

/-- Released by a table are those of which it is the reference that is placed last. Before it was
placed, their counts were positive. -/
theorem mem_released :
    t ∈ released facts order u ↔ IsLastPlaced facts order t u := by
  have htake : ∀ r, Refers facts t r →
      (r ∈ order.take (order.idxOf u + 1) ↔ order.idxOf r ≤ order.idxOf u) := by
    intro r hr
    rw [List.mem_take_iff_idxOf_lt (mem_order_of_refers h hr), Nat.lt_succ_iff]
  rw [released, List.mem_filter, List.mem_dedup, mem_dependents, decide_eq_true_eq,
    pending_eq_zero]
  exact and_congr_right fun _ => forall₂_congr htake

/-- The roots are the tables of the order without a reference. -/
theorem mem_roots : t ∈ roots facts ↔ t ∈ order ∧ ∀ r, ¬ Refers facts t r := by
  rw [roots, List.mem_filter, mem_order h, beq_iff_eq, List.length_eq_zero_iff,
    List.eq_nil_iff_forall_not_mem]
  simp only [mem_references]

/-- Whatever refers to something has a reference that is placed last, as its references are finitely
many. -/
theorem exists_isLastPlaced (hr : Refers facts t u) : ∃ v, IsLastPlaced facts order t v := by
  have ht : t ∈ roots facts ++ order.flatMap (released facts order) := by
    rw [← order_eq h]
    exact (mem_order h).2 (mem_tables_of_refers hr).1
  rcases List.mem_append.1 ht with hroot | hreleased
  · exact absurd hr (((mem_roots h).1 hroot).2 u)
  · obtain ⟨v, -, htv⟩ := List.mem_flatMap.1 hreleased
    exact ⟨v, (mem_released h).1 htv⟩

end

end SchemaSeed
