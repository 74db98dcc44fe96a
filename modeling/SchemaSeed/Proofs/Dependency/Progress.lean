import Mathlib.Data.List.Dedup
import SchemaSeed.Proofs.Dependency.Tally

/-!
# How the ordering proceeds

When a table is placed, those join the queue of which it was the last reference that was
missing, in the order of their last edges (`step_eq`). `Consistent` is the invariant between
two steps: the counts are those of the references that are not placed yet, a table is placed or
waits exactly when that count is zero, and each placed table comes after all that it refers to.
-/

namespace SchemaSeed.DependencyGraph

open Facts

variable {facts : List TableDependency} {placed : List String} {table : String}

/-! ## Who joins the queue -/

/-- By induction on the edges: a table joins with the last edge that leads to it, and only if no
other reference is missing. Hence the repetitions are dropped from the front. -/
theorem Tallied.queue_foldl {p : Progress} {names : List String} (h : Tallied facts names p)
    (hnames : ∀ name ∈ names, name ∈ tables facts) :
    (names.foldl Progress.release p).queue =
      p.queue ++ names.dedup.filter (pending facts p.placed · = 0) := by
  induction names generalizing p with
  | nil => simp
  | cons name rest ih =>
    have hname := hnames name List.mem_cons_self
    have hrest := ih (h.release hname) fun n hn => hnames n (List.mem_cons_of_mem _ hn)
    rw [List.foldl_cons, hrest, Progress.release_eq (h.find?_arriving hname),
      List.append_assoc]
    by_cases hmem : name ∈ rest
    · have hpos := List.count_pos_iff.2 hmem
      rw [List.dedup_cons_of_mem hmem, if_neg (by omega), List.nil_append]
    · rw [List.dedup_cons_of_notMem hmem, List.filter_cons, List.count_eq_zero_of_not_mem hmem]
      by_cases hzero : pending facts p.placed name = 0 <;> simp [hzero]

/-! ## Orders that begin with what is referred to -/

/-- Each table of the order comes after all that it refers to. -/
def ReferencesFirst (facts : List TableDependency) (order : List String) : Prop :=
  ∀ before table after, order = before ++ table :: after →
    ∀ r, Refers facts table r → r ∈ before

/-- A table may be put at the end once all that it refers to is there. -/
theorem ReferencesFirst.concat (h : ReferencesFirst facts placed)
    (hnew : ∀ r, Refers facts table r → r ∈ placed) :
    ReferencesFirst facts (placed ++ [table]) := by
  intro before t after hsplit r hr
  rcases List.eq_nil_or_concat after with rfl | ⟨after, last, rfl⟩
  · obtain ⟨rfl, hlast⟩ := List.append_inj' hsplit rfl
    cases hlast
    exact hnew r hr
  · rw [List.concat_eq_append, ← List.cons_append, ← List.append_assoc] at hsplit
    obtain ⟨hinit, -⟩ := List.append_inj' hsplit rfl
    exact h before t after hinit r hr

/-- What comes first comes strictly before, so no table of such an order refers to itself. -/
theorem ReferencesFirst.idxOf_lt {order : List String} (h : ReferencesFirst facts order)
    (hmem : table ∈ order) {r : String} (hr : Refers facts table r) :
    order.idxOf r < order.idxOf table := by
  obtain ⟨before, after, rfl, hfresh⟩ := List.eq_append_cons_of_mem hmem
  have hbefore := h before table after rfl r hr
  rw [List.idxOf_append_of_mem hbefore, List.idxOf_append_of_notMem hfresh]
  have := List.idxOf_lt_length_of_mem hbefore
  omega

/-! ## The invariant -/

/-- What holds between two steps of the ordering. The counts and the queue are as in `Tallied`, and
besides, what was placed is in an order. -/
structure Consistent (facts : List TableDependency) (p : Progress) : Prop where
  keys : Assoc.keys p.indegree = tables facts
  indegree : ∀ table ∈ tables facts,
    Assoc.find? p.indegree table = some (pending facts p.placed table)
  nodup : (p.placed ++ p.queue).Nodup
  /-- A table is placed or waits once all its references are placed. -/
  due : ∀ table, table ∈ p.placed ++ p.queue ↔
    table ∈ tables facts ∧ pending facts p.placed table = 0
  earlier : ReferencesFirst facts p.placed

/-- A count is zero once all references of a table are placed, and it is a count of a table in the
first place. -/
theorem find?_eq_zero {p : Progress} (hkeys : Assoc.keys p.indegree = tables facts)
    (h : ∀ table ∈ tables facts,
      Assoc.find? p.indegree table = some (pending facts p.placed table)) :
    Assoc.find? p.indegree table = some 0 ↔
      table ∈ tables facts ∧ pending facts p.placed table = 0 := by
  constructor
  · intro hzero
    have htable := hkeys ▸ Assoc.mem_keys_of_find? hzero
    rw [h table htable] at hzero
    exact ⟨htable, Option.some.inj hzero⟩
  · rintro ⟨htable, hzero⟩
    rw [h table htable, hzero]

/-- The order among the placed tables is forgotten. -/
theorem Consistent.tallied {p : Progress} (h : Consistent facts p) : Tallied facts [] p where
  keys := h.keys
  indegree := h.indegree
  nodup := h.nodup
  due _ := (h.due _).trans (find?_eq_zero h.keys h.indegree).symm

/-- Between two steps no edge is on its way, and the counts are those of the references that are
missing. -/
theorem Tallied.consistent {p : Progress} (h : Tallied facts [] p)
    (hearlier : ReferencesFirst facts p.placed) : Consistent facts p where
  keys := h.keys
  indegree := h.indegree
  nodup := h.nodup
  due _ := (h.due _).trans (find?_eq_zero h.keys h.indegree)
  earlier := hearlier

/-- Before the first step the counts are the in-degrees of the graph, and the tables without
references wait. -/
theorem consistent_start (facts : List TableDependency) :
    Consistent facts (build facts).start := by
  apply (tallied_start facts).consistent
  -- Nothing is placed yet.
  intro before table after h
  simp [start] at h

/-- One step places the first table of the queue and queues the tables of which it was the
last reference that was missing, in the order of their last edges. -/
theorem step_eq {p q : Progress} (hp : Consistent facts p)
    (h : (build facts).step p = some q) :
    ∃ table queue, p.queue = table :: queue ∧ q.placed = p.placed ++ [table] ∧
      q.queue = queue ++ (Facts.dependents facts table).dedup.filter
        (pending facts (p.placed ++ [table]) · = 0) := by
  obtain ⟨table, queue, hqueue, rfl⟩ := step_eq_midway h
  refine ⟨table, queue, hqueue, (Progress.grows_midway hqueue _).placed, ?_⟩
  rw [dependents_build, Progress.midway_eq hqueue]
  apply (hp.tallied.place hqueue).queue_foldl
  intro t ht
  exact (mem_tables_of_refers (mem_dependents.1 ht)).1

/-- A step keeps the invariant. Only the order is to be shown, for the counts were followed edge by
edge. -/
theorem Consistent.step {p q : Progress} (hp : Consistent facts p)
    (h : (build facts).step p = some q) : Consistent facts q := by
  obtain ⟨table, queue, hqueue, hplaced, htallied⟩ := hp.tallied.step h
  apply htallied.consistent
  have hdue : table ∈ tables facts ∧ pending facts p.placed table = 0 :=
    (hp.due table).1 (by simp [hqueue])
  rw [hplaced]
  exact hp.earlier.concat (pending_eq_zero.1 hdue.2)

/-- The ordering ends with an empty queue, and keeps the invariant to the end. By the induction of
the loop, which ends when there is no further step. -/
theorem consistent_finish {p : Progress} (hp : Consistent facts p) :
    Consistent facts ((build facts).finish p) ∧ ((build facts).finish p).queue = [] := by
  fun_induction finish (build facts) p with
  | case1 p h =>
    refine ⟨hp, ?_⟩
    unfold step at h
    split at h
    · next hnil => exact hnil
    · cases h
  | case2 p q h ih => exact ih (hp.step h)

end SchemaSeed.DependencyGraph
