import SchemaSeed.Dependency.Order
import SchemaSeed.Proofs.Dependency.Graph

/-!
# The counts of the ordering

While edges are followed the count of a table is not what is left of its references: the table
that the edges leave is placed already, and some of the edges are still to come. `Tallied` says
what the counts are at any time, by the tables at which edges are still to arrive. Following
one edge keeps it (`Tallied.release`), and so does a whole round, which begins and ends with no
edge on its way (`Tallied.step`).
-/

namespace SchemaSeed.DependencyGraph

open Facts

/-! ## References that are not placed yet -/

def pending (facts : List TableDependency) (placed : List String) (table : String) : Nat :=
  (references facts table).countP (· ∉ placed)

variable {facts : List TableDependency} {placed : List String} {table : String}

theorem pending_nil (facts : List TableDependency) (table : String) :
    pending facts [] table = (references facts table).length := by
  simp [pending]

/-- Nothing is missing when all references are placed. -/
theorem pending_eq_zero :
    pending facts placed table = 0 ↔ ∀ r, Refers facts table r → r ∈ placed := by
  simp [pending, List.countP_eq_zero, mem_references]

/-- Placing a table takes away exactly the edges that leave it, each as often as it is repeated. -/
theorem pending_concat {new : String} (h : new ∉ placed) (facts : List TableDependency)
    (table : String) :
    pending facts (placed ++ [new]) table + (Facts.dependents facts new).count table =
      pending facts placed table := by
  rw [count_dependents]
  simp only [pending]
  induction references facts table with
  | nil => rfl
  | cons r rest ih =>
    rw [List.countP_cons, List.countP_cons, List.count_cons, ← ih]
    -- A reference to the new table was pending before and is counted as an edge now; any other one
    -- stays as it is.
    by_cases hr : r = new
    · subst hr
      rw [if_neg (by simp), if_pos (by simp), if_pos (by simpa using h)]
      omega
    · rw [if_neg (c := (r == new) = true) (by simpa using hr)]
      by_cases hp : r ∈ placed
      · rw [if_neg (by simp [hp]), if_neg (by simpa using hp)]
        omega
      · rw [if_pos (by simp [hp, hr]), if_pos (by simpa using hp)]
        omega

theorem notMem_placed_of_queue {p : Progress} {queue : List String}
    (h : (p.placed ++ p.queue).Nodup) (hqueue : p.queue = table :: queue) :
    table ∉ p.placed := by
  intro hmem
  apply List.disjoint_of_nodup_append h hmem
  rw [hqueue]
  exact List.mem_cons_self

/-! ## Following one edge -/

namespace Progress

/-- An edge that is counted takes one from the count, and the table joins the queue with the last of
them. -/
theorem release_eq {p : Progress} {table : String} {count : Nat}
    (h : Assoc.find? p.indegree table = some (count + 1)) :
    p.release table =
      ⟨Assoc.insert p.indegree table count,
        p.queue ++ if count = 0 then [table] else [], p.placed⟩ := by
  simp only [release, h]
  split <;> simp

theorem find?_release {p : Progress} {table : String} {count : Nat}
    (h : Assoc.find? p.indegree table = some (count + 1)) (t : String) :
    Assoc.find? (p.release table).indegree t =
      if table = t then some count else Assoc.find? p.indegree t := by
  simp only [release_eq h, Assoc.find?_insert, beq_iff_eq]

/-- The same tables are placed, and more of them may wait behind those that did. Nothing else can
happen to the two lists while edges are followed. -/
structure Grows (p q : Progress) : Prop where
  placed : q.placed = p.placed
  queue : p.queue <+: q.queue

theorem grows_release (p : Progress) (table : String) : Grows p (p.release table) := by
  unfold release
  split
  · simp only
    split
    · exact ⟨rfl, List.prefix_append _ _⟩
    · exact ⟨rfl, List.prefix_refl _⟩
  · exact ⟨rfl, List.prefix_refl _⟩

/-- However many edges are followed, what waits stays in front. -/
theorem grows_foldl (p : Progress) (names : List String) : Grows p (names.foldl release p) := by
  induction names generalizing p with
  | nil => exact ⟨rfl, List.prefix_refl _⟩
  | cons name rest ih =>
    have hfirst := grows_release p name
    have hrest := ih (p.release name)
    exact ⟨hrest.placed.trans hfirst.placed, hfirst.queue.trans hrest.queue⟩

/-- In the round that places the first table of the queue, once the edges to `names` were followed:
a state inside the inner loop. -/
def midway (p : Progress) (table : String) (names : List String) : Progress :=
  names.foldl release { p with queue := p.queue.tail, placed := p.placed ++ [table] }

theorem midway_eq {p : Progress} {table : String} {queue : List String}
    (h : p.queue = table :: queue) (names : List String) :
    p.midway table names =
      names.foldl release { p with queue, placed := p.placed ++ [table] } := by
  rw [midway, h, List.tail_cons]

theorem grows_midway {p : Progress} {table : String} {queue : List String}
    (h : p.queue = table :: queue) (names : List String) :
    Grows { p with queue, placed := p.placed ++ [table] } (p.midway table names) := by
  rw [midway_eq h]
  exact grows_foldl _ names

end Progress

/-- A whole round is one in which all edges of the table were followed. -/
theorem step_eq_midway {g : DependencyGraph} {p q : Progress} (h : g.step p = some q) :
    ∃ table queue, p.queue = table :: queue ∧
      q = p.midway table ((Assoc.find? g.dependents table).getD []) := by
  unfold DependencyGraph.step at h
  split at h
  · cases h
  next table queue hqueue =>
  refine ⟨table, queue, hqueue, ?_⟩
  rw [Progress.midway_eq hqueue]
  exact (Option.some.inj h).symm

/-- Whatever waited once stays in its place, first in the queue and then behind it in the order. -/
theorem prefix_of_step {g : DependencyGraph} {p q : Progress} (h : g.step p = some q) :
    p.placed ++ p.queue <+: q.placed ++ q.queue := by
  obtain ⟨table, queue, hqueue, rfl⟩ := step_eq_midway h
  have hgrows := Progress.grows_midway hqueue ((Assoc.find? g.dependents table).getD [])
  rw [hgrows.placed, hqueue, List.append_cons]
  exact (List.prefix_append_right_inj _).2 hgrows.queue

/-! ## The counts at any time -/

/-- The counts, when each of `arriving` is still to be reached by an edge that leaves a placed
table. This is the invariant of the inner loop; between rounds nothing is arriving. -/
structure Tallied (facts : List TableDependency) (arriving : List String) (p : Progress) :
    Prop where
  keys : Assoc.keys p.indegree = tables facts
  indegree : ∀ table ∈ tables facts, Assoc.find? p.indegree table =
    some (pending facts p.placed table + arriving.count table)
  nodup : (p.placed ++ p.queue).Nodup
  /-- A table is placed or waits as soon as its count is zero. -/
  due : ∀ table, table ∈ p.placed ++ p.queue ↔ Assoc.find? p.indegree table = some 0

/-- At first nothing is placed, and the counts are the numbers of references. -/
theorem tallied_start (facts : List TableDependency) :
    Tallied facts [] (build facts).start := by
  have hkeys := keys_build facts
  have hnodup : (Assoc.keys (build facts).indegree).Nodup := hkeys ▸ nodup_tables facts
  refine ⟨hkeys, ?_, ?_, ?_⟩
  · intro table htable
    rw [start, pending_nil]
    exact indegree_build facts htable
  · exact hnodup.sublist (List.filter_sublist.map _)
  · intro table
    simp only [start, List.nil_append, List.mem_map, List.mem_filter, beq_iff_eq,
      Assoc.find?_eq_some_iff hnodup]
    constructor
    · rintro ⟨⟨name, count⟩, ⟨hmem, rfl⟩, rfl⟩
      exact hmem
    · intro hmem
      exact ⟨(table, 0), ⟨hmem, rfl⟩, rfl⟩

namespace Tallied

variable {p q : Progress} {rest arriving : List String}

/-- The edge that is followed next is counted, so that the count at its end is not zero and cannot
be taken below it. -/
theorem find?_arriving (h : Tallied facts (table :: rest) p) (htable : table ∈ tables facts) :
    Assoc.find? p.indegree table =
      some (pending facts p.placed table + rest.count table + 1) := by
  rw [h.indegree table htable, List.count_cons_self, Nat.add_assoc]

/-- A table with a missing reference neither waits nor is it placed, since its count is positive. -/
theorem notMem_arriving (h : Tallied facts (table :: rest) p) (htable : table ∈ tables facts) :
    table ∉ p.placed ++ p.queue := by
  rw [h.due, h.find?_arriving htable]
  simp

/-- Following an edge keeps the counts. The table joins the queue if its count comes down to zero,
and then it was not there before. -/
theorem release (h : Tallied facts (table :: rest) p) (htable : table ∈ tables facts) :
    Tallied facts rest (p.release table) := by
  obtain ⟨count, hcount, hfind⟩ : ∃ count, pending facts p.placed table + rest.count table =
      count ∧ Assoc.find? p.indegree table = some (count + 1) :=
    ⟨_, rfl, h.find?_arriving htable⟩
  have hnew := h.notMem_arriving htable
  have hlookup := Progress.find?_release hfind
  -- Placed and waiting together there is one table more at most.
  have hall : (p.release table).placed ++ (p.release table).queue =
      p.placed ++ p.queue ++ if count = 0 then [table] else [] := by
    rw [Progress.release_eq hfind, List.append_assoc]
  refine ⟨?_, ?_, ?_, ?_⟩
  · rw [Progress.release_eq hfind]
    exact (Assoc.keys_insert_of_mem (Assoc.mem_keys_of_find? hfind)).trans h.keys
  · intro t ht
    rw [hlookup, (p.grows_release table).placed]
    by_cases heq : table = t
    · subst heq
      rw [if_pos rfl, hcount]
    · rw [if_neg heq, h.indegree t ht, List.count_cons_of_ne heq]
  · rw [hall]
    split
    · exact List.nodup_append'.2 ⟨h.nodup, List.nodup_singleton table, by simpa using hnew⟩
    · simpa using h.nodup
  · intro t
    rw [hall, List.mem_append, h.due, hlookup]
    by_cases heq : table = t
    · subst heq
      -- At the table itself, to be due is to have come down to zero now.
      by_cases hzero : count = 0 <;> simp [hzero, hfind]
    · by_cases hzero : count = 0 <;> simp [hzero, heq, Ne.symm heq]

/-- By induction on the edges that are followed. -/
theorem releases {names : List String} (h : Tallied facts (names ++ rest) p)
    (hnames : ∀ name ∈ names, name ∈ tables facts) :
    Tallied facts rest (names.foldl Progress.release p) := by
  induction names generalizing p with
  | nil => exact h
  | cons name names ih =>
    apply ih (h.release (hnames name List.mem_cons_self))
    intro n hn
    exact hnames n (List.mem_cons_of_mem _ hn)

/-- When a table is placed, the edges that leave it are on their way: what was missing is now
arriving. -/
theorem place {queue : List String} (h : Tallied facts [] p) (hqueue : p.queue = table :: queue) :
    Tallied facts (Facts.dependents facts table)
      { p with queue, placed := p.placed ++ [table] } := by
  have hall : p.placed ++ p.queue = p.placed ++ [table] ++ queue := by
    rw [hqueue, List.append_assoc, List.singleton_append]
  have hnew := notMem_placed_of_queue h.nodup hqueue
  refine ⟨h.keys, ?_, hall ▸ h.nodup, hall ▸ h.due⟩
  intro t ht
  rw [h.indegree t ht, pending_concat hnew]
  rfl

/-- Within a round, the edges that were not followed yet are on their way. -/
theorem midway {before after queue : List String} (h : Tallied facts [] p)
    (hqueue : p.queue = table :: queue) (hsplit : Facts.dependents facts table = before ++ after) :
    Tallied facts after (p.midway table before) := by
  have hplace := h.place hqueue
  rw [hsplit] at hplace
  rw [Progress.midway_eq hqueue]
  apply hplace.releases
  intro name hname
  have hdependent : name ∈ Facts.dependents facts table :=
    hsplit ▸ List.mem_append_left after hname
  exact (mem_tables_of_refers (mem_dependents.1 hdependent)).1

/-- A round keeps the counts. In the end all edges of the table have arrived. -/
theorem step (h : Tallied facts [] p) (hstep : (build facts).step p = some q) :
    ∃ table queue, p.queue = table :: queue ∧ q.placed = p.placed ++ [table] ∧
      Tallied facts [] q := by
  obtain ⟨table, queue, hqueue, rfl⟩ := step_eq_midway hstep
  rw [dependents_build]
  refine ⟨table, queue, hqueue, (Progress.grows_midway hqueue _).placed, ?_⟩
  exact h.midway hqueue (List.append_nil _).symm

end Tallied

end SchemaSeed.DependencyGraph
