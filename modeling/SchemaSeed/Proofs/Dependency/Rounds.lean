import SchemaSeed.Proofs.Dependency.Order

/-!
# The rounds of the ordering

Each round takes one table from the queue. At the head of a round the counts are exact, and
within it they stay ahead of the edges that are still to be followed: no count is taken below
zero, and no table joins the queue that was there before (`Rounds.midway`). So no table is
placed twice, and there are no more rounds than tables (`rounds_keep_count`).
-/

namespace SchemaSeed.DependencyGraph

open Facts

/-- So many rounds lead from one state of the ordering to another. -/
inductive Rounds (g : DependencyGraph) (p : Progress) : Nat → Progress → Prop
  | zero : Rounds g p 0 p
  | succ {n : Nat} {q r : Progress} (h : Rounds g p n q) (hstep : g.step q = some r) :
      Rounds g p (n + 1) r

variable {facts : List TableDependency} {n : Nat} {p : Progress}

/-- From whatever the rounds came to, more of them lead to the end. -/
theorem Rounds.finish {g : DependencyGraph} {q : Progress} (h : Rounds g p n q) :
    ∃ m, Rounds g p m (g.finish q) := by
  fun_induction DependencyGraph.finish g q generalizing n with
  | case1 q hstop => exact ⟨n, h⟩
  | case2 q r hstep ih => exact ih (h.succ hstep)

/-- By induction on the rounds: each of them keeps the counts and places one table, so that their
number is that of the placed tables. -/
theorem Rounds.tallied (h : Rounds (build facts) (build facts).start n p) :
    Tallied facts [] p ∧ p.placed.length = n := by
  induction h with
  | zero => exact ⟨tallied_start facts, rfl⟩
  | succ _ hstep ih =>
    obtain ⟨htallied, hlength⟩ := ih
    obtain ⟨table, queue, -, hplaced, hnext⟩ := htallied.step hstep
    refine ⟨hnext, ?_⟩
    rw [hplaced, List.length_append, List.length_singleton, hlength]

/-- What is placed are tables, and none of them twice, so there are no more than all tables. -/
theorem Tallied.length_placed_le {arriving : List String} (h : Tallied facts arriving p) :
    p.placed.length ≤ (tables facts).length := by
  apply List.Subperm.length_le
  apply List.subperm_of_subset h.nodup.of_append_left
  intro table htable
  rw [← h.keys]
  exact Assoc.mem_keys_of_find? ((h.due table).1 (List.mem_append_left _ htable))

/-- The ordering takes no more rounds than there are tables, since each round places one of them. -/
theorem Rounds.le_length (h : Rounds (build facts) (build facts).start n p) :
    n ≤ (tables facts).length := by
  obtain ⟨htallied, hlength⟩ := h.tallied
  exact hlength ▸ htallied.length_placed_le

/-- The edge that is followed next in a round is counted, and what it leads to is neither placed
nor waiting. -/
theorem Rounds.midway (h : Rounds (build facts) (build facts).start n p)
    {table next : String} {before after queue : List String} (hqueue : p.queue = table :: queue)
    (hsplit : (Assoc.find? (build facts).dependents table).getD [] = before ++ next :: after) :
    (∃ count, Assoc.find? (p.midway table before).indegree next = some (count + 1)) ∧
      next ∉ (p.midway table before).placed ++ (p.midway table before).queue := by
  rw [dependents_build] at hsplit
  have hnext : next ∈ tables facts := by
    have hmem : next ∈ Facts.dependents facts table := by simp [hsplit]
    exact (mem_tables_of_refers (mem_dependents.1 hmem)).1
  have hmidway := h.tallied.1.midway hqueue hsplit
  exact ⟨⟨_, hmidway.find?_arriving hnext⟩, hmidway.notMem_arriving hnext⟩

/-- At the head of each round the count of a table is the number of its references that are not
placed yet, and placed or waiting, none of them twice, are the tables whose count is zero.
Within a round no edge arrives at a table whose count is zero already, or that is placed or
waits, and what waited once stays. The ordering ends, and it takes no more rounds than there
are tables. -/
theorem rounds_keep_count (facts : List TableDependency) :
    (∀ n p, Rounds (build facts) (build facts).start n p →
      Assoc.keys p.indegree = tables facts ∧
      (∀ table ∈ tables facts, Assoc.find? p.indegree table =
        some ((references facts table).countP (· ∉ p.placed))) ∧
      (p.placed ++ p.queue).Nodup ∧
      (∀ table, table ∈ p.placed ++ p.queue ↔ Assoc.find? p.indegree table = some 0) ∧
      (∀ table queue before next after, p.queue = table :: queue →
        (Assoc.find? (build facts).dependents table).getD [] = before ++ next :: after →
        (∃ count, Assoc.find? (p.midway table before).indegree next = some (count + 1)) ∧
          next ∉ (p.midway table before).placed ++ (p.midway table before).queue) ∧
      (∀ q, (build facts).step p = some q → p.placed ++ p.queue <+: q.placed ++ q.queue) ∧
      n ≤ (tables facts).length) ∧
    ∃ n ≤ (tables facts).length,
      Rounds (build facts) (build facts).start n (final facts) ∧ (final facts).queue = [] := by
  constructor
  · intro n p h
    -- What one round keeps, all of them keep.
    obtain ⟨htallied, -⟩ := h.tallied
    refine ⟨htallied.keys, htallied.indegree, htallied.nodup, htallied.due, ?_, ?_, h.le_length⟩
    · intro table queue before next after hqueue hsplit
      exact h.midway hqueue hsplit
    · exact fun q hstep => prefix_of_step hstep
  · obtain ⟨n, hrounds⟩ := Rounds.finish (.zero : Rounds (build facts) (build facts).start 0 _)
    exact ⟨n, hrounds.le_length, hrounds, (consistent_finish (consistent_start facts)).2⟩

/-- A table that refers to another one twice, and one that refers to itself. -/
def transfers : List TableDependency :=
  [⟨"transfers", ["accounts", "accounts"]⟩, ⟨"staff", ["staff", "accounts"]⟩]

/-- When the second of its two edges is to be followed, `transfers` still counts it. The table
that refers to itself is never counted out. -/
theorem rounds_keep_count_transfers :
    (build transfers).start.queue = ["accounts"] ∧
      (Assoc.find? (build transfers).dependents "accounts").getD [] =
        ["transfers"] ++ "transfers" :: ["staff"] ∧
      (∃ count, Assoc.find? ((build transfers).start.midway "accounts" ["transfers"]).indegree
        "transfers" = some (count + 1)) ∧
      Rounds (build transfers) (build transfers).start 1
        ⟨[("transfers", 0), ("accounts", 0), ("staff", 1)], ["transfers"], ["accounts"]⟩ ∧
      "staff" ∉ ["accounts", "transfers"] := by
  have hqueue : (build transfers).start.queue = ["accounts"] := by decide
  have hsplit : (Assoc.find? (build transfers).dependents "accounts").getD [] =
      ["transfers"] ++ "transfers" :: ["staff"] := by decide
  have hround : Rounds (build transfers) (build transfers).start 1
      ⟨[("transfers", 0), ("accounts", 0), ("staff", 1)], ["transfers"], ["accounts"]⟩ :=
    .succ .zero rfl
  obtain ⟨-, -, -, -, hmidway, -, -⟩ := (rounds_keep_count transfers).1 0 _ .zero
  obtain ⟨-, -, -, hdue, -, -, -⟩ := (rounds_keep_count transfers).1 1 _ hround
  refine ⟨hqueue, hsplit, (hmidway _ _ _ _ _ hqueue hsplit).1, hround, ?_⟩
  exact mt (hdue "staff").1 (by decide)

end SchemaSeed.DependencyGraph
