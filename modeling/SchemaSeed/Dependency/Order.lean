import SchemaSeed.Dependency.Graph

/-!
# The seeding order

Tables are put into an order in which each one comes after all that it refers to. A queue
holds the tables whose references are all placed; the first of them is placed next, and
each edge that leaves it brings a table closer to the queue. If tables remain that never
come there, they are reported, and no order is given.
-/

namespace SchemaSeed

namespace DependencyGraph

/-- How far the ordering has come: the number of edges to each table that come from tables
not placed yet, the tables that wait in the queue, and those that are placed. -/
structure Progress where
  indegree : List (String × Nat)
  queue : List String
  placed : List String
  deriving Repr

/-- All tables without references wait, in the order of their discovery. -/
def start (g : DependencyGraph) : Progress :=
  ⟨g.indegree, (g.indegree.filter fun entry => entry.2 == 0).map (·.1), []⟩

/-- One edge from a placed table reaches `table`. The last one puts it into the queue. -/
def Progress.release (p : Progress) (table : String) : Progress :=
  match Assoc.find? p.indegree table with
  | some (count + 1) =>
    let indegree := Assoc.insert p.indegree table count
    if count = 0 then { p with indegree, queue := p.queue ++ [table] } else { p with indegree }
  | _ => p

/-- Places the first table of the queue, and releases the tables that refer to it. There is no step
when no table waits. -/
def step (g : DependencyGraph) (p : Progress) : Option Progress :=
  match p.queue with
  | [] => none
  | table :: queue =>
    some (((Assoc.find? g.dependents table).getD []).foldl Progress.release
      { p with queue, placed := p.placed ++ [table] })

def total : List (String × Nat) → Nat
  | [] => 0
  | (_, n) :: rest => n + total rest

/-- The edges that are still to come and the tables that wait. A step takes a table out of the
queue, and each edge that it releases puts at most one in, so this gets smaller. -/
def Progress.size (p : Progress) : Nat :=
  total p.indegree + p.queue.length

/-- Counting one edge less in the table changes the sum by one. -/
theorem total_insert {entries : List (String × Nat)} {table : String} {count : Nat}
    (h : Assoc.find? entries table = some (count + 1)) :
    total (Assoc.insert entries table count) + 1 = total entries := by
  induction entries with
  | nil => cases h
  | cons entry rest ih =>
    obtain ⟨name, n⟩ := entry
    simp only [Assoc.find?] at h
    simp only [Assoc.insert]
    split at h
    · next hn =>
      cases h
      simp only [hn, if_true, total]
      omega
    · next hn =>
      simp only [hn, if_false, total, Bool.false_eq_true]
      have := ih h
      omega

theorem size_release_le (p : Progress) (table : String) : (p.release table).size ≤ p.size := by
  unfold Progress.release
  split
  · next count h =>
    have := total_insert h
    simp only
    split <;> simp only [Progress.size, List.length_append, List.length_singleton] <;> omega
  · exact Nat.le_refl _

theorem size_step_lt {g : DependencyGraph} {p q : Progress} (h : g.step p = some q) :
    q.size < p.size := by
  unfold step at h
  split at h
  · cases h
  · next table queue hq =>
    cases h
    have hle : ∀ (tables : List String) (p : Progress),
        (tables.foldl Progress.release p).size ≤ p.size := by
      intro tables
      induction tables with
      | nil => exact fun _ => Nat.le_refl _
      | cons t rest ih => exact fun p => Nat.le_trans (ih _) (size_release_le p t)
    refine Nat.lt_of_le_of_lt (hle _ _) ?_
    simp only [Progress.size, hq, List.length_cons]
    omega

def finish (g : DependencyGraph) (p : Progress) : Progress :=
  match _h : g.step p with
  | none => p
  | some q => finish g q
termination_by p.size
decreasing_by exact size_step_lt _h

/-- All tables in order, or those that cannot be placed: each of these has an edge left that nothing
will release. -/
def order (g : DependencyGraph) : Except (List String) (List String) :=
  let p := g.finish g.start
  if p.placed.length = p.indegree.length then .ok p.placed
  else .error ((p.indegree.filter fun entry => 0 < entry.2).map (·.1))

end DependencyGraph

/-- The tables of a schema in an order in which each comes after all that it refers to, or
the tables that are on a cycle or behind one. -/
def orderTables (facts : List TableDependency) : Except (List String) (List String) :=
  (DependencyGraph.build facts).order

end SchemaSeed
