import Mathlib.Order.Lattice.Nat
import SchemaSeed.Proofs.Dependency.Order

/-!
# The depth of a table

The depth of a table is the length of the longest chain of references that begins at it. In
tables that have an order a chain is no longer than the way back to the front of it
(`HasChain.le_idxOf`), so there is a longest one (`isGreatest_depth`). What is then used of
depths is that they grow against every reference (`depth_lt_of_refers`), and by no more than
the deepest reference makes necessary (`depth_le_succ`).
-/

namespace SchemaSeed

namespace Facts

/-- There is a chain of so many references that begins at the table. -/
inductive HasChain (facts : List TableDependency) : String → Nat → Prop
  | nil (table : String) : HasChain facts table 0
  | cons {table referenced : String} {n : Nat} (hr : Refers facts table referenced)
      (h : HasChain facts referenced n) : HasChain facts table (n + 1)

/-- The length of the longest chain of references that begins at the table. It is a supremum of
natural numbers, which is attained where there is an order (`isGreatest_depth`). -/
noncomputable def depth (facts : List TableDependency) (table : String) : Nat :=
  sSup {n | HasChain facts table n}

end Facts

open Facts

variable {facts : List TableDependency} {order : List String} {table referenced : String}

section
variable (h : orderTables facts = .ok order)
include h

/-- Along a chain the places go down, so that it is no longer than the place of its first table. -/
theorem Facts.HasChain.le_idxOf {n : Nat} (hchain : HasChain facts table n) :
    n ≤ order.idxOf table := by
  induction hchain with
  | nil => exact Nat.zero_le _
  | cons hr _ ih =>
    have := idxOf_lt_of_refers h hr
    omega

/-- In an order chains are bounded, so one of them is the longest. -/
theorem isGreatest_depth (table : String) :
    IsGreatest {n | HasChain facts table n} (depth facts table) := by
  have hbound : BddAbove {n | HasChain facts table n} :=
    ⟨order.idxOf table, fun n hn => HasChain.le_idxOf h hn⟩
  exact ⟨Nat.sSup_mem ⟨0, .nil table⟩ hbound, fun n hn => le_csSup hbound hn⟩

/-- A chain from a reference is one longer from the table that refers to it. -/
theorem depth_lt_of_refers (hr : Refers facts table referenced) :
    depth facts referenced < depth facts table :=
  (isGreatest_depth h table).2 (.cons hr (isGreatest_depth h referenced).1)

theorem depth_le_succ {n : Nat} (hall : ∀ r, Refers facts table r → depth facts r ≤ n) :
    depth facts table ≤ n + 1 := by
  have hlongest : HasChain facts table (depth facts table) := (isGreatest_depth h table).1
  generalize depth facts table = d at hlongest ⊢
  cases hlongest with
  | nil => exact Nat.zero_le _
  | cons hr hrest =>
    have := (isGreatest_depth h _).2 hrest
    have := hall _ hr
    omega

/-- Depth zero is to refer to nothing; such tables come in the order of their discovery. -/
theorem depth_eq_zero : depth facts table = 0 ↔ ∀ r, ¬ Refers facts table r := by
  constructor
  · intro hzero r hr
    have := depth_lt_of_refers h hr
    omega
  · intro hnone
    have hlongest : HasChain facts table (depth facts table) := (isGreatest_depth h table).1
    generalize depth facts table = d at hlongest ⊢
    cases hlongest with
    | nil => rfl
    | cons hr _ => exact absurd hr (hnone _)

end

end SchemaSeed
