import Mathlib.Data.List.Pairwise
import SchemaSeed.Proofs.Dependency.Arrival
import SchemaSeed.Proofs.Dependency.Depth

/-!
# Which of several orders is taken

The order follows the references, and where these leave a choice the queue decides: first
come, first served. So whatever stands earlier either refers to nothing, or has its last
placed reference earlier, or has the same one and refers to it for the last time earlier
(`pairwise_follows`). The depths never go down along the order (`pairwise_depth`), and among
tables of one depth nothing is left open.
-/

namespace SchemaSeed

open Facts DependencyGraph

variable {facts : List TableDependency} {order : List String} {s t u v : String}

/-- In reading order, the last reference from `s` to `u` comes before that from `t`. -/
def Facts.LastReferenceEarlier (facts : List TableDependency) (u s t : String) : Prop :=
  ∃ before after, edges facts = before ++ (s, u) :: after ∧ (s, u) ∉ after ∧ (t, u) ∈ after

/-! ## Two tables that wait for the same one -/

/-- Of two elements, that comes first in a list without repetitions whose last occurrence in the
list is first. By induction on the edges, since what is kept of a repetition is the last one. -/
theorem pairwise_dedup_lastReference (es : List (String × String)) (u : String) :
    ((es.filter fun edge => edge.2 == u).map (·.1)).dedup.Pairwise fun s t =>
      ∃ before after, es = before ++ (s, u) :: after ∧ (s, u) ∉ after ∧ (t, u) ∈ after := by
  induction es with
  | nil => exact List.Pairwise.nil
  | cons edge es ih =>
    obtain ⟨c, r⟩ := edge
    have hrest := ih.imp fun {s t} ⟨before, after, heq, hs, ht⟩ =>
      (⟨(c, r) :: before, after, by rw [heq]; rfl, hs, ht⟩ : ∃ before after,
        (c, r) :: es = before ++ (s, u) :: after ∧ (s, u) ∉ after ∧ (t, u) ∈ after)
    by_cases hr : r = u
    · subst hr
      have hmem : ∀ t, t ∈ (es.filter fun edge => edge.2 == r).map (·.1) ↔ (t, r) ∈ es := by
        simp
      rw [List.filter_cons_of_pos (by simp), List.map_cons]
      by_cases hc : c ∈ (es.filter fun edge => edge.2 == r).map (·.1)
      · rwa [List.dedup_cons_of_mem hc]
      · rw [List.dedup_cons_of_notMem hc, List.pairwise_cons]
        refine ⟨fun t ht => ⟨[], es, rfl, mt (hmem c).2 hc, ?_⟩, hrest⟩
        exact (hmem t).1 (List.mem_dedup.1 ht)
    · rwa [List.filter_cons_of_neg (by simpa using hr)]

/-- Only one of two last references is the earlier one: both ways of cutting the edges would put
each of them in front of the other. -/
theorem Facts.LastReferenceEarlier.asymm (h : LastReferenceEarlier facts u s t) :
    ¬ LastReferenceEarlier facts u t s := by
  rintro ⟨before', after', heq', ht', hs'⟩
  obtain ⟨before, after, heq, hs, ht⟩ := h
  rw [heq] at heq'
  -- One of the two places is in what follows the other.
  rcases List.append_eq_append_iff.1 heq' with ⟨gap, -, hgap⟩ | ⟨gap, -, hgap⟩
  · cases gap with
    | nil =>
      cases hgap
      exact ht' ht
    | cons edge gap =>
      cases hgap
      exact hs (List.mem_append_right _ (List.mem_cons_of_mem _ hs'))
  · cases gap with
    | nil =>
      cases hgap
      exact ht' ht
    | cons edge gap =>
      cases hgap
      exact ht' (List.mem_append_right _ (List.mem_cons_of_mem _ ht))

/-! ## First come, first served -/

/-- The table `s` may stand before `t`, if both refer to something: its last placed
reference is placed before that of `t`, or it is the same and was used earlier. -/
structure Follows (facts : List TableDependency) (order : List String) (s t : String) :
    Prop where
  refers : ∀ {r}, Refers facts s r → ∃ r', Refers facts t r'
  ahead : ∀ {u v}, IsLastPlaced facts order s u → IsLastPlaced facts order t v →
    order.idxOf u < order.idxOf v ∨ u = v ∧ LastReferenceEarlier facts u s t

/-- A list without repetitions is in the order of its own places. -/
theorem pairwise_idxOf_lt {names : List String} (h : names.Nodup) :
    names.Pairwise fun s t => names.idxOf s < names.idxOf t := by
  rw [List.pairwise_iff_getElem]
  intro i j hi hj hlt
  rwa [h.idxOf_getElem i hi, h.idxOf_getElem j hj]

section
variable (h : orderTables facts = .ok order)
include h

/-- Any two tables of the order follow each other by the rule. The order is taken apart as
`order_eq` has it: roots come first, then what each table releases, and these are compared within
one release and between two. -/
theorem pairwise_follows : order.Pairwise (Follows facts order) := by
  have hroot : ∀ s ∈ roots facts, ∀ r, ¬ Refers facts s r :=
    fun s hs => ((mem_roots h).1 hs).2
  -- From here on `order` is taken apart, and kept as the list in which places are counted.
  have hall : (roots facts ++ order.flatMap (released facts order)).Pairwise
      (Follows facts order) := by
    refine List.pairwise_append.2 ⟨?_, List.pairwise_flatMap.2 ⟨?_, ?_⟩, ?_⟩
    -- Between roots there is nothing to show, as they refer to nothing.
    · refine List.pairwise_of_forall_mem_list fun s hs t _ => ?_
      exact ⟨fun hr => absurd hr (hroot s hs _), fun hu => absurd hu.1 (hroot s hs _)⟩
    -- Released by the same table: the last references to it decide.
    · intro u _
      have hpairs : (released facts order u).Pairwise (LastReferenceEarlier facts u) :=
        (pairwise_dedup_lastReference (edges facts) u).filter _
      refine List.Pairwise.imp_of_mem ?_ hpairs
      intro s t hs ht hearlier
      have hlast := (mem_released h).1 hs
      have hlast' := (mem_released h).1 ht
      refine ⟨fun _ => ⟨u, hlast'.1⟩, fun hu hv => .inr ?_⟩
      obtain rfl := hu.unique h hlast
      exact ⟨(hv.unique h hlast').symm, hearlier⟩
    -- Released by two tables: these are the references that are placed last.
    · refine (pairwise_idxOf_lt (nodup_order h)).imp ?_
      intro u v hlt s hs t ht
      have hlast := (mem_released h).1 hs
      have hlast' := (mem_released h).1 ht
      refine ⟨fun _ => ⟨v, hlast'.1⟩, fun hu hv => .inl ?_⟩
      rwa [hu.unique h hlast, hv.unique h hlast']
    · intro s hs t _
      exact ⟨fun hr => absurd hr (hroot s hs _), fun hu => absurd hu.1 (hroot s hs _)⟩
  rwa [← order_eq h] at hall

/-- What holds of every two tables in a row holds of two given ones, by their places. -/
theorem follows_of_idxOf_lt (ht : t ∈ order) (hlt : order.idxOf s < order.idxOf t) :
    Follows facts order s t := by
  have hends := List.idxOf_lt_length_of_mem ht
  have hpairs := List.pairwise_iff_getElem.1 (pairwise_follows h) _ _ (hlt.trans hends) hends hlt
  rwa [List.getElem_idxOf, List.getElem_idxOf] at hpairs

/-- By induction on the place of `t`: depths come with the last placed references. These are placed
earlier, and in the order of their depths by induction. -/
theorem depth_le_of_idxOf_lt (ht : t ∈ order) (hlt : order.idxOf s < order.idxOf t) :
    depth facts s ≤ depth facts t := by
  induction hplace : order.idxOf t using Nat.strongRecOn generalizing s t with
  | ind n ih =>
    subst hplace
    by_cases hs : ∃ r, Refers facts s r
    · obtain ⟨r, hr⟩ := hs
      have hfollows := follows_of_idxOf_lt h ht hlt
      obtain ⟨r', hr'⟩ := hfollows.refers hr
      obtain ⟨u, hu⟩ := exists_isLastPlaced h hr
      obtain ⟨v, hv⟩ := exists_isLastPlaced h hr'
      have hut := (idxOf_lt_of_refers h hu.1).trans hlt
      have hvt := idxOf_lt_of_refers h hv.1
      -- The last placed references are in the right order, and come before `t`.
      have huv : depth facts u ≤ depth facts v := by
        rcases hfollows.ahead hu hv with hbefore | ⟨rfl, -⟩
        · exact ih _ hvt (mem_order_of_refers h hv.1) hbefore rfl
        · exact Nat.le_refl _
      -- No reference of `s` is deeper than the one that is placed last.
      have hsu : depth facts s ≤ depth facts u + 1 := by
        refine depth_le_succ h fun r hr => ?_
        rcases Nat.lt_or_eq_of_le (hu.2 r hr) with hbefore | hsame
        · exact ih _ hut (mem_order_of_refers h hu.1) hbefore rfl
        · rw [(List.idxOf_inj (mem_order_of_refers h hr)).1 hsame]
      have hvt := depth_lt_of_refers h hv.1
      omega
    · rw [(depth_eq_zero h).2 fun r hr => hs ⟨r, hr⟩]
      exact Nat.zero_le _

/-- The order never goes down in depth, so it is an order by levels. -/
theorem pairwise_depth : order.Pairwise fun s t => depth facts s ≤ depth facts t := by
  refine List.Pairwise.imp_of_mem ?_ (pairwise_idxOf_lt (nodup_order h))
  intro s t _ ht hlt
  exact depth_le_of_idxOf_lt h ht hlt

/-- What refers to nothing comes in the order of its discovery. The roots are in front, and nothing
behind them has depth zero. -/
theorem filter_depth_eq_zero :
    order.filter (depth facts · = 0) = (tables facts).filter (depth facts · = 0) := by
  have hdepth : ∀ t, depth facts t = 0 ↔ (references facts t).length = 0 := by
    intro t
    rw [depth_eq_zero h, List.length_eq_zero_iff, List.eq_nil_iff_forall_not_mem]
    simp only [mem_references]
  -- A released table has a reference, and so it is not at depth zero.
  have hreleased : (order.flatMap (released facts order)).filter (depth facts · = 0) = [] := by
    rw [List.filter_eq_nil_iff]
    intro t ht hzero
    obtain ⟨u, -, htu⟩ := List.mem_flatMap.1 ht
    exact (depth_eq_zero h).1 (of_decide_eq_true hzero) u ((mem_released h).1 htu).1
  have hroots : (roots facts).filter (depth facts · = 0) =
      (tables facts).filter (depth facts · = 0) := by
    rw [roots, List.filter_filter]
    refine List.filter_congr fun t _ => ?_
    simp [hdepth]
  calc order.filter (depth facts · = 0)
      = (roots facts ++ order.flatMap (released facts order)).filter (depth facts · = 0) := by
        rw [← order_eq h]
    _ = (tables facts).filter (depth facts · = 0) := by
        rw [List.filter_append, hroots, hreleased, List.append_nil]

/-- The order of two tables that refer to something is that of their last placed
references, or of their last references to the same one. -/
theorem idxOf_lt_iff (hs : s ∈ order) (ht : t ∈ order) (hu : IsLastPlaced facts order s u)
    (hv : IsLastPlaced facts order t v) : order.idxOf s < order.idxOf t ↔
      order.idxOf u < order.idxOf v ∨ u = v ∧ LastReferenceEarlier facts u s t := by
  constructor
  · intro hlt
    exact (follows_of_idxOf_lt h ht hlt).ahead hu hv
  · intro hahead
    by_contra hnot
    rcases Nat.lt_or_eq_of_le (Nat.le_of_not_lt hnot) with hlt | hsame
    · rcases (follows_of_idxOf_lt h hs hlt).ahead hv hu with hback | ⟨rfl, hearlier⟩
      · rcases hahead with hahead | ⟨rfl, -⟩ <;> omega
      · rcases hahead with hahead | ⟨-, hahead⟩
        · exact Nat.lt_irrefl _ hahead
        · exact hahead.asymm hearlier
    · obtain rfl := (List.idxOf_inj ht).1 hsame
      obtain rfl := hu.unique h hv
      rcases hahead with hahead | ⟨-, hahead⟩
      · exact Nat.lt_irrefl _ hahead
      · exact hahead.asymm hahead

end

/-! ## The order, determined -/

/-- The order never goes down in depth. Tables without references come in the order of their
discovery, and others of the same depth in the order of their last placed references or,
where these are the same, of their last references to it. -/
theorem orderTables_breaks_ties (h : orderTables facts = .ok order) :
    (∀ t, IsGreatest {n | HasChain facts t n} (depth facts t)) ∧
    order.Pairwise (fun s t => depth facts s ≤ depth facts t) ∧
    order.filter (depth facts · = 0) = (tables facts).filter (depth facts · = 0) ∧
    ∀ s ∈ order, ∀ t ∈ order, depth facts s = depth facts t → 0 < depth facts s →
      ∃ u v, IsLastPlaced facts order s u ∧ IsLastPlaced facts order t v ∧
        (order.idxOf s < order.idxOf t ↔
          order.idxOf u < order.idxOf v ∨ u = v ∧ LastReferenceEarlier facts u s t) := by
  refine ⟨isGreatest_depth h, pairwise_depth h, filter_depth_eq_zero h, ?_⟩
  have hlast : ∀ t, 0 < depth facts t → ∃ u, IsLastPlaced facts order t u := by
    intro t hpos
    have hrefers : ∃ r, Refers facts t r := by
      by_contra hnone
      have := (depth_eq_zero h).2 (not_exists.1 hnone)
      omega
    obtain ⟨r, hr⟩ := hrefers
    exact exists_isLastPlaced h hr
  intro s hs t ht hsame hpos
  obtain ⟨u, hu⟩ := hlast s hpos
  obtain ⟨v, hv⟩ := hlast t (hsame ▸ hpos)
  exact ⟨u, v, hu, hv, idxOf_lt_iff h hs ht hu hv⟩

/-- Two tables that refer to the same one, the first of them again at the end. So its last reference
is later, although it was named first. -/
def scattered : List TableDependency :=
  [⟨"orders", ["users"]⟩, ⟨"invoices", ["users", "users"]⟩, ⟨"payments", ["invoices"]⟩,
    ⟨"orders", ["users"]⟩]

/-- The table whose last reference is earlier comes first, and not the one that was named first. -/
theorem orderTables_scattered :
    orderTables scattered = .ok ["users", "invoices", "orders", "payments"] ∧
      depth scattered "invoices" = depth scattered "orders" ∧
      0 < depth scattered "invoices" ∧
      LastReferenceEarlier scattered "users" "invoices" "orders" := by
  have h : orderTables scattered = .ok ["users", "invoices", "orders", "payments"] := by
    with_unfolding_all rfl
  obtain ⟨-, -, -, hties⟩ := orderTables_breaks_ties h
  have hinvoices : ∀ r, Refers scattered "invoices" r ↔ r = "users" := by
    simp [Refers, scattered]
  have horders : ∀ r, Refers scattered "orders" r ↔ r = "users" := by
    simp [Refers, scattered]
  have hroot : depth scattered "users" = 0 := by
    rw [depth_eq_zero h]
    simp [Refers, scattered]
  -- Both tables refer to `users` only, which puts them one level above it.
  have hone : ∀ t, (∀ r, Refers scattered t r ↔ r = "users") → depth scattered t = 1 := by
    intro t hrefers
    have hpos := depth_lt_of_refers h ((hrefers "users").2 rfl)
    have hle := depth_le_succ h (n := 0) fun r hr => by rw [(hrefers r).1 hr, hroot]
    omega
  have hsame := (hone "invoices" hinvoices).trans (hone "orders" horders).symm
  have hpos : 0 < depth scattered "invoices" := hone "invoices" hinvoices ▸ Nat.one_pos
  obtain ⟨u, v, hu, hv, hiff⟩ := hties "invoices" (by simp) "orders" (by simp) hsame hpos
  obtain rfl := (hinvoices u).1 hu.1
  obtain rfl := (horders v).1 hv.1
  refine ⟨h, hsame, hpos, ?_⟩
  rcases hiff.1 (by decide) with hbefore | ⟨-, hearlier⟩
  · exact absurd hbefore (Nat.lt_irrefl _)
  · exact hearlier

end SchemaSeed
