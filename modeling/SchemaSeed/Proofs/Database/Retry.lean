import Mathlib.Algebra.Order.Floor.Div
import SchemaSeed.Database.Scripted
import SchemaSeed.Proofs.Database.Pool

/-!
# How often something is tried

Attempts that are made one after the other, each after a pause, have results whether or not
there is time for them. Trying until a deadline makes some of the first ones: all of them but
the last one fail and are logged, and the last one decides (`Faithful`). Each pause takes its
time, so that the time until the deadline bounds their number
(`retries_bounded_and_faithful`).
-/

namespace SchemaSeed.Database

namespace Endeavour

variable (e : Endeavour σ α) (s : σ)

/-! ## The attempts -/

def stateAt : Nat → σ
  | 0 => s
  | i + 1 => e.pause (e.attempt (stateAt i)).2

def stateAfter (i : Nat) : σ := (e.attempt (e.stateAt s i)).2

def resultAt (i : Nat) : Except Setback α := (e.attempt (e.stateAt s i)).1

/-- What an attempt comes to that ends at a moment and is not followed by another one: its result,
but after a failure the clock has to show when a pause would end. A sum that it cannot show breaks
the tries off. -/
def outcomeOf (result : Except Setback α) (now : Nat) : Except Setback α :=
  match result with
  | .error (.failure f) =>
    if clockEnd ≤ e.delay + now then .error (.interruption .clockOverflow)
    else .error (.failure f)
  | result => result

def outcomeAt (i : Nat) : Except Setback α :=
  e.outcomeOf (e.resultAt s i) (e.now (e.stateAfter s i))

/-- Seen from the second attempt, the others are shifted by one. -/
theorem stateAt_pause (i : Nat) :
    e.stateAt (e.pause (e.attempt s).2) i = e.stateAt s (i + 1) := by
  induction i with
  | zero => rfl
  | succ i ih =>
    rw [stateAt, ih]
    rfl

theorem resultAt_pause (i : Nat) :
    e.resultAt (e.pause (e.attempt s).2) i = e.resultAt s (i + 1) := by
  rw [resultAt, stateAt_pause, resultAt]

theorem stateAfter_pause (i : Nat) :
    e.stateAfter (e.pause (e.attempt s).2) i = e.stateAfter s (i + 1) := by
  rw [stateAfter, stateAt_pause, stateAfter]

theorem outcomeAt_pause (i : Nat) :
    e.outcomeAt (e.pause (e.attempt s).2) i = e.outcomeAt s (i + 1) := by
  rw [outcomeAt, outcomeAt, resultAt_pause, stateAfter_pause]

/-- Each pause takes at least the delay, and no attempt takes back time. By induction on the
attempts. -/
theorem now_stateAfter (i : Nat) : i * e.delay + e.now s ≤ e.now (e.stateAfter s i) := by
  induction i with
  | zero =>
    rw [Nat.zero_mul, Nat.zero_add]
    exact e.now_attempt s
  | succ i ih =>
    have hpause := e.now_pause (e.stateAfter s i)
    have hattempt := e.now_attempt (e.stateAt s (i + 1))
    calc (i + 1) * e.delay + e.now s = e.delay + (i * e.delay + e.now s) := by
          rw [Nat.succ_mul]; omega
      _ ≤ e.delay + e.now (e.stateAfter s i) := Nat.add_le_add_left ih _
      _ ≤ e.now (e.stateAt s (i + 1)) := hpause
      _ ≤ e.now (e.stateAfter s (i + 1)) := hattempt

/-- Any results, at any moments with the delay between them, are those of an endeavour. So what is
shown for all endeavours leaves no sequence of results out. -/
theorem exists_endeavour (result : Nat → Except Setback α) (begins ends : Nat → Nat)
    {delay : Nat} (hdelay : 0 < delay) (hends : ∀ i, begins i ≤ ends i)
    (hbegins : ∀ i, delay + ends i ≤ begins (i + 1)) :
    ∃ (σ : Type) (e : Endeavour σ α) (s : σ), e.delay = delay ∧ ∀ i,
      e.resultAt s i = result i ∧ e.now (e.stateAt s i) = begins i ∧
        e.now (e.stateAfter s i) = ends i := by
  -- A state is the number of an attempt, and whether it has been made.
  let e : Endeavour (Nat × Bool) α := {
    now := fun s => if s.2 then ends s.1 else begins s.1
    delay
    attempt := fun s => (result s.1, (s.1, true))
    pause := fun s => (s.1 + 1, false)
    delay_pos := hdelay
    now_attempt := by
      rintro ⟨i, made⟩
      cases made with
      | false => exact hends i
      | true => exact Nat.le_refl _
    now_pause := by
      rintro ⟨i, made⟩
      cases made with
      | false => exact Nat.le_trans (Nat.add_le_add_left (hends i) _) (hbegins i)
      | true => exact hbegins i }
  have hstate : ∀ i, e.stateAt (0, false) i = (i, false) := by
    intro i
    induction i with
    | zero => rfl
    | succ i ih => rw [stateAt, ih]
  refine ⟨Nat × Bool, e, (0, false), rfl, fun i => ?_⟩
  rw [resultAt, stateAfter, hstate]
  exact ⟨rfl, rfl, rfl⟩

/-! ## Trying until a deadline -/

/-- The tries until a deadline, the first with the given number, are the first attempts. All but the
last one were followed by a retry, which was logged. The clock decides which attempt is the last. -/
structure Faithful (deadline : Nat) (number : UInt32) (t : Tries σ α) : Prop where
  result : t.result = e.outcomeAt s t.retries.length
  state : t.state = e.stateAfter s t.retries.length
  failed : ∀ i (h : i < t.retries.length), e.resultAt s i = .error (.failure t.retries[i].2)
  numbered : ∀ i (h : i < t.retries.length), t.retries[i].1 = number + UInt32.ofNat i
  /-- There was time for the retries, and for no other one. -/
  inTime : ∀ i < t.retries.length, e.delay + e.now (e.stateAfter s i) < deadline
  late : ∀ f, t.result = .error (.failure f) → deadline ≤ e.delay + e.now t.state

variable {e} {s} {deadline : Nat} {number : UInt32}

/-- The first attempt is the only one: it came to something, or it was too late for a pause. -/
theorem Faithful.single {result : Except Setback α} (hresult : result = e.outcomeAt s 0)
    {s' : σ} (hstate : s' = e.stateAfter s 0)
    (hlate : ∀ f, result = .error (.failure f) → deadline ≤ e.delay + e.now s') :
    e.Faithful s deadline number ⟨result, s', []⟩ where
  result := hresult
  state := hstate
  failed _ h := absurd h (Nat.not_lt_zero _)
  numbered _ h := absurd h (Nat.not_lt_zero _)
  inTime _ h := absurd h (Nat.not_lt_zero _)
  late := hlate

/-- A failure with time left, before tries that are faithful from there on. -/
theorem Faithful.retry {f : Failure} {s' : σ} {t : Tries σ α}
    (h : e.attempt s = (.error (.failure f), s')) (htime : e.delay + e.now s' < deadline)
    (ht : e.Faithful (e.pause s') deadline (number + 1) t) :
    e.Faithful s deadline number { t with retries := (number, f) :: t.retries } := by
  have hs' : s' = (e.attempt s).2 := (congrArg Prod.snd h).symm
  subst hs'
  -- What comes after the first attempt was shifted by one.
  -- The result and the state, then each condition for the first retry and for the others.
  refine ⟨?_, ?_, ?_, ?_, ?_, ht.late⟩
  · rw [List.length_cons, ← outcomeAt_pause]
    exact ht.result
  · rw [List.length_cons, ← stateAfter_pause]
    exact ht.state
  · intro i hi
    cases i with
    | zero => exact congrArg Prod.fst h
    | succ i =>
      rw [← resultAt_pause]
      exact ht.failed i (Nat.lt_of_succ_lt_succ hi)
  · intro i hi
    cases i with
    | zero => exact (UInt32.add_zero number).symm
    | succ i =>
      have hnumber := ht.numbered i (Nat.lt_of_succ_lt_succ hi)
      rw [List.getElem_cons_succ, hnumber, UInt32.ofNat_add, UInt32.add_assoc,
        UInt32.add_comm 1]
      rfl
  · intro i hi
    cases i with
    | zero => exact htime
    | succ i =>
      rw [← stateAfter_pause]
      exact ht.inTime i (Nat.lt_of_succ_lt_succ hi)

theorem outcomeAt_zero {result : Except Setback α} {s' : σ} (h : e.attempt s = (result, s')) :
    e.outcomeAt s 0 = e.outcomeOf result (e.now s') := by
  rw [outcomeAt, resultAt, stateAfter, stateAt, h]

theorem outcomeOf_of_ne {result : Except Setback α}
    (h : ∀ f, result ≠ .error (.failure f)) (now : Nat) : e.outcomeOf result now = result := by
  unfold outcomeOf
  split
  · next f => exact (h f rfl).elim
  · rfl

/-- By induction on the tries: an attempt that is followed by another one comes first, and the last
one has no time for a pause, or needs none. -/
theorem tryUntil_faithful (e : Endeavour σ α) (deadline : Nat) (number : UInt32) (s : σ) :
    e.Faithful s deadline number (e.tryUntil deadline number s) := by
  -- One case for each end of the tries, and one for a retry.
  fun_induction Endeavour.tryUntil e deadline number s with
  | case1 number s f s' hfailed hclock =>
    refine .single ?_ (congrArg Prod.snd hfailed).symm fun _ h => by cases h
    rw [outcomeAt_zero hfailed]
    exact (if_pos hclock).symm
  | case2 number s f s' hfailed hclock htime t ih => exact .retry hfailed htime ih
  | case3 number s f s' hfailed hclock htime =>
    refine .single ?_ (congrArg Prod.snd hfailed).symm fun _ _ => Nat.le_of_not_lt htime
    rw [outcomeAt_zero hfailed]
    exact (if_neg hclock).symm
  | case4 number s result s' hne hend =>
    refine .single ?_ (congrArg Prod.snd hend).symm fun f hfailure => (hne f hfailure).elim
    rw [outcomeAt_zero hend, outcomeOf_of_ne hne]

/-- The pauses take up the time until the deadline, so there are not more of them than fit. The last
attempt needs no pause after it. -/
theorem Faithful.length_le {timeout : Nat} {t : Tries σ α}
    (h : e.Faithful s (timeout + e.now s) number t) :
    t.retries.length + 1 ≤ max 1 (timeout ⌈/⌉ e.delay) := by
  rcases Nat.eq_zero_or_pos t.retries.length with hzero | hpos
  · rw [hzero]
    exact Nat.le_max_left _ _
  · obtain ⟨n, hn⟩ := Nat.exists_eq_add_of_lt hpos
    have hlast : n < t.retries.length := by omega
    have htime := h.inTime n hlast
    have hnow := e.now_stateAfter s n
    -- The last retry came in time.
    have hlt : e.delay * t.retries.length < timeout := by
      have hmul : e.delay * t.retries.length = e.delay + n * e.delay := by
        rw [hn, Nat.zero_add, Nat.mul_comm, Nat.succ_mul, Nat.add_comm]
      omega
    have hceil : t.retries.length < timeout ⌈/⌉ e.delay := by
      rw [← Nat.not_le, ceilDiv_le_iff_le_mul e.delay_pos]
      exact Nat.not_le_of_lt hlt
    exact Nat.le_trans hceil (Nat.le_max_right _ _)

/-- The first retry is logged as number 1, and the numbers go on from there, in 32 bits. -/
theorem Faithful.number_eq {t : Tries σ α} (h : e.Faithful s deadline 1 t) {i : Nat}
    (hi : i < t.retries.length) : t.retries[i].1.toNat = (i + 1) % UInt32.size := by
  rw [h.numbered i hi, Nat.add_comm i 1]
  show (UInt32.ofNat 1 + UInt32.ofNat i).toNat = _
  rw [← UInt32.ofNat_add, UInt32.toNat_ofNat']

/-- Tries that are faithful and not too many, for the time that there is. -/
structure Within (e : Endeavour σ α) (timeout : Nat) (s : σ) (t : Tries σ α) : Prop where
  faithful : e.Faithful s (timeout + e.now s) 1 t
  bounded : t.retries.length + 1 ≤ max 1 (timeout ⌈/⌉ e.delay)
  /-- The numbers are 1, 2, 3 and so on, in 32 bits. -/
  counted : ∀ i (h : i < t.retries.length), t.retries[i].1.toNat = (i + 1) % UInt32.size

theorem tryUntil_within (e : Endeavour σ α) (timeout : Nat) (s : σ) :
    e.Within timeout s (e.tryUntil (timeout + e.now s) 1 s) := by
  have hfaithful := e.tryUntil_faithful (timeout + e.now s) 1 s
  exact ⟨hfaithful, hfaithful.length_le, fun _ hi => hfaithful.number_eq hi⟩

end Endeavour

/-! ## Connecting -/

variable {σ : Type} (server : Server σ)

def nanoseconds (seconds : Nat) : Nat := 1_000_000_000 * seconds

/-- A deadline that the clock can show is the sum that it should be. -/
theorem deadlineAfter_eq_some {now seconds deadline : Nat}
    (h : deadlineAfter now seconds = some deadline) : deadline = nanoseconds seconds + now := by
  simp only [deadlineAfter] at h
  split at h
  · exact (Option.some.inj h).symm
  · cases h

/-- Without a deadline nothing is tried and nothing is logged: the work is broken off before it
begins. -/
theorem connectWhenReady_of_none (connect : Connect) (options : Options) (limit : Option Nat)
    (j : Journal σ) (h : deadlineAfter (server.now j.state) options.readyTimeout = none) :
    connectWhenReady server connect options limit j =
      (.error (.interruption .clockOverflow), j) := by
  rw [connectWhenReady, h]

theorem connectWhenReady_within (connect : Connect) (options : Options) (limit : Option Nat)
    (j : Journal σ) {deadline : Nat}
    (h : deadlineAfter (server.now j.state) options.readyTimeout = some deadline) :
    ∃ t, (opening server connect options limit).Within (nanoseconds options.readyTimeout)
        j.state t ∧
      connectWhenReady server connect options limit j = (t.result, { j with
        state := t.state
        events := j.events ++ t.retries.map fun (number, f) => .connectRetry number f.text }) := by
  refine ⟨_, (opening server connect options limit).tryUntil_within _ _, ?_⟩
  rw [connectWhenReady, h, deadlineAfter_eq_some h]
  rfl

/-- Trying to connect comes to an end, and all of it shows in the log: each retry with its number
and the failure before it, and no other event. If the clock shows no deadline, there is not a single
attempt. -/
theorem retries_bounded_and_faithful (connect : Connect) (options : Options)
    (limit : Option Nat) (j : Journal σ) :
    (match deadlineAfter (server.now j.state) options.readyTimeout with
      | some _ =>
        ∃ t, (opening server connect options limit).Within (nanoseconds options.readyTimeout)
            j.state t ∧
          connectWhenReady server connect options limit j = (t.result, { j with
            state := t.state
            events := j.events ++ t.retries.map fun (number, f) =>
              .connectRetry number f.text })
      -- The clock cannot show the deadline, and nothing is tried.
      | none => connectWhenReady server connect options limit j =
          (.error (.interruption .clockOverflow), j)) ∧
    -- It is so whatever is tried, and however long.
    (∀ (σ α : Type) (e : Endeavour σ α) (timeout : Nat) (s : σ),
      e.Within timeout s (e.tryUntil (timeout + e.now s) 1 s)) ∧
    -- This is said of all sequences of results and all clocks.
    ∀ (α : Type) (result : Nat → Except Setback α) (begins ends : Nat → Nat) (delay : Nat),
      0 < delay → (∀ i, begins i ≤ ends i) → (∀ i, delay + ends i ≤ begins (i + 1)) →
      ∃ (σ : Type) (e : Endeavour σ α) (s : σ), e.delay = delay ∧ ∀ i,
        e.resultAt s i = result i ∧ e.now (e.stateAt s i) = begins i ∧
          e.now (e.stateAfter s i) = ends i := by
  refine ⟨?_, fun _ _ e => e.tryUntil_within,
    fun _ result begins ends _ => Endeavour.exists_endeavour result begins ends⟩
  cases h : deadlineAfter (server.now j.state) options.readyTimeout with
  | none => exact connectWhenReady_of_none server connect options limit j h
  | some deadline => exact connectWhenReady_within server connect options limit j h

/-- A server that accepts the first connection is not reached if the ready timeout ends at no
moment of the clock. -/
theorem connectWhenReady_overflows :
    let server := Scripted.server ⟨⟨[], [], none⟩, "/run", false, none, none⟩
    let connect : Connect := ⟨.directory "/run", 5432, some "app", none, some "shop"⟩
    let options : Options := ⟨5, 10, 9223372036854775807⟩
    let j : Journal Scripted.State := .begin ⟨3_600_000_000_000, 0⟩
    (opening server connect options none).resultAt j.state 0 = .ok () ∧
      (connectWhenReady server connect options none j).1 =
        .error (.interruption .clockOverflow) := by
  intro server connect options j
  constructor
  · decide +kernel
  · decide +kernel

end SchemaSeed.Database
