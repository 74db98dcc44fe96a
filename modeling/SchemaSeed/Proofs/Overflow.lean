import SchemaSeed.Database.Seeding
import SchemaSeed.Proofs.Database.Retry
import SchemaSeed.Proofs.Run.Outcome
import SchemaSeed.Settings

/-!
# Where the arithmetic of a run ends

A run adds up three things that nothing bounds beforehand: the ready timeout of the settings to
the moment at which it starts, the attempts to connect, and the rows that the inserts report.
Each sum is exact as long as its integer holds it, and it is known from which timeout, number
of attempts, or number of rows on it does not (`run_arithmetic_exact_iff`). Settings that can
be loaded go beyond that (`load_admits_overflow`).
-/

namespace SchemaSeed

open Database (Connect Endeavour Interruption Journal Scripted Server Setback Tries deadlineAfter
  nanoseconds retryDelay)

/-! ## The deadline -/

namespace Database

/-- The clock shows moments whose seconds fit a signed integer of 64 bits. Nanoseconds do not carry
over, since a timeout is in full seconds. -/
theorem deadlineAfter_eq_ite (now seconds : Nat) :
    deadlineAfter now seconds =
      if now / 1_000_000_000 + seconds < 2 ^ 63 then some (nanoseconds seconds + now)
      else none := by
  have hrange : 1_000_000_000 * seconds + now < 9_223_372_036_854_775_808 * 1_000_000_000 ↔
      now / 1_000_000_000 + seconds < 2 ^ 63 := by omega
  simp only [deadlineAfter, clockEnd, hrange, nanoseconds]

/-- Without a deadline the run is broken off at once, with nothing logged and nothing sent. -/
theorem runOn_of_deadline_eq_none {σ : Type} (server : Server σ) (connect : Connect)
    {options : Options} (limit : Option Nat) (schema mockData : String) {j : Journal σ}
    (h : deadlineAfter (server.now j.state) options.readyTimeout = none) :
    runOn server connect options limit schema mockData j = (.error .clockOverflow, j) := by
  rw [runOn, connectWhenReady_of_none server connect options limit j h]

/-! ## The number of an attempt -/

/-- The tries take more attempts than 32 bits can number. The number of the last one is then no more
what it should be. -/
def Tries.Outnumber {σ α : Type} (t : Tries σ α) : Prop := UInt32.size ≤ t.retries.length + 1

namespace Endeavour

variable {σ α : Type} {e : Endeavour σ α} {s : σ} {seconds : Nat} {t : Tries σ α}

/-- Four attempts to a second, and one for no time at all. The pause between two of them is a
quarter of a second. -/
theorem Within.length_le (h : e.Within (nanoseconds seconds) s t) (hdelay : e.delay = retryDelay) :
    t.retries.length + 1 ≤ max 1 (4 * seconds) := by
  have hceil : nanoseconds seconds ⌈/⌉ e.delay ≤ 4 * seconds := by
    rw [ceilDiv_le_iff_le_mul e.delay_pos, hdelay, nanoseconds, retryDelay]
    omega
  exact Nat.le_trans h.bounded (max_le_max_left 1 hceil)

/-- Tries that are not too many have the numbers 1, 2, 3 and so on, as the log says. -/
theorem Within.number_eq {timeout : Nat} (h : e.Within timeout s t) (hcount : ¬t.Outnumber)
    {i : Nat} (hi : i < t.retries.length) : t.retries[i].1.toNat = i + 1 := by
  rw [Tries.Outnumber] at hcount
  rw [h.counted i hi, Nat.mod_eq_of_lt (by omega)]

/-- Attempts that take no time and all fail fill the time until the deadline. From 2³⁰ seconds on,
there are too many of them. -/
theorem exists_outnumber (α : Type) {seconds : Nat} (hlong : 2 ^ 30 ≤ seconds) :
    ∃ (σ : Type) (e : Endeavour σ α) (s : σ), e.delay = retryDelay ∧
      (e.tryUntil (nanoseconds seconds + e.now s) 1 s).Outnumber := by
  -- An attempt begins and ends when all pauses before it are over.
  obtain ⟨σ, e, s, hdelay, hall⟩ :=
    exists_endeavour (α := α) (fun _ => .error (.failure .poolTimedOut)) (fun i => i * retryDelay)
      (fun i => i * retryDelay) Database.retryDelay_pos (fun _ => Nat.le_refl _)
      (fun i => by rw [Nat.succ_mul, Nat.add_comm])
  refine ⟨σ, e, s, hdelay, ?_⟩
  have hwithin := e.tryUntil_within (nanoseconds seconds) s
  generalize e.tryUntil (nanoseconds seconds + e.now s) 1 s = t at hwithin
  have hfaithful := hwithin.faithful
  have hnow : e.now s = 0 := (hall 0).2.1.trans (Nat.zero_mul _)
  -- The last attempt failed, too late for a pause or for the clock.
  have hlate : 1_000_000_000 * 2 ^ 30 ≤ e.delay + e.now t.state := by
    rw [hfaithful.state]
    by_cases hclock : clockEnd ≤ e.delay + e.now (e.stateAfter s t.retries.length)
    · exact Nat.le_trans (by rw [clockEnd]; omega) hclock
    · have hresult : t.result = .error (.failure .poolTimedOut) := by
        rw [hfaithful.result, outcomeAt, (hall _).1]
        exact if_neg hclock
      have hlate := hfaithful.late _ hresult
      rw [hfaithful.state, hnow, nanoseconds] at hlate
      omega
  rw [hfaithful.state, (hall _).2.2, hdelay, retryDelay] at hlate
  rw [Tries.Outnumber, show UInt32.size = 4 * 2 ^ 30 from rfl]
  omega

/-- The attempts can be numbered if, and only if, they have less than 2³⁰ seconds. -/
theorem not_outnumber_iff (seconds : Nat) :
    (∀ (σ α : Type) (e : Endeavour σ α) (s : σ), e.delay = retryDelay →
      ¬(e.tryUntil (nanoseconds seconds + e.now s) 1 s).Outnumber) ↔ seconds < 2 ^ 30 := by
  -- More time admits an endeavour that fills it; less does not leave room for so many pauses.
  constructor
  · intro h
    by_contra hlong
    obtain ⟨σ, e, s, hdelay, hmany⟩ := exists_outnumber Unit (Nat.le_of_not_lt hlong)
    exact h σ Unit e s hdelay hmany
  · intro hshort σ α e s hdelay hmany
    have hlength := (e.tryUntil_within (nanoseconds seconds) s).length_le hdelay
    rw [Tries.Outnumber, show UInt32.size = 4 * 2 ^ 30 from rfl] at hmany
    omega

end Endeavour

end Database

/-! ## The sum of the rows -/

/-- A number is shown as it is just when 64 bits hold it. -/
theorem toString_ofNat_eq_iff {n : Nat} :
    toString (UInt64.ofNat n) = toString n ↔ n < UInt64.size := by
  refine ⟨fun h => ?_, toString_ofNat_of_lt⟩
  have hdigits : Nat.toDigits 10 (UInt64.ofNat n).toNat = Nat.toDigits 10 n := String.ofList_inj.1 h
  have hvalue := congrArg (Nat.ofDigitChars 10 · 0) hdigits
  simp only [Nat.ofDigitChars_toDigits (b := 10) (by decide) (by decide)] at hvalue
  rw [← hvalue]
  exact UInt64.toNat_lt_size _

/-- The metric is the sum of the rows that the inserts reported, if 64 bits hold it. Otherwise it is
shown modulo 2⁶⁴. -/
theorem rowsInserted_exact_iff {τ : Type} {alive : Except String Unit} {started : Nat}
    {schema mockData : String} {applied inserted : List Issued} {t : Trace τ Outcome}
    (h : Account alive started schema mockData applied inserted t) :
    t.result.report.metrics.get? Report.rowsInsertedMetric =
        some (toString (affectedRows inserted)) ↔ affectedRows inserted < UInt64.size := by
  rw [h.closed.rowsInserted, rowsInserted_ofAnswers, Option.some.injEq, toString_ofNat_eq_iff]

/-! ## All of a run -/

/-- The deadline of a run is the moment at which the ready timeout ends, as long as the clock
can show it; otherwise the run is broken off before anything is tried. Whatever comes of the
attempts to connect, they can be numbered if, and only if, the timeout is less than 2³⁰
seconds. The rows that are reported are those that were inserted if, and only if, they are
less than 2⁶⁴. -/
theorem run_arithmetic_exact_iff {σ τ : Type} (server : Server σ) (settings : Settings)
    (connect : Connect) (limit : Option Nat) (schema mockData : String) (j : Journal σ)
    (executor : Executor τ) (s : τ) :
    let seconds := settings.database.readyTimeoutSecs.toNat
    let start := server.now j.state
    (deadlineAfter start settings.options.readyTimeout = some (nanoseconds seconds + start) ↔
      start / 1_000_000_000 + seconds < 2 ^ 63) ∧
    (2 ^ 63 ≤ start / 1_000_000_000 + seconds →
      Database.runOn server connect settings.options limit schema mockData j =
        (.error .clockOverflow, j)) ∧
    ((∀ (σ α : Type) (e : Endeavour σ α) (s : σ), e.delay = retryDelay →
      ¬(e.tryUntil (nanoseconds seconds + e.now s) 1 s).Outnumber) ↔ seconds < 2 ^ 30) ∧
    (∀ (σ α : Type) (e : Endeavour σ α) (s : σ),
      let t := e.tryUntil (nanoseconds seconds + e.now s) 1 s
      ¬t.Outnumber → ∀ i (h : i < t.retries.length), t.retries[i].1.toNat = i + 1) ∧
    ∃ applied inserted,
      (executor.run schema mockData s).issued = applied ++ inserted ∧
      inserted.map (fun i => some i.sql) =
        (Run.seedingPlan (executor.ping s).1 schema mockData).map
          (fun (table, rows) => Sql.insertStatement table rows) ∧
      ((executor.run schema mockData s).result.report.metrics.get? "rows_inserted" =
        some (toString (affectedRows inserted)) ↔ affectedRows inserted < 2 ^ 64) := by
  intro seconds start
  have hdeadline := Database.deadlineAfter_eq_ite start seconds
  -- The deadline, the run that has none, the attempts and their numbers, and the sum of the rows.
  refine ⟨?_, fun hlate => ?_, Endeavour.not_outnumber_iff seconds,
    fun σ α e s hcount i hi => ?_, ?_⟩
  · show deadlineAfter start seconds = _ ↔ _
    rw [hdeadline]
    split <;> simp_all
  · refine Database.runOn_of_deadline_eq_none server connect limit schema mockData ?_
    show deadlineAfter start seconds = none
    rw [hdeadline, if_neg (Nat.not_lt_of_le hlate)]
  · exact (e.tryUntil_within (nanoseconds seconds) s).number_eq hcount hi
  · obtain ⟨applied, inserted, h⟩ := run_account executor schema mockData s
    exact ⟨applied, inserted, h.issued, h.insertedSql, rowsInserted_exact_iff h⟩

/-- Settings can be loaded whose ready timeout ends at no moment of the clock, so that the run is
broken off on a server that would accept the first connection; and others that leave time for
more attempts than can be numbered. -/
theorem load_admits_overflow :
    let files (seconds : String) := Files.Tree.ofFiles [
      ("seedcheck.toml", .text ("[database]\nready_timeout_secs = " ++ seconds ++ "\n"))]
    let server := Scripted.server ⟨⟨[], [], none⟩, "/run", false, none, none⟩
    let connect : Connect := ⟨.directory "/run", 5432, some "app", none, some "shop"⟩
    let j : Journal Scripted.State := .begin ⟨3_600_000_000_000, 0⟩
    (∃ settings, Settings.load (files "9223372036854775807") [] none = .ok settings ∧
      (Database.runOn server connect settings.options none "" "\x7b\x7d" j).1 =
        .error .clockOverflow) ∧
    ∃ settings, Settings.load (files "1073741824") [] none = .ok settings ∧
      ∃ (σ : Type) (e : Endeavour σ Unit) (s : σ), e.delay = retryDelay ∧
        (e.tryUntil (nanoseconds settings.options.readyTimeout + e.now s) 1 s).Outnumber := by
  intro files server connect j
  refine ⟨⟨⟨⟨"0.0.0.0:8080", 120⟩, ⟨none, 5, 10, 9223372036854775807⟩, ⟨.json, "info", none⟩⟩,
    ?_, ?_⟩, ⟨⟨"0.0.0.0:8080", 120⟩, ⟨none, 5, 10, 1073741824⟩, ⟨.json, "info", none⟩⟩, ?_,
    Endeavour.exists_outnumber Unit (Nat.le_refl _)⟩
  · decide +kernel
  · have hdeadline : deadlineAfter (server.now j.state) 9223372036854775807 = none := by
      decide +kernel
    rw [Database.runOn_of_deadline_eq_none server connect none "" "\x7b\x7d" hdeadline]
  · decide +kernel

end SchemaSeed
