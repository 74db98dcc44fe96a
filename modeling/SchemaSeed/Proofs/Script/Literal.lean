import SchemaSeed.Proofs.Text.Stops
import SchemaSeed.Script.Comment

/-!
# Where a literal ends

After its opening quote a literal is read in pairs of quotes and characters that are no
quotes. The first quote outside a pair closes it. When there is none, one quote of the
last pair has to close it, and the other one is left behind.

`Closes` says this of the text before and after a closing quote, and
`afterLiteral_eq_some_iff` says that the scan finds this quote and no other.
-/

namespace SchemaSeed.Script

open Text (Stops stops_nil stops_cons stops_append)

variable {body rest cs tail : List Char}

inductive Paired : List Char → Prop where
  | nil : Paired []
  | plain {c : Char} {cs : List Char} : c ≠ '\'' → Paired cs → Paired (c :: cs)
  | pair {cs : List Char} : Paired cs → Paired ('\'' :: '\'' :: cs)

/-- Between `body` and `rest`, a quote closes the literal that was opened before `body`. -/
inductive Closes (body : List Char) : List Char → Prop where
  /-- The quote is the first one outside a pair. -/
  | single {rest : List Char} : Paired body → Stops (· == '\'') rest → Closes body rest
  /-- All quotes come in pairs, and the quote is the first one of the last pair. -/
  | lastPair {tail : List Char} : Paired body → '\'' ∉ tail → Closes body ('\'' :: tail)

/-! ## Paired texts -/

theorem paired_of_notMem (h : '\'' ∉ cs) : Paired cs := by
  induction cs with
  | nil => exact .nil
  | cons c cs ih =>
    simp only [List.mem_cons, not_or] at h
    exact .plain (Ne.symm h.1) (ih h.2)

/-- Pairs do not run over from one text into another. -/
theorem Paired.append {as bs : List Char} (ha : Paired as) (hb : Paired bs) :
    Paired (as ++ bs) := by
  induction ha with
  | nil => exact hb
  | plain hc _ ih => exact .plain hc ih
  | pair _ ih => exact .pair ih

theorem Closes.paired (h : Closes body rest) : Paired body := by
  cases h with
  | single hbody _ => exact hbody
  | lastPair hbody _ => exact hbody

/-- The quote that closes a literal is found by what follows it. -/
theorem Closes.of_paired {front : List Char} (h : Closes body rest) (hfront : Paired front) :
    Closes front rest := by
  cases h with
  | single _ hrest => exact .single hfront hrest
  | lastPair _ htail => exact .lastPair hfront htail

/-! ## The scan -/

/-- A character that is no quote is part of the literal. -/
theorem afterLiteral_plain {c : Char} (h : c ≠ '\'') (cs : List Char) :
    afterLiteral (c :: cs) = afterLiteral cs := by
  cases cs with
  | nil => simp [afterLiteral, h]
  | cons d cs => rw [afterLiteral, if_neg h]

/-- Behind a pair the scan goes on, and if there is no more quote to end the literal, it comes back
to the second quote of the pair. -/
theorem afterLiteral_pair (cs : List Char) :
    afterLiteral ('\'' :: '\'' :: cs) = some ((afterLiteral cs).getD ('\'' :: cs)) := by
  rw [afterLiteral, if_pos rfl, if_pos rfl]

/-- A quote that no other one follows ends the literal at once. -/
theorem afterLiteral_single (h : Stops (· == '\'') rest) :
    afterLiteral ('\'' :: rest) = some rest := by
  cases rest with
  | nil => rfl
  | cons d rest =>
    have hd : d ≠ '\'' := by simpa using h d rfl
    rw [afterLiteral, if_pos rfl, if_neg hd]

/-- A literal needs no more than a second quote. Whether that quote is one of a pair decides where
it ends, but not that it ends. -/
theorem afterLiteral_eq_none_iff : afterLiteral cs = none ↔ '\'' ∉ cs := by
  fun_induction afterLiteral cs with
  | case1 => simp
  | case2 => simp
  | case3 c hc => simp [Ne.symm hc]
  | case4 => simp
  | case5 => simp
  | case6 c d rest hc ih => rw [ih, List.mem_cons (b := c), not_or, and_iff_right (Ne.symm hc)]

/-- The scan finds the quote that closes the literal. By induction on the pairs before it. -/
theorem Closes.afterLiteral_eq (h : Closes body rest) :
    afterLiteral (body ++ '\'' :: rest) = some rest := by
  induction h.paired with
  | nil =>
    cases h with
    | single _ hrest => exact afterLiteral_single hrest
    | lastPair _ htail =>
      rw [List.nil_append, afterLiteral_pair, afterLiteral_eq_none_iff.2 htail]
      rfl
  | plain hc hbody ih =>
    rw [List.cons_append, afterLiteral_plain hc]
    exact ih (h.of_paired hbody)
  | pair hbody ih =>
    rw [List.cons_append, List.cons_append, afterLiteral_pair, ih (h.of_paired hbody)]
    rfl

/-- Whatever the scan finds closes the literal. The cases are those of the scan: the text ends, a
pair, a single quote, or another character. -/
theorem exists_closes (h : afterLiteral cs = some rest) :
    ∃ body, cs = body ++ '\'' :: rest ∧ Closes body rest := by
  -- The scan goes by pairs of quotes, and so does the induction.
  fun_induction afterLiteral cs generalizing rest with
  | case1 => cases h
  | case2 =>
    cases h
    exact ⟨[], rfl, .single .nil stops_nil⟩
  | case3 => cases h
  | case4 tail ih =>
    cases hafter : afterLiteral tail with
    | none =>
      rw [hafter] at h
      cases h
      exact ⟨[], rfl, .lastPair .nil (afterLiteral_eq_none_iff.1 hafter)⟩
    | some after =>
      rw [hafter] at h
      cases h
      obtain ⟨body, rfl, hclose⟩ := ih hafter
      exact ⟨'\'' :: '\'' :: body, rfl, hclose.of_paired (.pair hclose.paired)⟩
  | case5 d tail hd =>
    cases h
    exact ⟨[], rfl, .single .nil (stops_cons (by simpa using hd))⟩
  | case6 c d tail hc ih =>
    obtain ⟨body, hbody, hclose⟩ := ih h
    exact ⟨c :: body, by rw [hbody]; rfl, hclose.of_paired (.plain hc hclose.paired)⟩

/-- The scan of a literal ends behind the quote that closes it. So the choice between the two ways
to close a literal is what the scan does, no more and no less. -/
theorem afterLiteral_eq_some_iff :
    afterLiteral cs = some rest ↔ ∃ body, cs = body ++ '\'' :: rest ∧ Closes body rest := by
  constructor
  · exact exists_closes
  · rintro ⟨body, rfl, hclose⟩
    exact hclose.afterLiteral_eq

/-- A literal that a quote outside a pair closes ends there whatever follows, unless another
quote comes at once. -/
theorem Closes.append {more : List Char} (h : Closes body rest)
    (hpair : ∀ tail, rest = '\'' :: tail → '\'' ∈ tail)
    (hmore : rest = [] → Stops (· == '\'') more) : Closes body (rest ++ more) := by
  cases h with
  | single hbody hrest =>
    refine .single hbody ?_
    cases rest with
    | nil => exact hmore rfl
    | cons c rest => exact stops_cons (hrest c rfl)
  | @lastPair tail _ htail => exact absurd (hpair tail rfl) htail

end SchemaSeed.Script
