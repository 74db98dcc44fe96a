import SchemaSeed.Json.Record
import SchemaSeed.Proofs.Json.Containers

/-!
# Reading records member by member

A member takes a draft to the next one: a known field that is not set yet by its own reader,
and any other member not at all, whatever value it has. An object whose members take the blank
draft to a complete one is read as the record that is built from it
(`RecordReader.read_object`).
-/

namespace SchemaSeed.Json

theorem ReadsValue.map {α β : Type} {item : Reader α} {cs : List Char} {a : α}
    (h : ReadsValue item cs a) (f : α → β) :
    ReadsValue (fun cs => (item cs).map (·.map f)) cs (f a) := by
  intro w rest hw hrest
  obtain ⟨shorter, hread⟩ := h hw hrest
  refine ⟨shorter, ?_⟩
  dsimp only
  rw [hread]
  rfl

namespace RecordReader

variable {σ : Type} {α : Type} {r : RecordReader σ α} {state state' : σ}
  {fields : List (String × List Char)} {cs ds rest : List Char}

/-- The reader of the record takes a member, with its name and the text of its value, from one draft
to the next. A field must not have been set before; an unknown member may have any value. -/
inductive TakesIn (r : RecordReader σ α) : σ → String × List Char → σ → Prop
  | field {state state' : σ} {name : String} {text : List Char} {f : FieldReader σ}
      (hfind : r.fields.find? (fun f => f.name == name) = some f) (hset : f.isSet state = false)
      (hread : ReadsValue (f.read state) text state') : TakesIn r state (name, text) state'
  | unknown {state : σ} {name : String} {text : List Char}
      (hfind : r.fields.find? (fun f => f.name == name) = none) (h : Derives .value text) :
      TakesIn r state (name, text) state

inductive TakesAll (r : RecordReader σ α) : σ → List (String × List Char) → σ → Prop
  | nil {state : σ} : TakesAll r state [] state
  | cons {state next state' : σ} {field : String × List Char}
      {fields : List (String × List Char)} (h : TakesIn r state field next)
      (hrest : TakesAll r next fields state') : TakesAll r state (field :: fields) state'

/-- A member whose key was read: its value is read into the draft, or passed over. -/
theorem memberValue_takes {m : MemberText} {name : String} {n : Nat}
    (htake : TakesIn r state (name, m.value) state') (hrest : Ends rest)
    (hkey : (m.tail rest).length < n) :
    ∃ shorter, r.memberValue state ⟨name, m.tail rest, hkey⟩ =
      .ok ⟨state', m.afterValue ++ rest, shorter⟩ := by
  obtain ⟨hcolon, hcolonEq⟩ := colon_append m.isSpaces_afterKey
    (m.beforeValue ++ (m.value ++ (m.afterValue ++ rest)))
  have hstops := stops_spaces m.isSpaces_afterValue hrest.stops_continuesNumber
  -- A known field is read into the draft, and the value of any other one is passed over.
  cases htake with
  | field hfind hset hread =>
    obtain ⟨hvalue, hvalueEq⟩ := hread m.isSpaces_beforeValue hstops
    refine ⟨Nat.lt_trans hvalue hcolon, ?_⟩
    simp only [memberValue, hfind, hset, Bool.false_eq_true, if_false, MemberText.tail, hcolonEq,
      hvalueEq]
    rfl
  | unknown hfind h =>
    obtain ⟨hvalue, hvalueEq⟩ := skim_append m.isSpaces_beforeValue h hstops
    refine ⟨Nat.lt_trans hvalue hcolon, ?_⟩
    simp only [memberValue, hfind, MemberText.tail, hcolonEq, hvalueEq]
    rfl

variable {first : Bool} {bound : Nat}

theorem members_close {cs : List Char} (state : σ) (hs : skipSpace cs = '\x7d' :: rest)
    (h : cs.length ≤ bound) :
    ∃ shorter, r.members first state cs h = .ok ⟨state, rest, shorter⟩ := by
  obtain ⟨shorter, hturn⟩ := objectTurn_close stringFrom first hs
  refine ⟨Nat.lt_of_lt_of_le shorter h, ?_⟩
  rw [members, hturn]

/-- A member comes next, by its key and then by its value. -/
theorem members_next {m : MemberText} {name : String} (hkey : Spells name.toList m.key)
    (htake : TakesIn r state (name, m.value) state') (hnext : Next first cs (m.text rest))
    (hrest : Ends rest) (h : cs.length ≤ bound) :
    ∃ h', r.members first state cs h =
      r.members false state' (m.afterValue ++ rest) h' := by
  obtain ⟨hname, hturn⟩ := objectTurn_next hkey hnext
  obtain ⟨hvalue, hvalueEq⟩ := memberValue_takes htake hrest hname
  have hafter := Nat.lt_of_lt_of_le (Nat.lt_trans hvalue hname) h
  refine ⟨Nat.le_of_lt hafter, ?_⟩
  rw [members, hturn]
  dsimp only
  rw [hvalueEq]

/-- By induction on the members, each of which takes the draft one step further. -/
theorem members_text (h : MembersText Eq fields ds) (htakes : TakesAll r state fields state')
    (rest : List Char) (hnext : Next first cs (ds ++ rest)) (hbound : cs.length ≤ bound) :
    ∃ shorter, r.members first state cs hbound = .ok ⟨state', rest, shorter⟩ := by
  induction h generalizing first cs state with
  | last m hkey hvalue =>
    subst hvalue
    cases htakes with
    | cons htake hnil =>
      cases hnil
      rw [MemberText.text_append, List.singleton_append] at hnext
      obtain ⟨hafter, hmember⟩ := members_next hkey htake hnext (.closing .object rest) hbound
      rw [hmember]
      exact members_close _ (MemberText.skipSpace_more m.isSpaces_afterValue [] rest) hafter
  | @more _ _ _ ds m hkey hvalue _ ih =>
    subst hvalue
    cases htakes with
    | cons htake hrest =>
      rw [MemberText.text_append, List.cons_append] at hnext
      obtain ⟨hafter, hmember⟩ := members_next hkey htake hnext (.comma (ds ++ rest)) hbound
      rw [hmember]
      exact ih hrest (next_comma m.isSpaces_afterValue _) hafter

/-- The members of an object, behind its brace: none at all, or one and then others. -/
theorem exists_members_of_object (h : ObjectText Eq fields cs)
    (htakes : TakesAll r r.blank fields state) (rest : List Char) :
    ∃ ds, cs = '\x7b' :: ds ∧ ∀ ⦃bound : Nat⦄ (hbound : (ds ++ rest).length ≤ bound),
      ∃ shorter, r.members true r.blank (ds ++ rest) hbound = .ok ⟨state, rest, shorter⟩ := by
  cases h with
  | @empty w hw =>
    cases htakes
    refine ⟨_, rfl, fun bound hbound => members_close _ ?_ hbound⟩
    rw [List.append_assoc]
    exact skipSpace_spaces_closing .object hw rest
  | filled h => exact ⟨_, rfl, fun bound hbound => members_text h htakes rest (next_first _) hbound⟩

/-- A draft of which all fields are set becomes the record. -/
theorem finish_complete {a : α} (hset : ∀ f ∈ r.fields, f.isSet state = true)
    (hbuild : r.build state = some a) (rest : List Char) : r.finish state rest = .ok a := by
  have hnone : r.fields.find? (fun f => !f.isSet state) = none := by
    rw [List.find?_eq_none]
    intro f hf
    rw [hset f hf]
    decide
  rw [finish, hnone]
  dsimp only
  rw [hbuild]

/-- An object of which all members are taken in, up to a complete draft, is read as the record that
the draft becomes. -/
theorem read_object {a : α} (h : ObjectText Eq fields cs)
    (htakes : TakesAll r r.blank fields state) (hset : ∀ f ∈ r.fields, f.isSet state = true)
    (hbuild : r.build state = some a) : ReadsValue r.read cs a := by
  intro w rest hw _
  obtain ⟨ds, rfl, hmembers⟩ := exists_members_of_object h htakes rest
  obtain ⟨inside, hopening⟩ := opens_object hw (ds ++ rest)
  obtain ⟨shorter, hmembers⟩ := hmembers (length_le_of_lt_skipSpace inside)
  rw [List.cons_append]
  refine ⟨shorter, ?_⟩
  rw [read, hopening]
  dsimp only
  rw [hmembers, read.complete]
  dsimp only
  rw [finish_complete hset hbuild]

end RecordReader

end SchemaSeed.Json
