import Mathlib.Data.List.Forall2
import SchemaSeed.Proofs.Json.Layout

/-!
# Readers of lists and objects of one type

A list or an object as it may be written is read as its entries are (`ListText.readsEntry`,
`ObjectText.readsEntry`), and what an entry may look like can be said in other words
(`ListText.imp`, `ObjectText.imp`). Values that were written without blanks are such texts.
-/

namespace SchemaSeed.Json

open Text (stops_cons)

variable {α β : Type} {P : α → List Char → Prop} {Q : β → List Char → Prop} {as : List α}
  {bs : List β} {ms : List (String × α)} {ns : List (String × β)} {cs ds w : List Char}

/-! ## Entries in other words -/

/-- If every entry may be written in a second way, so may a list of them. By induction on the
entries. -/
theorem ItemsText.imp (h : ItemsText P as ds)
    (himp : List.Forall₂ (fun a b => ∀ cs, P a cs → Q b cs) as bs) : ItemsText Q bs ds := by
  induction h generalizing bs with
  | last i ha =>
    cases himp with
    | cons hab hnil =>
      cases hnil
      exact .last i (hab _ ha)
  | more i ha _ ih =>
    cases himp with
    | cons hab hrest => exact .more i (hab _ ha) (ih hrest)

theorem ListText.imp (h : ListText P as cs)
    (himp : List.Forall₂ (fun a b => ∀ cs, P a cs → Q b cs) as bs) : ListText Q bs cs := by
  cases h with
  | empty hw =>
    cases himp
    exact .empty hw
  | filled h => exact .filled (h.imp himp)

/-- Members with the same keys, whose values may be written in the second way too. -/
def MembersImp (P : α → List Char → Prop) (Q : β → List Char → Prop) :
    List (String × α) → List (String × β) → Prop :=
  List.Forall₂ fun m n => m.1 = n.1 ∧ ∀ cs, P m.2 cs → Q n.2 cs

theorem MembersText.imp (h : MembersText P ms ds) (himp : MembersImp P Q ms ns) :
    MembersText Q ns ds := by
  induction h generalizing ns with
  | last m hkey ha =>
    cases himp with
    | @cons _ n _ _ hmn hnil =>
      obtain ⟨rfl, hmn⟩ := hmn
      cases hnil
      exact .last m hkey (hmn _ ha)
  | more m hkey ha _ ih =>
    cases himp with
    | @cons _ n _ _ hmn hrest =>
      obtain ⟨rfl, hmn⟩ := hmn
      exact .more m hkey (hmn _ ha) (ih hrest)

theorem ObjectText.imp (h : ObjectText P ms cs) (himp : MembersImp P Q ms ns) :
    ObjectText Q ns cs := by
  cases h with
  | empty hw =>
    cases himp
    exact .empty hw
  | filled h => exact .filled (h.imp himp)

theorem ListText.map {f : α → β} (h : ListText P as cs)
    (himp : ∀ a cs, P a cs → Q (f a) cs) : ListText Q (as.map f) cs :=
  h.imp (List.forall₂_map_right_iff.2 (List.forall₂_same.2 fun a _ => himp a))

theorem ObjectText.map {f : α → β} (h : ObjectText P ms cs)
    (himp : ∀ a cs, P a cs → Q (f a) cs) : ObjectText Q (ms.map fun m => (m.1, f m.2)) cs :=
  h.imp (List.forall₂_map_right_iff.2 (List.forall₂_same.2 fun m _ => ⟨rfl, himp m.2⟩))

theorem ListText.of_map {f : β → α} (h : ListText P (bs.map f) cs)
    (himp : ∀ b ∈ bs, ∀ cs, P (f b) cs → Q b cs) : ListText Q bs cs :=
  h.imp (List.forall₂_map_left_iff.2 (List.forall₂_same.2 himp))

theorem ObjectText.of_map {f : β → α} (h : ObjectText P (ns.map fun n => (n.1, f n.2)) cs)
    (himp : ∀ n ∈ ns, ∀ cs, P (f n.2) cs → Q n.2 cs) : ObjectText Q ns cs :=
  h.imp (List.forall₂_map_left_iff.2 (List.forall₂_same.2 fun n hn => ⟨rfl, himp n hn⟩))

/-! ## Readers -/

theorem stringText_literal (s : String) : StringText s (literal s) :=
  ⟨_, spells_escaped s.toList, rfl⟩

theorem StringText.shows {s : String} {depth : Nat} (h : StringText s cs) :
    Shows depth (.string s) cs := by
  obtain ⟨body, hbody, rfl⟩ := h
  exact shows_string hbody

theorem bool_readsEntry (b : Bool) : ReadsEntry bool b (scalarText (.bool b)) := by
  have hshows : Shows 0 (.bool b) (scalarText (.bool b)) := shows_bool b
  change ShowsScalar (.bool b) (scalarText (.bool b)) at hshows
  refine ⟨fun w rest hw hrest => ?_, hshows.begins⟩
  have hopens := hshows rest hrest
  rw [← (hshows.begins rest).skipSpace_eq, ← skipSpace_append hw] at hopens
  exact scalar_of_opens hopens rfl

theorem opens_list (hw : IsSpaces w) (ds : List Char) :
    ∃ inside, openingFrom (skipSpace (w ++ '[' :: ds)) = .ok (.list ds inside) := by
  rw [skipSpace_append hw, skipSpace_of_stops (stops_cons (by decide))]
  exact ⟨length_lt_cons _ _, rfl⟩

theorem opens_object (hw : IsSpaces w) (ds : List Char) :
    ∃ inside, openingFrom (skipSpace (w ++ '\x7b' :: ds)) = .ok (.object ds inside) := by
  rw [skipSpace_append hw, skipSpace_of_stops (stops_cons (by decide))]
  exact ⟨length_lt_cons _ _, rfl⟩

section Readers

variable {item : Reader α} (hreads : ∀ a cs, P a cs → ReadsEntry item a cs) {depth : Nat}

include hreads

/-- A list is read as its entries, if there is a level left for it. -/
theorem ListText.readsEntry (h : ListText P as cs) (hdepth : depth ≠ 0) :
    ReadsEntry (list depth item) as cs := by
  refine ⟨fun w rest hw _ => ?_, fun rest => ?_⟩
  · obtain ⟨ds, shorter, rfl, hlist⟩ := listFrom_text hreads h rest
    obtain ⟨inside, hopening⟩ := opens_list hw (ds ++ rest)
    rw [List.cons_append]
    refine ⟨Nat.lt_of_lt_of_le shorter (length_le_of_lt_skipSpace inside), ?_⟩
    rw [list, hopening]
    dsimp only
    rw [if_neg hdepth, hlist]
    rfl
  · cases h <;> exact begins_cons (by decide) (by decide) (by decide) _

/-- An object is read as its members, if there is a level left for it; each key has its last value.
-/
theorem ObjectText.readsEntry (h : ObjectText P ms cs) (hdepth : depth ≠ 0) :
    ReadsEntry (object depth item) (Assoc.ofPairs ms) cs := by
  refine ⟨fun w rest hw _ => ?_, fun rest => ?_⟩
  · obtain ⟨ds, shorter, rfl, hobject⟩ := objectFrom_text hreads h rest
    obtain ⟨inside, hopening⟩ := opens_object hw (ds ++ rest)
    rw [List.cons_append]
    refine ⟨Nat.lt_of_lt_of_le shorter (length_le_of_lt_skipSpace inside), ?_⟩
    rw [object, hopening]
    dsimp only
    rw [if_neg hdepth, hobject]
    rfl
  · cases h <;> exact begins_cons (by decide) (by decide) (by decide) _

end Readers

/-! ## Without blanks -/

section Compact

variable {P : Value → List Char → Prop}

/-- By induction on the values: without blanks, entries are what lies between the commas. -/
theorem itemsText_compact (v : Value) (vs : List Value) (h : ∀ x ∈ v :: vs, P x (compact x)) :
    ItemsText P (v :: vs) (compactItems (v :: vs) ++ [']']) := by
  induction vs generalizing v with
  | nil => exact .last ⟨[], _, [], isSpaces_nil, isSpaces_nil⟩ (h v List.mem_cons_self)
  | cons w vs ih =>
    have hmore := ItemsText.more ⟨[], _, [], isSpaces_nil, isSpaces_nil⟩ (h v List.mem_cons_self)
      (ih w fun x hx => h x (List.mem_cons_of_mem _ hx))
    rw [compactItems, List.append_assoc]
    exact hmore

def compactMember (k : String) (v : Value) : MemberText :=
  .tight (k.toList.flatMap escaped) (compact v)

theorem text_compactMember (k : String) (v : Value) (rest : List Char) :
    (compactMember k v).text rest = literal k ++ ':' :: compact v ++ rest := by
  simp only [MemberText.text, MemberText.tail, compactMember, MemberText.tight, literal,
    List.append_assoc, List.cons_append, List.nil_append]

/-- By induction on the members, as for lists. -/
theorem membersText_compact (m : String × Value) (ms : List (String × Value))
    (h : ∀ x ∈ m :: ms, P x.2 (compact x.2)) :
    MembersText P (m :: ms) (compactMembers (m :: ms) ++ ['\x7d']) := by
  induction ms generalizing m with
  | nil =>
    have hlast := MembersText.last (compactMember m.1 m.2) (spells_escaped m.1.toList)
      (h m List.mem_cons_self)
    rwa [text_compactMember] at hlast
  | cons m' ms ih =>
    have hmore := MembersText.more (compactMember m.1 m.2) (spells_escaped m.1.toList)
      (h m List.mem_cons_self) (ih m' fun x hx => h x (List.mem_cons_of_mem _ hx))
    rw [text_compactMember] at hmore
    rw [compactMembers, List.append_assoc _ (_ :: _)]
    exact hmore

theorem listText_compact (vs : List Value) (h : ∀ x ∈ vs, P x (compact x)) :
    ListText P vs (compact (.array vs)) := by
  cases vs with
  | nil => exact .empty isSpaces_nil
  | cons v vs =>
    rw [compact, List.cons_append]
    exact .filled (itemsText_compact v vs h)

theorem objectText_compact (ms : List (String × Value)) (h : ∀ x ∈ ms, P x.2 (compact x.2)) :
    ObjectText P ms (compact (.object ms)) := by
  cases ms with
  | nil => exact .empty isSpaces_nil
  | cons m ms =>
    rw [compact, List.cons_append]
    exact .filled (membersText_compact m ms h)

end Compact

/-! ## Layouts -/

/-- A way to write values inside a number of brackets, such that the entries of a container stand
between its brackets one bracket deeper. What is proved of all layouts holds of both that the
program has. -/
structure IsLayout (write : Nat → Value → List Char) : Prop where
  null : ∀ line, write line .null = scalarText .null
  bool : ∀ line b, write line (.bool b) = scalarText (.bool b)
  number : ∀ line n, write line (.number n) = scalarText (.number n)
  string : ∀ line s, write line (.string s) = scalarText (.string s)
  list : ∀ line vs, ListText (fun v cs => write (line + 1) v = cs) vs (write line (.array vs))
  object : ∀ line ms, ObjectText (fun v cs => write (line + 1) v = cs) ms (write line (.object ms))

/-- Without blanks, the number of brackets does not matter. -/
theorem isLayout_compact : IsLayout fun _ => compact where
  null _ := by rw [compact]
  bool _ b := by rw [compact]
  number _ n := by rw [compact]
  string _ s := by rw [compact]
  list _ vs := listText_compact vs fun _ _ => rfl
  object _ ms := objectText_compact ms fun _ _ => rfl

/-- An entry to a line, indented by the number of brackets. -/
theorem isLayout_prettyAt : IsLayout prettyAt where
  null _ := by rw [prettyAt]
  bool _ b := by rw [prettyAt]
  number _ n := by rw [prettyAt]
  string _ s := by rw [prettyAt]
  list line vs := listText_pretty line vs fun _ _ => rfl
  object line ms := objectText_pretty line ms fun _ _ => rfl

end SchemaSeed.Json
