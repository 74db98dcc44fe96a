import SchemaSeed.Proofs.Assoc
import SchemaSeed.Proofs.Json.Embedded
import SchemaSeed.Proofs.Json.Writer

/-!
# Texts of values

A text shows a value if it has the tokens of the value, with blanks between them wherever
the grammar allows it. What a text shows is what is read from it (`Shows.parse`), and a value
that was written with an entry to a line shows there.
-/

namespace SchemaSeed.Json

open Text (Stops stops_cons stops_nil)

variable {v : Value} {depth : Nat} {cs ds rest w : List Char}

/-- The text shows a scalar, whatever follows it that does not go on with a number. -/
def ShowsScalar (v : Value) (cs : List Char) : Prop :=
  ∀ rest, Stops continuesNumber rest → OpensScalar (cs ++ rest) v rest

/-- The text shows a value with at most `depth` containers inside one another. An object that
embeds a text shows the value that the text is read as. -/
def Shows : (depth : Nat) → Value → List Char → Prop
  | 0, v, cs => ShowsScalar v cs
  | depth + 1, v, cs =>
    ShowsScalar v cs ∨ (∃ vs, v = .array vs ∧ ListText (Shows depth) vs cs) ∨
      (∃ ms, IsOrdinary ms ∧ v = .object (Assoc.ofPairs ms) ∧ ObjectText (Shows depth) ms cs) ∨
      ∃ s, parseValue s = .ok v ∧ ObjectText StringText [(embeddedKey, s)] cs

/-! ## Reading -/

/-- Neither a blank nor a closing bracket begins a scalar. -/
theorem not_opensScalar {c : Char} (hc : c ∈ [' ', '\n', '\t', '\r', ']', '\x7d'])
    (tail : List Char) : ¬ OpensScalar (c :: tail) v rest := by
  have hfault : openingFrom (c :: tail) = .error (.ahead .expectedValue (c :: tail)) := by
    simp only [List.mem_cons, List.not_mem_nil, or_false] at hc
    rcases hc with rfl | rfl | rfl | rfl | rfl | rfl <;> rfl
  rintro ⟨shorter, hopens⟩
  rw [hfault] at hopens
  cases hopens

theorem ShowsScalar.begins (h : ShowsScalar v cs) (rest : List Char) : Begins (cs ++ rest) := by
  have hopens := h [] stops_nil
  cases cs with
  | nil =>
    obtain ⟨shorter, hopens⟩ := hopens
    cases hopens
  | cons c tail =>
    have hc : c ∉ [' ', '\n', '\t', '\r', ']', '\x7d'] := fun hc => not_opensScalar hc _ hopens
    simp only [List.mem_cons, List.not_mem_nil, or_false, not_or] at hc
    obtain ⟨hblank, hline, htab, hreturn, hlist, hobject⟩ := hc
    refine begins_cons ?_ hlist hobject _
    simp only [isSpace, hblank, hline, htab, hreturn, decide_false, Bool.or_self]

theorem value_scalar (h : OpensScalar (skipSpace cs) v rest) :
    ∃ shorter, value depth cs = .ok ⟨v, rest, shorter⟩ := by
  obtain ⟨shorter, hopening⟩ := h
  refine ⟨Nat.lt_of_lt_of_le shorter (length_skipSpace_le cs), ?_⟩
  cases depth <;> simp only [value, valueWith, hopening] <;> rfl

/-- A list, whose bracket comes next, is read from its entries one level below. -/
theorem value_list {vs : List Value} (hs : skipSpace cs = '[' :: ds)
    (h : ∃ shorter, listFrom (value depth) ds = .ok ⟨vs, rest, shorter⟩) :
    ∃ shorter, value (depth + 1) cs = .ok ⟨.array vs, rest, shorter⟩ := by
  obtain ⟨shorter, hlist⟩ := h
  have hopening : ∃ inside, openingFrom (skipSpace cs) = .ok (.list ds inside) := by
    rw [hs]
    exact ⟨_, rfl⟩
  obtain ⟨inside, hopening⟩ := hopening
  refine ⟨Nat.lt_trans shorter (length_lt_of_skipSpace hs), ?_⟩
  rw [value] at hlist ⊢
  rw [valueWith, hopening]
  dsimp only
  rw [hlist]
  rfl

theorem openingFrom_brace (hs : skipSpace cs = '\x7b' :: ds) :
    ∃ inside, openingFrom (skipSpace cs) = .ok (.object ds inside) := by
  rw [hs]
  exact ⟨_, rfl⟩

/-- An object of ordinary members, whose brace comes next. -/
theorem value_object {ms : List (String × Value)} (hs : skipSpace cs = '\x7b' :: ds)
    (hms : embedding? ds = none)
    (h : ∃ shorter, objectFrom (value depth) ds = .ok ⟨ms, rest, shorter⟩) :
    ∃ shorter, value (depth + 1) cs = .ok ⟨.object ms, rest, shorter⟩ := by
  obtain ⟨shorter, hobject⟩ := h
  obtain ⟨inside, hopening⟩ := openingFrom_brace hs
  refine ⟨Nat.lt_trans shorter (length_lt_of_skipSpace hs), ?_⟩
  rw [value] at hobject ⊢
  rw [valueWith, hopening]
  dsimp only
  rw [hms]
  dsimp only
  rw [hobject]
  rfl

/-- An embedded text, before which its brace comes next: what comes out is the value in the text. -/
theorem value_embedding (hs : skipSpace cs = '\x7b' :: ds)
    (h : ∃ k shorter, embedding? ds = some k ∧
      embeddedFrom readText k.rest = .ok ⟨v, rest, shorter⟩) :
    ∃ shorter, value (depth + 1) cs = .ok ⟨v, rest, shorter⟩ := by
  obtain ⟨k, shorter, hembedding, hfrom⟩ := h
  obtain ⟨inside, hopening⟩ := openingFrom_brace hs
  refine ⟨Nat.lt_trans shorter (Nat.lt_trans k.shorter (length_lt_of_skipSpace hs)), ?_⟩
  rw [value, valueWith, hopening]
  dsimp only
  rw [hembedding]
  dsimp only
  rw [hfrom]
  rfl

theorem ShowsScalar.readsEntry (h : ShowsScalar v cs) : ReadsEntry (value depth) v cs where
  reads w rest hw hrest := by
    refine value_scalar ?_
    rw [skipSpace_append hw, (h.begins rest).skipSpace_eq]
    exact h rest hrest
  begins := h.begins

/-- By induction on the depth: what shows inside a container is read there. Each of the four ways to
show a value is one that `value` has. -/
theorem Shows.readsEntry (h : Shows depth v cs) : ReadsEntry (value depth) v cs := by
  induction depth generalizing v cs with
  | zero => exact ShowsScalar.readsEntry h
  | succ depth ih =>
    -- Blanks before a bracket are passed over.
    have hskip : ∀ {w : List Char} (c : Char) (tail : List Char), IsSpaces w →
        isSpace c = false → skipSpace (w ++ c :: tail) = c :: tail := by
      intro w c tail hw hc
      rw [skipSpace_append hw, skipSpace_of_stops (stops_cons hc)]
    obtain h | ⟨vs, rfl, h⟩ | ⟨ms, hms, rfl, h⟩ | ⟨s, hs, h⟩ := h
    · exact h.readsEntry
    · refine ⟨fun w rest hw _ => ?_, fun rest => ?_⟩
      · obtain ⟨ds, shorter, rfl, hlist⟩ := listFrom_text (fun _ _ => ih) h rest
        exact value_list (hskip '[' _ hw (by decide)) ⟨shorter, hlist⟩
      · cases h <;> exact begins_cons (by decide) (by decide) (by decide) _
    · refine ⟨fun w rest hw _ => ?_, fun rest => ?_⟩
      · obtain ⟨ds, shorter, rfl, hobject⟩ := objectFrom_text (fun _ _ => ih) h rest
        exact value_object (hskip '\x7b' _ hw (by decide)) (embedding?_of_isOrdinary hms h rest)
          ⟨shorter, hobject⟩
      · cases h <;> exact begins_cons (by decide) (by decide) (by decide) _
    · obtain ⟨ds, rfl⟩ : ∃ ds, cs = '\x7b' :: ds := by cases h; exact ⟨_, rfl⟩
      refine ⟨fun w rest hw _ => ?_, fun rest => ?_⟩
      · exact value_embedding (hskip '\x7b' _ hw (by decide)) (embedding_text h hs rest)
      · exact begins_cons (by decide) (by decide) (by decide) _

theorem Shows.parse (h : Shows depthLimit v cs) (hw : IsSpaces w) :
    parseValue (String.ofList (cs ++ w)) = .ok v :=
  parse_append_of_reads h.readsEntry.reads hw

/-! ## Showing -/

theorem ShowsScalar.shows (h : ShowsScalar v cs) : Shows depth v cs := by
  cases depth with
  | zero => exact h
  | succ depth => exact .inl h

theorem shows_string {s : String} (h : Spells s.toList cs) :
    Shows depth (.string s) ('"' :: (cs ++ ['"'])) := by
  refine ShowsScalar.shows fun rest _ => ?_
  have hopens := opensScalar_string h rest
  rw [String.ofList_toList] at hopens
  rwa [List.cons_append, List.append_assoc]

theorem wordFrom_append (word : List Char) (v : Value) (rest : List Char) :
    ∃ shorter, wordFrom word v (word ++ rest) = .ok (.scalar ⟨v, rest, shorter⟩) := by
  have hletters := letters_append word rest
  refine ⟨Nat.lt_succ_of_le (length_le_of_letters hletters), ?_⟩
  rw [wordFrom]
  split
  · next heq => rw [hletters] at heq; cases heq
  · next heq =>
    rw [hletters] at heq
    cases heq
    rfl

theorem shows_bool (b : Bool) : Shows depth (.bool b) (scalarText (.bool b)) := by
  refine ShowsScalar.shows fun rest _ => ?_
  cases b with
  | true => exact wordFrom_append ['r', 'u', 'e'] (.bool true) rest
  | false => exact wordFrom_append ['a', 'l', 's', 'e'] (.bool false) rest

theorem shows_array {vs : List Value} (h : ListText (Shows depth) vs cs) :
    Shows (depth + 1) (.array vs) cs := .inr (.inl ⟨vs, rfl, h⟩)

/-- An object whose keys differ shows one level above its values, if it does not begin like an
embedded text. -/
theorem shows_object {ms : List (String × Value)} (hms : IsOrdinary ms)
    (hkeys : (Assoc.keys ms).Nodup) (h : ObjectText (Shows depth) ms cs) :
    Shows (depth + 1) (.object ms) cs := by
  refine .inr (.inr (.inl ⟨ms, hms, ?_, h⟩))
  rw [Assoc.ofPairs_eq_self hkeys]

/-! ## An entry to a line -/

theorem isSpaces_newLine (depth : Nat) : IsSpaces (newLine depth) := by
  intro c hc
  rcases List.mem_cons.1 hc with rfl | hc
  · rfl
  · rw [List.eq_of_mem_replicate hc]
    rfl

section Pretty

variable {P : Value → List Char → Prop} (line : Nat)

/-- By induction on the items that are left. The last one is followed by the bracket on a line of
its own. -/
theorem itemsText_pretty (v : Value) (vs : List Value)
    (h : ∀ x ∈ v :: vs, P x (prettyAt (line + 1) x)) :
    ItemsText P (v :: vs) (prettyItems (line + 1) (v :: vs) ++ (newLine line ++ [']'])) := by
  have hnewLine := isSpaces_newLine (line + 1)
  induction vs generalizing v with
  | nil =>
    have hlast := ItemsText.last ⟨_, _, _, hnewLine, isSpaces_newLine line⟩
      (h v List.mem_cons_self)
    rwa [ItemText.text, ← List.append_assoc] at hlast
  | cons w vs ih =>
    have hmore := ItemsText.more ⟨_, _, [], hnewLine, isSpaces_nil⟩ (h v List.mem_cons_self)
      (ih w fun x hx => h x (List.mem_cons_of_mem _ hx))
    rw [prettyItems, List.append_assoc, List.append_assoc]
    exact hmore

def lineMember (k : String) (v : Value) {after : List Char} (hafter : IsSpaces after) :
    MemberText where
  before := newLine (line + 1)
  key := k.toList.flatMap escaped
  afterKey := []
  beforeValue := [' ']
  value := prettyAt (line + 1) v
  afterValue := after
  isSpaces_before := isSpaces_newLine (line + 1)
  isSpaces_afterKey := isSpaces_nil
  isSpaces_beforeValue := List.forall_mem_singleton.2 rfl
  isSpaces_afterValue := hafter

theorem text_lineMember (k : String) (v : Value) {after : List Char} (hafter : IsSpaces after)
    (rest : List Char) :
    (lineMember line k v hafter).text rest =
      newLine (line + 1) ++ literal k ++ ':' :: ' ' :: prettyAt (line + 1) v ++ (after ++ rest) := by
  simp only [MemberText.text, MemberText.tail, lineMember, literal, List.append_assoc,
    List.cons_append, List.nil_append]

/-- By induction on the members that are left, as for lists. -/
theorem membersText_pretty (m : String × Value) (ms : List (String × Value))
    (h : ∀ x ∈ m :: ms, P x.2 (prettyAt (line + 1) x.2)) :
    MembersText P (m :: ms)
      (prettyMembers (line + 1) (m :: ms) ++ (newLine line ++ ['\x7d'])) := by
  induction ms generalizing m with
  | nil =>
    have hlast := MembersText.last (lineMember line m.1 m.2 (isSpaces_newLine line))
      (spells_escaped m.1.toList) (h m List.mem_cons_self)
    rwa [text_lineMember] at hlast
  | cons m' ms ih =>
    have hmore := MembersText.more (lineMember line m.1 m.2 isSpaces_nil)
      (spells_escaped m.1.toList) (h m List.mem_cons_self)
      (ih m' fun x hx => h x (List.mem_cons_of_mem _ hx))
    rw [text_lineMember] at hmore
    rw [prettyMembers, List.append_assoc _ (_ :: _)]
    exact hmore

theorem listText_pretty (vs : List Value) (h : ∀ x ∈ vs, P x (prettyAt (line + 1) x)) :
    ListText P vs (prettyAt line (.array vs)) := by
  cases vs with
  | nil =>
    rw [prettyAt]
    exact .empty isSpaces_nil
  | cons v vs =>
    rw [prettyAt, List.cons_append, List.cons_append, List.append_assoc]
    exact .filled (itemsText_pretty line v vs h)

theorem objectText_pretty (ms : List (String × Value))
    (h : ∀ x ∈ ms, P x.2 (prettyAt (line + 1) x.2)) :
    ObjectText P ms (prettyAt line (.object ms)) := by
  cases ms with
  | nil =>
    rw [prettyAt]
    exact .empty isSpaces_nil
  | cons m ms =>
    rw [prettyAt, List.cons_append, List.cons_append, List.append_assoc]
    exact .filled (membersText_pretty line m ms h)

end Pretty

end SchemaSeed.Json
