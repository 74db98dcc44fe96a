import SchemaSeed.Proofs.Json.Containers
import SchemaSeed.Proofs.Json.Token

/-!
# What readers accept

A reader of lists or objects accepts nothing but their texts: brackets, commas and blanks
stand where the grammar has them, and between them stands what the reader of one entry
accepts (`takesOnly_list`, `takesOnly_object`). So any value that was read is derived by the
grammar (`takesOnly_value`).
-/

namespace SchemaSeed.Json

open Text (Stops stops_cons stops_nil)

variable {α : Type} {P : List Char → Prop} {cs ds rest w : List Char}

def IsText (P : List Char → Prop) (text cs : List Char) : Prop := text = cs ∧ P cs

def IsListOf (P : List Char → Prop) (cs : List Char) : Prop := ∃ items, ListText (IsText P) items cs

def IsObjectOf (P : List Char → Prop) (cs : List Char) : Prop :=
  ∃ members, ObjectText (IsText P) members cs

/-- Whatever the reader takes is of this kind, behind blanks. This is the direction from the reader
to the text: a reader may refuse more than the kind allows, but it takes nothing else. -/
def TakesOnly (item : Reader α) (P : List Char → Prop) : Prop :=
  ∀ ⦃cs : List Char⦄ ⦃t : Taken α cs.length⦄, item cs = .ok t →
    ∃ w body, IsSpaces w ∧ P body ∧ cs = w ++ (body ++ t.rest)

/-! ## Texts of values -/

/-- A list of values in the sense of the reader is one in the sense of the grammar, but for the
closing bracket. By induction on the entries. -/
theorem Derives.elements_of_items {items : List (List Char)}
    (h : ItemsText (IsText (Derives .value)) items ds) :
    ∃ es, Derives .elements es ∧ ds = es ++ [']'] := by
  have helement : ∀ {item : List Char} (i : ItemText), IsText (Derives .value) item i.value →
      Derives .element (i.before ++ (i.value ++ i.after)) := fun i hi =>
    .element i.isSpaces_before hi.2 i.isSpaces_after
  have htext : ∀ (i : ItemText) (rest : List Char),
      i.text rest = i.before ++ (i.value ++ i.after) ++ rest := fun i rest => by
    simp only [ItemText.text, List.append_assoc]
  induction h with
  | last i hi => exact ⟨_, .lastElement (helement i hi), htext i _⟩
  | more i hi _ ih =>
    obtain ⟨es, hes, rfl⟩ := ih
    exact ⟨_, .elements (helement i hi) hes,
      (htext i _).trans (List.append_assoc _ (',' :: es) _).symm⟩

/-- Members of an object likewise. Their keys are texts that spell something, of which the grammar
only asks that they are characters of a literal. -/
theorem Derives.members_of_members {members : List (String × List Char)}
    (h : MembersText (IsText (Derives .value)) members ds) :
    ∃ es, Derives .members es ∧ ds = es ++ ['\x7d'] := by
  have hmember : ∀ {k : String} {value : List Char} (m : MemberText), Spells k.toList m.key →
      IsText (Derives .value) value m.value → Derives .member (m.before ++ '"' :: (m.key ++ '"' ::
        (m.afterKey ++ ':' :: (m.beforeValue ++ (m.value ++ m.afterValue))))) :=
    fun m hkey hvalue => .member m.isSpaces_before hkey.isCharacters m.isSpaces_afterKey
      (.element m.isSpaces_beforeValue hvalue.2 m.isSpaces_afterValue)
  have htext : ∀ (m : MemberText) (rest : List Char), m.text rest =
      m.before ++ '"' :: (m.key ++ '"' ::
        (m.afterKey ++ ':' :: (m.beforeValue ++ (m.value ++ m.afterValue)))) ++ rest := by
    intro m rest
    simp only [MemberText.text, MemberText.tail, List.append_assoc, List.cons_append]
  -- The text of a key spells some string, so that its characters are those of a literal.
  induction h with
  | last m hkey hvalue => exact ⟨_, .lastMember (hmember m hkey hvalue), htext m _⟩
  | more m hkey hvalue _ ih =>
    obtain ⟨es, hes, rfl⟩ := ih
    exact ⟨_, .members (hmember m hkey hvalue) hes,
      (htext m _).trans (List.append_assoc _ (',' :: es) _).symm⟩

theorem IsListOf.derives (h : IsListOf (Derives .value) cs) : Derives .value cs := by
  obtain ⟨items, h⟩ := h
  cases h with
  | empty hw => exact .emptyArray hw
  | filled h =>
    obtain ⟨es, hes, rfl⟩ := Derives.elements_of_items h
    exact .array hes

theorem IsObjectOf.derives (h : IsObjectOf (Derives .value) cs) : Derives .value cs := by
  obtain ⟨members, h⟩ := h
  cases h with
  | empty hw => exact .emptyObject hw
  | filled h =>
    obtain ⟨es, hes, rfl⟩ := Derives.members_of_members h
    exact .object hes

theorem IsText.mono {Q : List Char → Prop} (hPQ : ∀ cs, P cs → Q cs) {text : List Char}
    (h : IsText P text cs) : IsText Q text cs :=
  ⟨h.1, hPQ cs h.2⟩

/-- A list of texts of a kind is a list of texts of any wider kind. -/
theorem IsListOf.mono {Q : List Char → Prop} (hPQ : ∀ cs, P cs → Q cs) (h : IsListOf P cs) :
    IsListOf Q cs := by
  obtain ⟨items, h⟩ := h
  exact ⟨items, h.imp (List.forall₂_same.2 fun _ _ _ h => h.mono hPQ)⟩

theorem IsObjectOf.mono {Q : List Char → Prop} (hPQ : ∀ cs, P cs → Q cs) (h : IsObjectOf P cs) :
    IsObjectOf Q cs := by
  obtain ⟨members, h⟩ := h
  exact ⟨members, h.imp (List.forall₂_same.2 fun _ _ => ⟨rfl, fun _ h => h.mono hPQ⟩)⟩

/-! ## Between entries -/

/-- What stands before an entry and the blanks around it: a comma, unless it is the first. -/
inductive IsSeparator : Bool → List Char → Prop
  | absent : IsSeparator true []
  | comma (w : List Char) (hw : IsSpaces w) : IsSeparator false (w ++ [','])

/-- What was skipped in front of a text were blanks. -/
theorem exists_spaces_of_skipSpace (h : skipSpace cs = ds) : ∃ w, IsSpaces w ∧ cs = w ++ ds :=
  ⟨cs.takeWhile isSpace, fun _ hc => List.mem_takeWhile_imp hc,
    h ▸ List.takeWhile_append_dropWhile.symm⟩

/-- What follows the blanks is there with the blanks before it. -/
theorem exists_behind_spaces (h : ∃ body, P body ∧ skipSpace cs = body ++ rest) :
    ∃ w body, IsSpaces w ∧ P body ∧ cs = w ++ (body ++ rest) := by
  obtain ⟨body, hbody, hskip⟩ := h
  obtain ⟨w, hw, hcs⟩ := exists_spaces_of_skipSpace hskip
  exact ⟨w, body, hw, hbody, hcs⟩

theorem IsSpaces.append {w' : List Char} (hw : IsSpaces w) (hw' : IsSpaces w') :
    IsSpaces (w ++ w') := fun c hc => (List.mem_append.1 hc).elim (hw c) (hw' c)

/-- What was found where an entry of a list may stand. -/
def IsListTurn (first : Bool) (cs : List Char) : ListTurn cs.length → Prop
  | .close rest _ => ∃ w, IsSpaces w ∧ cs = w ++ ']' :: rest
  | .entry rest _ => ∃ s w, IsSeparator first s ∧ IsSpaces w ∧ cs = s ++ (w ++ rest)

/-- What the reader of a list sees between two entries is a closing bracket or a separator and an
entry, as the grammar has it. -/
theorem isListTurn_of_listTurn {first : Bool} {turn : ListTurn cs.length}
    (h : listTurn first cs = .ok turn) : IsListTurn first cs turn := by
  unfold listTurn at h
  split at h
  · cases h
  · next c tail hskip =>
    obtain ⟨w, hw, hcs⟩ := exists_spaces_of_skipSpace hskip
    split_ifs at h with hclose hfirst hcomma
    · cases h
      exact ⟨w, hw, hclose ▸ hcs⟩
    · cases h
      exact ⟨[], w, hfirst ▸ .absent, hw, hcs⟩
    · split at h
      · cases h
      · next d tail' hskip' =>
        obtain ⟨w', hw', htail⟩ := exists_spaces_of_skipSpace hskip'
        dsimp only at h
        split_ifs at h with hclose
        cases h
        refine ⟨w ++ [','], w', eq_false_of_ne_true hfirst ▸ .comma w hw, hw', ?_⟩
        rw [List.append_assoc, List.singleton_append, ← htail, ← hcomma, ← hcs]

/-- What was found where a member of an object may stand. -/
def IsObjectTurn (first : Bool) (cs : List Char) : ObjectTurn String cs.length → Prop
  | .close rest _ => ∃ w, IsSpaces w ∧ cs = w ++ '\x7d' :: rest
  | .key k => ∃ s w key, IsSeparator first s ∧ IsSpaces w ∧ Spells k.value.toList key ∧
      cs = s ++ (w ++ '"' :: (key ++ '"' :: k.rest))

/-- A key is a literal that spells the text which was read from it. -/
theorem spells_of_keyFrom {cause : Cause} {k : Taken String cs.length}
    (h : keyFrom stringFrom cause cs = .ok k) :
    ∃ key, Spells k.value.toList key ∧ cs = '"' :: (key ++ '"' :: k.rest) := by
  unfold keyFrom at h
  split at h
  · cases h
  · split_ifs at h with hquote
    obtain ⟨t, hstring, rfl⟩ := map_eq_ok.1 h
    obtain ⟨key, hkey, htail⟩ := spells_of_stringFrom hstring
    exact ⟨key, hkey, congrArg₂ List.cons hquote htail⟩

/-- Between two members of an object likewise, where the reader takes the next key at once. -/
theorem isObjectTurn_of_objectTurn {first : Bool} {turn : ObjectTurn String cs.length}
    (h : objectTurn stringFrom first cs = .ok turn) : IsObjectTurn first cs turn := by
  unfold objectTurn at h
  split at h
  · cases h
  · next c tail hskip =>
    obtain ⟨w, hw, hcs⟩ := exists_spaces_of_skipSpace hskip
    -- The brace, the first member, or a comma and the next one.
    split_ifs at h with hclose hfirst hcomma
    · cases h
      exact ⟨w, hw, hclose ▸ hcs⟩
    · obtain ⟨k, hkey, rfl⟩ := map_eq_ok.1 h
      obtain ⟨key, hspells, htail⟩ := spells_of_keyFrom hkey
      exact ⟨[], w, key, hfirst ▸ .absent, hw, hspells, hcs.trans (congrArg (w ++ ·) htail)⟩
    · split at h
      · cases h
      · next d tail' hskip' =>
        obtain ⟨w', hw', htail⟩ := exists_spaces_of_skipSpace hskip'
        obtain ⟨k, hkey, rfl⟩ := map_eq_ok.1 h
        obtain ⟨key, hspells, htail'⟩ := spells_of_keyFrom hkey
        refine ⟨w ++ [','], w', key, eq_false_of_ne_true hfirst ▸ .comma w hw, hw', hspells, ?_⟩
        have hkeys := htail.trans (congrArg (w' ++ ·) htail')
        rw [List.append_assoc, List.singleton_append]
        exact hcs.trans (congrArg (w ++ ·) (congrArg₂ List.cons hcomma hkeys))

/-- Only blanks stand between a key and its colon. -/
theorem exists_spaces_of_colon {t : Taken Unit cs.length} (h : colon cs = .ok t) :
    ∃ w, IsSpaces w ∧ cs = w ++ ':' :: t.rest := by
  unfold colon at h
  split at h
  · cases h
  · next hskip =>
    obtain ⟨w, hw, hcs⟩ := exists_spaces_of_skipSpace hskip
    split_ifs at h with hcolon
    cases h
    exact ⟨w, hw, hcolon ▸ hcs⟩

/-! ## Entries -/

/-- What is left of a container: blanks and its closing bracket, or more entries behind a comma,
unless none came before. The texts of the entries end with the bracket, so that `rest` is what
follows the container. -/
def Closes (closing : Char) (texts : List Char → Prop) (first : Bool) (cs rest : List Char) :
    Prop :=
  (∃ w, IsSpaces w ∧ cs = w ++ closing :: rest) ∨
    ∃ s ds, IsSeparator first s ∧ texts ds ∧ cs = s ++ (ds ++ rest)

section Entries

variable {first : Bool} {s body rest' : List Char}

/-- One more entry before what is left of a list. Blanks that stood before the comma belong to the
entry in the text of a list. -/
theorem closes_item (hs : IsSeparator first s) (hw : IsSpaces w) (hbody : P body)
    (h : Closes ']' (fun ds => ∃ items, ItemsText (IsText P) items ds) false rest' rest) :
    Closes ']' (fun ds => ∃ items, ItemsText (IsText P) items ds) first
      (s ++ (w ++ (body ++ rest'))) rest := by
  refine .inr ⟨s, ?_⟩
  rcases h with ⟨after, hafter, rfl⟩ | ⟨_, es, hcomma, ⟨items, hitems⟩, rfl⟩
  · refine ⟨_, hs, ⟨_, .last ⟨w, body, after, hw, hafter⟩ ⟨rfl, hbody⟩⟩, ?_⟩
    simp only [ItemText.text, List.append_assoc, List.cons_append, List.nil_append]
  · cases hcomma with
    | comma after hafter =>
      refine ⟨_, hs, ⟨_, .more ⟨w, body, after, hw, hafter⟩ ⟨rfl, hbody⟩ hitems⟩, ?_⟩
      simp only [ItemText.text, List.append_assoc, List.cons_append, List.nil_append]

/-- One more member before what is left of an object, with the blanks around its colon. -/
theorem closes_member {k : String} {key v v' : List Char} (hs : IsSeparator first s)
    (hw : IsSpaces w) (hkey : Spells k.toList key) (hv : IsSpaces v) (hv' : IsSpaces v')
    (hbody : P body)
    (h : Closes '\x7d' (fun ds => ∃ members, MembersText (IsText P) members ds) false rest' rest) :
    Closes '\x7d' (fun ds => ∃ members, MembersText (IsText P) members ds) first
      (s ++ (w ++ '"' :: (key ++ '"' :: (v ++ ':' :: (v' ++ (body ++ rest')))))) rest := by
  refine .inr ⟨s, ?_⟩
  rcases h with ⟨after, hafter, rfl⟩ | ⟨_, es, hcomma, ⟨members, hmore⟩, rfl⟩
  · let m : MemberText := ⟨w, key, v, v', body, after, hw, hv, hv', hafter⟩
    refine ⟨_, hs, ⟨_, .last m hkey ⟨rfl, hbody⟩⟩, ?_⟩
    simp only [m, MemberText.text, MemberText.tail, List.append_assoc, List.cons_append,
      List.nil_append]
  · cases hcomma with
    | comma after hafter =>
      let m : MemberText := ⟨w, key, v, v', body, after, hw, hv, hv', hafter⟩
      refine ⟨_, hs, ⟨_, .more m hkey ⟨rfl, hbody⟩ hmore⟩, ?_⟩
      simp only [m, MemberText.text, MemberText.tail, List.append_assoc, List.cons_append,
        List.nil_append]

end Entries

section Items

variable {item : Reader α} (hitem : TakesOnly item P)

include hitem

/-- Whatever the loop over the entries of a list takes is what is left of one. By induction on the
entries that were read. -/
theorem closes_of_entries {first : Bool} {done : List α} {bound : Nat} {h : cs.length ≤ bound}
    {t : Taken (List α) bound} (hentries : entries item first done cs h = .ok t) :
    Closes ']' (fun ds => ∃ items, ItemsText (IsText P) items ds) first cs t.rest := by
  fun_induction entries item first done cs h with
  | case1 => cases hentries
  | case2 first done cs h rest hr hturn =>
    cases hentries
    exact .inl (isListTurn_of_listTurn hturn)
  | case3 => cases hentries
  | case4 first done cs h ds hr hturn t' hentry hshorter ih =>
    obtain ⟨s, w, hs, hw, hcs⟩ := isListTurn_of_listTurn hturn
    obtain ⟨w', body, hw', hbody, hds⟩ := hitem hentry
    rw [hcs, hds, ← List.append_assoc w]
    exact closes_item hs (hw.append hw') hbody (ih hentries)

/-- For an object likewise, with the loop over its members. -/
theorem closes_of_memberList {first : Bool} {done : List (String × α)} {bound : Nat}
    {h : cs.length ≤ bound} {t : Taken (List (String × α)) bound}
    (hmembers : memberList stringFrom item first done cs h = .ok t) :
    Closes '\x7d' (fun ds => ∃ members, MembersText (IsText P) members ds) first cs t.rest := by
  fun_induction memberList stringFrom item first done cs h with
  | case1 => cases hmembers
  | case2 first done cs h rest hr hturn =>
    cases hmembers
    exact .inl (isObjectTurn_of_objectTurn hturn)
  | case3 => cases hmembers
  | case4 => cases hmembers
  | case5 first done cs h k hturn c hcolon t' hvalue hk hc ht' ih =>
    obtain ⟨s, w, key, hs, hw, hkey, hcs⟩ := isObjectTurn_of_objectTurn hturn
    obtain ⟨v, hv, hkrest⟩ := exists_spaces_of_colon hcolon
    obtain ⟨v', body, hv', hbody, hcrest⟩ := hitem hvalue
    rw [hcs, hkrest, hcrest]
    exact closes_member hs hw hkey hv hv' hbody (ih hmembers)

/-! ## Lists and objects -/

/-- Behind its opening bracket, a list begins with its first entry, so that what is left of it is
all of it. -/
theorem isListOf_of_listFrom {t : Taken (List α) cs.length} (h : listFrom item cs = .ok t) :
    ∃ ds, IsListOf P ('[' :: ds) ∧ cs = ds ++ t.rest := by
  rcases closes_of_entries hitem h with ⟨w, hw, hcs⟩ | ⟨_, ds, ⟨⟩, ⟨items, hitems⟩, hcs⟩
  · refine ⟨w ++ [']'], ⟨_, .empty hw⟩, ?_⟩
    rw [List.append_assoc]
    exact hcs
  · exact ⟨ds, ⟨_, .filled hitems⟩, hcs⟩

/-- Behind its opening brace, an object begins with its first member. -/
theorem isObjectOf_of_objectFrom {t : Taken (List (String × α)) cs.length}
    (h : objectFrom item cs = .ok t) : ∃ ds, IsObjectOf P ('\x7b' :: ds) ∧ cs = ds ++ t.rest := by
  obtain ⟨t, hmembers, rfl⟩ := map_eq_ok.1 h
  rcases closes_of_memberList hitem hmembers with ⟨w, hw, hcs⟩ | ⟨_, ds, ⟨⟩, ⟨members, hmore⟩, hcs⟩
  · refine ⟨w ++ ['\x7d'], ⟨_, .empty hw⟩, ?_⟩
    rw [List.append_assoc]
    exact hcs
  · exact ⟨ds, ⟨_, .filled hmore⟩, hcs⟩

/-- A reader of entries that takes only one kind of text makes a reader of lists that takes only
lists of them, at any depth. -/
theorem takesOnly_list (depth : Nat) : TakesOnly (list depth item) (IsListOf P) := by
  intro cs t h
  apply exists_behind_spaces
  unfold list at h
  split at h
  · cases h
  · next hopening =>
    have hopens := isOpening_of_openingFrom hopening
    split at h
    · split_ifs at h
      obtain ⟨t, hlist, rfl⟩ := map_eq_ok.1 h
      obtain ⟨ds, hds, hrest⟩ := isListOf_of_listFrom hitem hlist
      exact ⟨_, hds, hopens.trans (congrArg ('[' :: ·) hrest)⟩
    · cases h

/-- Objects likewise. Their keys may be any strings. -/
theorem takesOnly_object (depth : Nat) : TakesOnly (object depth item) (IsObjectOf P) := by
  intro cs t h
  apply exists_behind_spaces
  unfold object at h
  split at h
  · cases h
  · next hopening =>
    have hopens := isOpening_of_openingFrom hopening
    split at h
    · split_ifs at h
      obtain ⟨t, hobject, rfl⟩ := map_eq_ok.1 h
      obtain ⟨ds, hds, hrest⟩ := isObjectOf_of_objectFrom hitem hobject
      exact ⟨_, hds, hopens.trans (congrArg ('\x7b' :: ·) hrest)⟩
    · cases h

end Items

/-! ## Values -/

/-- An object whose first key marks an embedded text has that key behind blanks, however it is
spelled. -/
theorem exists_of_embedding? {k : Taken Unit cs.length} (h : embedding? cs = some k) :
    ∃ w key, IsSpaces w ∧ Spells embeddedKey.toList key ∧
      cs = w ++ '"' :: (key ++ '"' :: k.rest) := by
  unfold embedding? at h
  split at h
  · next k' hturn =>
    split_ifs at h with hkey
    cases h
    obtain ⟨s, w, key, hs, hw, hspells, hcs⟩ := isObjectTurn_of_objectTurn hturn
    cases hs
    exact ⟨w, key, hw, hkey ▸ hspells, hcs⟩
  · cases h

/-- Only blanks stand before the brace that ends an object. -/
theorem exists_spaces_of_objectEnd {t : Taken Unit cs.length} (h : objectEnd cs = .ok t) :
    ∃ w, IsSpaces w ∧ cs = w ++ '\x7d' :: t.rest := by
  unfold objectEnd at h
  split at h
  · cases h
  · next hskip =>
    obtain ⟨w, hw, hcs⟩ := exists_spaces_of_skipSpace hskip
    split_ifs at h with hbrace
    cases h
    exact ⟨w, hw, hbrace ▸ hcs⟩

/-- What was taken as a scalar of one type is the text of a value, though not every value is of that
type. -/
theorem takesOnly_scalar (expected : String) (pick : Value → Option α) :
    TakesOnly (scalar expected pick) (Derives .value) := by
  intro cs t h
  apply exists_behind_spaces
  unfold scalar at h
  split at h
  · cases h
  · next hopening =>
    have hopens := isOpening_of_openingFrom hopening
    split at h
    · split at h
      · cases h
        exact hopens
      · cases h
    · cases h

/-- An embedded text, whatever it holds, is the only member of its object. -/
theorem isObjectOf_of_embeddedFrom {readText : List Char → Except String Value}
    {k : Taken Unit cs.length} (hk : embedding? cs = some k) {t : Taken Value k.rest.length}
    (h : embeddedFrom readText k.rest = .ok t) :
    ∃ ds, IsObjectOf (Derives .value) ('\x7b' :: ds) ∧ cs = ds ++ t.rest := by
  -- The object has this one member, whose value is a string to the grammar.
  obtain ⟨w, key, hw, hkey, hcs⟩ := exists_of_embedding? hk
  unfold embeddedFrom at h
  split at h
  · cases h
  · next c hcolon =>
    split at h
    · cases h
    · next s htext =>
      split at h
      · cases h
      · obtain ⟨e, hend, rfl⟩ := map_eq_ok.1 h
        obtain ⟨v, hv, hkrest⟩ := exists_spaces_of_colon hcolon
        obtain ⟨v', body, hv', hbody, hcrest⟩ := takesOnly_scalar _ _ htext
        obtain ⟨after, hafter, hsrest⟩ := exists_spaces_of_objectEnd hend
        let m : MemberText := ⟨w, key, v, v', body, after, hw, hv, hv', hafter⟩
        have htail : k.rest = m.tail ('\x7d' :: e.rest) := hkrest.trans <|
          congrArg (v ++ ':' :: ·) (hcrest.trans (congrArg (fun ds => v' ++ (body ++ ds)) hsrest))
        refine ⟨_, ⟨_, .filled (.last m hkey ⟨rfl, hbody⟩)⟩, ?_⟩
        rw [MemberText.text_append]
        exact hcs.trans (congrArg (fun ds => w ++ '"' :: (key ++ '"' :: ds)) htail)

/-- By induction on the depth: a container is read when what stands in it is. An embedded text
is taken whole, so that its grammar is that of a string. -/
theorem takesOnly_valueWith (readText : List Char → Except String Value) (depth : Nat) :
    TakesOnly (valueWith readText depth) (Derives .value) := by
  induction depth with
  -- Without a level left, only scalars are read.
  | zero =>
    intro cs t h
    apply exists_behind_spaces
    unfold valueWith at h
    split at h
    · cases h
    · next hopening =>
      cases h
      exact isOpening_of_openingFrom hopening
    · cases h
    · cases h
  | succ depth ih =>
    intro cs t h
    apply exists_behind_spaces
    unfold valueWith at h
    split at h
    · cases h
    · next hopening =>
      cases h
      exact isOpening_of_openingFrom hopening
    · next hopening =>
      have hopens := isOpening_of_openingFrom hopening
      obtain ⟨t, hlist, rfl⟩ := map_eq_ok.1 h
      obtain ⟨ds, hds, hrest⟩ := isListOf_of_listFrom ih hlist
      exact ⟨_, hds.derives, hopens.trans (congrArg ('[' :: ·) hrest)⟩
    · next hopening =>
      have hopens := isOpening_of_openingFrom hopening
      dsimp only at h
      -- An object holds an embedded text if its first key says so, and members otherwise.
      split at h
      · next k hk =>
        obtain ⟨t, hfrom, rfl⟩ := map_eq_ok.1 h
        obtain ⟨ds, hds, hrest⟩ := isObjectOf_of_embeddedFrom hk hfrom
        exact ⟨_, hds.derives, hopens.trans (congrArg ('\x7b' :: ·) hrest)⟩
      · obtain ⟨t, hobject, rfl⟩ := map_eq_ok.1 h
        obtain ⟨ds, hds, hrest⟩ := isObjectOf_of_objectFrom ih hobject
        exact ⟨_, hds.derives, hopens.trans (congrArg ('\x7b' :: ·) hrest)⟩

/-- Whatever is read as a value is one by the grammar, with embedded texts as with any other object.
-/
theorem takesOnly_value (depth : Nat) : TakesOnly (value depth) (Derives .value) :=
  takesOnly_valueWith readText depth

/-! ## One way to take a text apart -/

theorem IsSpaces.stops (hw : IsSpaces w) : Stops continuesNumber w := by
  have hstops := stops_spaces hw (stops_nil (p := continuesNumber))
  rwa [List.append_nil] at hstops

theorem rest_unique {cs : List Char} {rest rest' : List Char}
    (h : ∃ shorter, skim cs = .ok ⟨(), rest, shorter⟩)
    (h' : ∃ shorter, skim cs = .ok ⟨(), rest', shorter⟩) : rest = rest' := by
  obtain ⟨_, h⟩ := h
  obtain ⟨_, h'⟩ := h'
  rw [h] at h'
  cases h'
  rfl

/-- Where a value ends is known from the text. The skimming reader passes over both values, and it
stops in one place only. -/
theorem Derives.value_unique {w w' v v' rest rest' : List Char} (hv : Derives .value v)
    (hv' : Derives .value v') (hw : IsSpaces w) (hw' : IsSpaces w')
    (hrest : Stops continuesNumber rest) (hrest' : Stops continuesNumber rest')
    (h : w ++ (v ++ rest) = w' ++ (v' ++ rest')) : v = v' ∧ rest = rest' := by
  obtain rfl := rest_unique (skim_append hw hv hrest) (h ▸ skim_append hw' hv' hrest')
  have hskip := congrArg skipSpace h
  rw [skipSpace_append hw, skipSpace_append hw', (hv.begins_value rest).skipSpace_eq,
    (hv'.begins_value rest).skipSpace_eq] at hskip
  exact ⟨List.append_cancel_right hskip, rfl⟩

theorem Ends.skipSpace_eq (h : Ends rest) : skipSpace rest = rest := by
  obtain ⟨c, tail, rfl, rfl | rfl | rfl⟩ := h <;> exact skipSpace_of_stops (stops_cons (by decide))

/-- A key ends at the first quote that is not escaped, so that two ways to cut a text behind a key
are one. -/
theorem key_unique {key key' rest rest' : List Char} (hkey : IsCharacters key)
    (hkey' : IsCharacters key') (h : key ++ '"' :: rest = key' ++ '"' :: rest') : rest = rest' := by
  have hskim := skimText_characters hkey rest
  rw [h, skimText_characters hkey'] at hskim
  exact (Except.ok.inj hskim).symm

/-- A member ends where its text says, and its value begins where it says. -/
theorem MemberText.value_unique {m m' : MemberText} {rest rest' : List Char}
    (hkey : IsCharacters m.key) (hkey' : IsCharacters m'.key) (hvalue : Derives .value m.value)
    (hvalue' : Derives .value m'.value) (hrest : Ends rest) (hrest' : Ends rest')
    (h : m.text rest = m'.text rest') : m.value = m'.value ∧ rest = rest' := by
  -- The keys end at the same quote, and the colons stand behind the same blanks.
  have hquoted := congrArg skipSpace h
  rw [skipSpace_text, skipSpace_text] at hquoted
  have htail := congrArg skipSpace (key_unique hkey hkey' (List.cons.inj hquoted).2)
  have hcolon : ∀ (m : MemberText) (rest : List Char), skipSpace (m.tail rest) =
      ':' :: (m.beforeValue ++ (m.value ++ (m.afterValue ++ rest))) := fun m rest => by
    rw [tail, skipSpace_append m.isSpaces_afterKey, skipSpace_of_stops (stops_cons (by decide))]
  rw [hcolon, hcolon] at htail
  obtain ⟨hv, hafter⟩ := hvalue.value_unique hvalue' m.isSpaces_beforeValue
    m'.isSpaces_beforeValue (stops_spaces m.isSpaces_afterValue hrest.stops_continuesNumber)
    (stops_spaces m'.isSpaces_afterValue hrest'.stops_continuesNumber) (List.cons.inj htail).2
  refine ⟨hv, ?_⟩
  have hskip := congrArg skipSpace hafter
  rwa [skipSpace_append m.isSpaces_afterValue, skipSpace_append m'.isSpaces_afterValue,
    hrest.skipSpace_eq, hrest'.skipSpace_eq] at hskip

/-- By induction on the members: all values are of the kind that they are in another way to take
the object apart. -/
theorem forall_members_of_membersText {members : List (String × List Char)}
    (hP : ∀ cs, P cs → Derives .value cs) (h : MembersText (IsText P) members ds) {m : MemberText}
    {ms : List MemberText} (hkeys : ∀ x ∈ m :: ms, IsCharacters x.key)
    (hvalues : ∀ x ∈ m :: ms, Derives .value x.value) (hds : ds = m.object ms []) :
    ∀ x ∈ m :: ms, P x.value := by
  induction h generalizing m ms with
  | last n hspells hn =>
    obtain ⟨hv, hrest⟩ := n.value_unique hspells.isCharacters (hkeys m List.mem_cons_self)
      (hP _ hn.2) (hvalues m List.mem_cons_self) (.closing .object [])
      (MemberText.ends_more ms []) hds
    -- Both ways begin with the same member, and either both go on or none does.
    cases ms with
    | nil => exact List.forall_mem_singleton.2 (hv ▸ hn.2)
    | cons x ms => cases hrest
  | more n hspells hn _ ih =>
    obtain ⟨hv, hrest⟩ := n.value_unique hspells.isCharacters (hkeys m List.mem_cons_self)
      (hP _ hn.2) (hvalues m List.mem_cons_self) (.comma _) (MemberText.ends_more ms []) hds
    cases ms with
    | nil => cases hrest
    | cons x ms =>
      exact List.forall_mem_cons.2 ⟨hv ▸ hn.2, ih (List.forall_mem_cons.1 hkeys).2
        (List.forall_mem_cons.1 hvalues).2 (List.cons.inj hrest).2⟩

/-- The values of an object are of this kind, however it is taken apart: the grammar leaves one way
only. -/
theorem IsObjectOf.forall_members (hP : ∀ cs, P cs → Derives .value cs) {m : MemberText}
    {ms : List MemberText} (h : IsObjectOf P ('\x7b' :: m.object ms []))
    (hkeys : ∀ x ∈ m :: ms, IsCharacters x.key)
    (hvalues : ∀ x ∈ m :: ms, Derives .value x.value) : ∀ x ∈ m :: ms, P x.value := by
  obtain ⟨members, h⟩ := h
  generalize hds : m.object ms [] = ds at h
  cases h with
  | empty hw =>
    have hskip := congrArg skipSpace hds
    rw [MemberText.object, MemberText.skipSpace_text, skipSpace_append hw,
      skipSpace_of_stops (stops_cons (by decide))] at hskip
    cases hskip
  | filled h => exact forall_members_of_membersText hP h hkeys hvalues hds.symm

end SchemaSeed.Json
