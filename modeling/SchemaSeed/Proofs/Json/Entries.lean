import SchemaSeed.Proofs.Json.Member

/-!
# Reading lists and objects entry by entry

Lists and objects as they may be written, with blanks wherever the grammar allows them. How
an entry is written is left open: if one is read as what it stands for, then so is the list
(`listFrom_text`) or the object (`objectFrom_text`).
-/

namespace SchemaSeed.Json

variable {α : Type} {P : α → List Char → Prop}

/-! ## Texts -/

/-- An entry of a list as it is written, with the blanks on either side. -/
structure ItemText where
  before : List Char
  value : List Char
  after : List Char
  isSpaces_before : IsSpaces before
  isSpaces_after : IsSpaces after

def ItemText.text (i : ItemText) (rest : List Char) : List Char :=
  i.before ++ (i.value ++ (i.after ++ rest))

theorem ItemText.text_append (i : ItemText) (cs rest : List Char) :
    i.text cs ++ rest = i.text (cs ++ rest) := by
  simp only [text, List.append_assoc]

theorem MemberText.text_append (m : MemberText) (cs rest : List Char) :
    m.text cs ++ rest = m.text (cs ++ rest) := by
  simp only [text, tail, List.append_assoc, List.cons_append]

/-- The entries of a list and its closing bracket. `P` says how an entry is written, so that the
same relation serves for values, strings and rows. -/
inductive ItemsText (P : α → List Char → Prop) : List α → List Char → Prop
  | last {a : α} (i : ItemText) (h : P a i.value) : ItemsText P [a] (i.text [']'])
  | more {a : α} {as : List α} {ds : List Char} (i : ItemText) (h : P a i.value)
      (hmore : ItemsText P as ds) : ItemsText P (a :: as) (i.text (',' :: ds))

/-- The members of an object and its closing brace. A key may come again. -/
inductive MembersText (P : α → List Char → Prop) : List (String × α) → List Char → Prop
  | last {k : String} {a : α} (m : MemberText) (hkey : Spells k.toList m.key)
      (h : P a m.value) : MembersText P [(k, a)] (m.text ['\x7d'])
  | more {k : String} {a : α} {ms : List (String × α)} {ds : List Char} (m : MemberText)
      (hkey : Spells k.toList m.key) (h : P a m.value) (hmore : MembersText P ms ds) :
      MembersText P ((k, a) :: ms) (m.text (',' :: ds))

inductive ListText (P : α → List Char → Prop) : List α → List Char → Prop
  | empty {w : List Char} (hw : IsSpaces w) : ListText P [] ('[' :: (w ++ [']']))
  | filled {as : List α} {ds : List Char} (h : ItemsText P as ds) : ListText P as ('[' :: ds)

inductive ObjectText (P : α → List Char → Prop) : List (String × α) → List Char → Prop
  | empty {w : List Char} (hw : IsSpaces w) : ObjectText P [] ('\x7b' :: (w ++ ['\x7d']))
  | filled {ms : List (String × α)} {ds : List Char} (h : MembersText P ms ds) :
      ObjectText P ms ('\x7b' :: ds)

variable {item : Reader α} {a : α} {as : List α} {ms : List (String × α)} {first : Bool}
  {bound : Nat} {cs ds es rest w : List Char}

/-- The reader takes a text for `a`, and the text begins like an entry: not with a blank, a comma or
a closing bracket. -/
structure ReadsEntry (item : Reader α) (a : α) (cs : List Char) : Prop where
  reads : ReadsValue item cs a
  begins : ∀ rest, Begins (cs ++ rest)

/-! ## Strings -/

def StringText (s : String) (cs : List Char) : Prop :=
  ∃ body, Spells s.toList body ∧ cs = '"' :: (body ++ ['"'])

/-- A string is read as itself, and a quote begins an entry. -/
theorem StringText.readsEntry {s : String} (h : StringText s cs) : ReadsEntry string s cs := by
  obtain ⟨body, hbody, rfl⟩ := h
  have hreads := string_reads hbody
  rw [String.ofList_toList] at hreads
  exact ⟨hreads, fun rest => begins_cons (by decide) (by decide) (by decide) _⟩

/-- As an embedded text, a string is read in the same way. -/
theorem StringText.readsRaw {s : String} (h : StringText s cs) : ReadsValue rawText cs s := by
  obtain ⟨body, hbody, rfl⟩ := h
  have hreads := rawText_reads hbody
  rwa [String.ofList_toList] at hreads

/-! ## What comes next -/

/-- An entry comes next: at once, or after a comma. In either case the reader has the same text
before it. -/
def Next (first : Bool) (cs ds : List Char) : Prop :=
  if first then skipSpace cs = skipSpace ds
  else ∃ es, skipSpace cs = ',' :: es ∧ skipSpace es = skipSpace ds

theorem next_first (cs : List Char) : Next true cs cs := rfl

theorem next_comma (hw : IsSpaces w) (ds : List Char) : Next false (w ++ ',' :: ds) ds := by
  refine ⟨ds, ?_, rfl⟩
  rw [skipSpace_append hw, skipSpace_comma]

/-! ## Lists -/

/-- A closing bracket ends the list, behind blanks, whether it is empty or not. -/
theorem listTurn_close (first : Bool) (hs : skipSpace cs = ']' :: rest) :
    ∃ shorter, listTurn first cs = .ok (.close rest shorter) := by
  refine ⟨length_lt_of_skipSpace hs, ?_⟩
  rw [listTurn]
  split
  · next heq => rw [hs] at heq; cases heq
  · next heq =>
    rw [hs] at heq
    cases heq
    rw [if_pos rfl]

/-- What begins like an entry is taken for one, once the comma is read that stands before it. -/
theorem listTurn_next (hnext : Next first cs ds) (hds : skipSpace ds = es) (hes : Begins es) :
    ∃ le, listTurn first cs = .ok (.entry es le) := by
  obtain ⟨c, tail, rfl, -, hlist, -⟩ := hes
  -- The first entry stands behind the bracket, and all others behind a comma.
  cases first with
  | true =>
    have hs : skipSpace cs = c :: tail := hnext.trans hds
    refine ⟨length_le_of_skipSpace hs, ?_⟩
    rw [listTurn]
    split
    · next heq => rw [hs] at heq; cases heq
    · next heq =>
      rw [hs] at heq
      cases heq
      rw [if_neg hlist, if_pos rfl]
  | false =>
    obtain ⟨ds', hs, hds'⟩ := hnext
    have hs' : skipSpace ds' = c :: tail := hds'.trans hds
    have hle := Nat.le_of_lt (length_lt_of_skipSpace hs)
    refine ⟨Nat.le_trans (length_le_of_skipSpace hs') hle, ?_⟩
    rw [listTurn]
    split
    · next heq => rw [hs] at heq; cases heq
    · next heq =>
      rw [hs] at heq
      cases heq
      rw [if_neg (by decide), if_neg Bool.false_ne_true, if_pos rfl]
      split
      · next heq => rw [hs'] at heq; cases heq
      · next heq =>
        rw [hs'] at heq
        cases heq
        dsimp only
        rw [if_neg hlist]

/-- One entry of a list is read, and the reader goes on with what follows it. -/
theorem entries_item {i : ItemText} (h : ReadsEntry item a i.value) (done : List α)
    (hnext : Next first cs (i.text rest)) (hrest : Ends rest) (hbound : cs.length ≤ bound) :
    ∃ h', entries item first done cs hbound =
      entries item false (a :: done) (i.after ++ rest) h' := by
  have hskip : skipSpace (i.text rest) = i.value ++ (i.after ++ rest) := by
    rw [ItemText.text, skipSpace_append i.isSpaces_before, (h.begins _).skipSpace_eq]
  obtain ⟨hle, hturn⟩ := listTurn_next hnext hskip (h.begins _)
  have hitem : ∃ shorter, item (i.value ++ (i.after ++ rest)) =
      .ok ⟨a, i.after ++ rest, shorter⟩ :=
    h.reads isSpaces_nil (stops_spaces i.isSpaces_after hrest.stops_continuesNumber)
  obtain ⟨hafter, hitem⟩ := hitem
  refine ⟨Nat.le_of_lt (Nat.lt_of_lt_of_le hafter (Nat.le_trans hle hbound)), ?_⟩
  rw [entries, hturn]
  dsimp only
  rw [hitem]

section Entries

variable (hreads : ∀ a cs, P a cs → ReadsEntry item a cs)

include hreads

/-- By induction on the entries: each is read in its turn, and the bracket ends the list. -/
theorem entries_text (h : ItemsText P as ds) (done : List α) (rest : List Char)
    (hnext : Next first cs (ds ++ rest)) (hbound : cs.length ≤ bound) :
    ∃ shorter, entries item first done cs hbound = .ok ⟨done.reverse ++ as, rest, shorter⟩ := by
  -- The last entry is followed by the bracket, and each one before it by a comma.
  induction h generalizing first cs done with
  | @last a i ha =>
    rw [ItemText.text_append, List.singleton_append] at hnext
    obtain ⟨hafter, hitem⟩ := entries_item (hreads a _ ha) done hnext (.closing .list rest) hbound
    have hskip : skipSpace (i.after ++ ']' :: rest) = ']' :: rest :=
      skipSpace_spaces_closing .list i.isSpaces_after rest
    obtain ⟨shorter, hturn⟩ := listTurn_close false hskip
    refine ⟨Nat.lt_of_lt_of_le shorter hafter, ?_⟩
    rw [hitem, entries, hturn]
    dsimp only
    rw [List.reverse_cons]
  | @more a as ds i ha _ ih =>
    rw [ItemText.text_append, List.cons_append] at hnext
    obtain ⟨hafter, hitem⟩ := entries_item (hreads a _ ha) done hnext (.comma (ds ++ rest)) hbound
    obtain ⟨shorter, hmore⟩ := ih (a :: done) (next_comma i.isSpaces_after _) hafter
    refine ⟨shorter, ?_⟩
    rw [hitem, hmore, List.reverse_cons, List.append_assoc]
    rfl

/-- A list is read behind its bracket, with anything after it. -/
theorem listFrom_text (h : ListText P as cs) (rest : List Char) :
    ∃ ds shorter, cs = '[' :: ds ∧ listFrom item (ds ++ rest) = .ok ⟨as, rest, shorter⟩ := by
  cases h with
  | @empty w hw =>
    have hskip : skipSpace (w ++ [']'] ++ rest) = ']' :: rest := by
      rw [List.append_assoc]
      exact skipSpace_spaces_closing .list hw rest
    obtain ⟨shorter, hturn⟩ := listTurn_close true hskip
    refine ⟨_, shorter, rfl, ?_⟩
    rw [listFrom, entries, hturn]
    rfl
  | @filled _ ds h =>
    obtain ⟨shorter, hentries⟩ := entries_text hreads h [] rest (next_first _) (length_le_self _)
    exact ⟨ds, shorter, rfl, hentries⟩

end Entries

/-! ## Objects -/

theorem stringFrom_reads {k : String} {key : List Char} (h : Spells k.toList key) :
    ReadsKey stringFrom key k := by
  intro rest
  have hread := stringFrom_spells h rest
  rwa [String.ofList_toList] at hread

theorem objectTurn_next {k : String} {m : MemberText} (hkey : Spells k.toList m.key)
    (hnext : Next first cs (m.text rest)) :
    ∃ shorter, objectTurn stringFrom first cs = .ok (.key ⟨k, m.tail rest, shorter⟩) := by
  have hskip := m.skipSpace_text rest
  cases first with
  | true => exact objectTurn_first (stringFrom_reads hkey) (hnext.trans hskip)
  | false =>
    obtain ⟨es, hs, hes⟩ := hnext
    exact objectTurn_comma (stringFrom_reads hkey) hs (hes.trans hskip)

section Members

variable (hreads : ∀ a cs, P a cs → ReadsEntry item a cs)

include hreads

/-- By induction on the members: each key is read with its value, and the brace ends the object. -/
theorem memberList_text (h : MembersText P ms ds) (done : List (String × α)) (rest : List Char)
    (hnext : Next first cs (ds ++ rest)) (hbound : cs.length ≤ bound) :
    ∃ shorter, memberList stringFrom item first done cs hbound =
      .ok ⟨done.reverse ++ ms, rest, shorter⟩ := by
  induction h generalizing first cs done with
  | @last k a m hkey ha =>
    rw [MemberText.text_append, List.singleton_append] at hnext
    obtain ⟨hafter, hmember⟩ := memberList_key done (objectTurn_next hkey hnext)
      (hreads a _ ha).reads (.closing .object rest) hbound
    rw [hmember, ← List.reverse_cons]
    exact memberList_close _ (MemberText.skipSpace_more m.isSpaces_afterValue [] rest) hafter
  | @more k a ms ds m hkey ha _ ih =>
    rw [MemberText.text_append, List.cons_append] at hnext
    obtain ⟨hafter, hmember⟩ := memberList_key done (objectTurn_next hkey hnext)
      (hreads a _ ha).reads (.comma (ds ++ rest)) hbound
    obtain ⟨shorter, hmore⟩ := ih ((k, a) :: done) (next_comma m.isSpaces_afterValue _) hafter
    refine ⟨shorter, ?_⟩
    rw [hmember, hmore, List.reverse_cons, List.append_assoc]
    rfl

/-- An object is read behind its brace. A key that comes again is put where it came first. -/
theorem objectFrom_text (h : ObjectText P ms cs) (rest : List Char) :
    ∃ ds shorter, cs = '\x7b' :: ds ∧
      objectFrom item (ds ++ rest) = .ok ⟨Assoc.ofPairs ms, rest, shorter⟩ := by
  -- An empty object has its brace where a key could stand.
  cases h with
  | @empty w hw =>
    have hskip : skipSpace (w ++ ['\x7d'] ++ rest) = '\x7d' :: rest := by
      rw [List.append_assoc]
      exact skipSpace_spaces_closing .object hw rest
    have hclose : ∃ shorter, memberList stringFrom item true [] (w ++ ['\x7d'] ++ rest)
        (length_le_self _) = .ok ⟨[], rest, shorter⟩ := memberList_close [] hskip _
    obtain ⟨shorter, hclose⟩ := hclose
    refine ⟨_, shorter, rfl, ?_⟩
    rw [objectFrom, hclose]
    rfl
  | @filled _ ds h =>
    obtain ⟨shorter, hmembers⟩ := memberList_text hreads h [] rest (next_first _)
      (length_le_self _)
    refine ⟨ds, shorter, rfl, ?_⟩
    rw [objectFrom, hmembers]
    rfl

end Members

end SchemaSeed.Json
