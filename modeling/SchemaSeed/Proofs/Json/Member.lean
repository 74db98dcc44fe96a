import SchemaSeed.Proofs.Json.Reading

/-!
# Reading objects member by member

Objects as they may be written, with blanks wherever the grammar allows them. A reader of
members finds them in their order, whatever it makes of keys and values (`memberList_object`).
-/

namespace SchemaSeed.Json

open Text (Stops stops_cons)

/-- A member of an object as it is written. -/
structure MemberText where
  before : List Char
  /-- What stands between the quotes. -/
  key : List Char
  afterKey : List Char
  beforeValue : List Char
  value : List Char
  afterValue : List Char
  isSpaces_before : IsSpaces before
  isSpaces_afterKey : IsSpaces afterKey
  isSpaces_beforeValue : IsSpaces beforeValue
  isSpaces_afterValue : IsSpaces afterValue

namespace MemberText

def tight (key value : List Char) : MemberText where
  before := []
  key := key
  afterKey := []
  beforeValue := []
  value := value
  afterValue := []
  isSpaces_before := isSpaces_nil
  isSpaces_afterKey := isSpaces_nil
  isSpaces_beforeValue := isSpaces_nil
  isSpaces_afterValue := isSpaces_nil

/-- What follows the key of a member, up to the given rest. -/
def tail (m : MemberText) (rest : List Char) : List Char :=
  m.afterKey ++ ':' :: (m.beforeValue ++ (m.value ++ (m.afterValue ++ rest)))

def text (m : MemberText) (rest : List Char) : List Char :=
  m.before ++ '"' :: (m.key ++ '"' :: m.tail rest)

/-- The rest of an object after one of its members: others, each after a comma, the closing
brace, and what follows. -/
def more : List MemberText → List Char → List Char
  | [], rest => '\x7d' :: rest
  | m :: ms, rest => ',' :: m.text (more ms rest)

/-- What follows the opening brace of an object with these members. -/
def object (m : MemberText) (ms : List MemberText) (rest : List Char) : List Char :=
  m.text (more ms rest)

/-- Behind blanks, a member begins with the quote of its key. -/
theorem skipSpace_text (m : MemberText) (rest : List Char) :
    skipSpace (m.text rest) = '"' :: (m.key ++ '"' :: m.tail rest) := by
  rw [text, skipSpace_append m.isSpaces_before, skipSpace_of_stops (stops_cons (by decide))]

theorem skipSpace_more {w : List Char} (hw : IsSpaces w) (ms : List MemberText)
    (rest : List Char) : skipSpace (w ++ more ms rest) = more ms rest := by
  rw [skipSpace_append hw]
  cases ms with
  | nil => exact skipSpace_of_stops (stops_cons (by decide))
  | cons m ms => exact skipSpace_of_stops (stops_cons (by decide))

/-- After a member comes a comma or a brace, either of which ends a number. -/
theorem ends_more (ms : List MemberText) (rest : List Char) : Ends (more ms rest) := by
  cases ms with
  | nil => exact .closing .object rest
  | cons m ms => exact .comma _

end MemberText

/-! ## Keys -/

/-- The reader takes what stands between the quotes of a key for `k`. -/
def ReadsKey {κ : Type u} (literal : Reader κ) (key : List Char) (k : κ) : Prop :=
  ∀ rest, ∃ shorter, literal (key ++ '"' :: rest) = .ok ⟨k, rest, shorter⟩

variable {κ α : Type} {literal : Reader κ} {item : Reader α} {k : κ} {cs rest : List Char}

/-- Behind its quote, a key is read by its own reader. -/
theorem keyFrom_quote {key : List Char} (hkey : ReadsKey literal key k) (cause : Cause)
    (rest : List Char) :
    ∃ shorter, keyFrom literal cause ('"' :: (key ++ '"' :: rest)) = .ok ⟨k, rest, shorter⟩ := by
  obtain ⟨shorter, hliteral⟩ := hkey rest
  refine ⟨Nat.lt_succ_of_lt shorter, ?_⟩
  rw [keyFrom, if_pos rfl, hliteral]
  rfl

/-- A brace ends the object, whether a member came before or not. -/
theorem objectTurn_close (literal : Reader κ) (first : Bool) (hs : skipSpace cs = '\x7d' :: rest) :
    ∃ shorter, objectTurn literal first cs = .ok (.close rest shorter) := by
  refine ⟨length_lt_of_skipSpace hs, ?_⟩
  rw [objectTurn]
  split
  · next heq => rw [hs] at heq; cases heq
  · next heq =>
    rw [hs] at heq
    cases heq
    rw [if_pos rfl]

/-- The first key comes at once; a later one comes after a comma (`objectTurn_comma`). -/
theorem objectTurn_first {key : List Char} (hkey : ReadsKey literal key k)
    (hs : skipSpace cs = '"' :: (key ++ '"' :: rest)) :
    ∃ shorter, objectTurn literal true cs = .ok (.key ⟨k, rest, shorter⟩) := by
  obtain ⟨shorter, hfrom⟩ := keyFrom_quote hkey .keyNotString rest
  refine ⟨Nat.lt_of_lt_of_le shorter (length_le_of_skipSpace hs), ?_⟩
  rw [objectTurn]
  split
  · next heq => rw [hs] at heq; cases heq
  · next heq =>
    rw [hs] at heq
    cases heq
    rw [if_neg (by decide), if_pos rfl, hfrom]
    rfl

theorem objectTurn_comma {key ds : List Char} (hkey : ReadsKey literal key k)
    (hs : skipSpace cs = ',' :: ds) (hs' : skipSpace ds = '"' :: (key ++ '"' :: rest)) :
    ∃ shorter, objectTurn literal false cs = .ok (.key ⟨k, rest, shorter⟩) := by
  obtain ⟨shorter, hfrom⟩ := keyFrom_quote hkey .keyNotString rest
  have hds := Nat.lt_of_lt_of_le shorter (length_le_of_skipSpace hs')
  refine ⟨Nat.lt_trans hds (length_lt_of_skipSpace hs), ?_⟩
  rw [objectTurn]
  split
  · next heq => rw [hs] at heq; cases heq
  · next heq =>
    rw [hs] at heq
    cases heq
    rw [if_neg (by decide), if_neg Bool.false_ne_true, if_pos rfl]
    split
    · next heq => rw [hs'] at heq; cases heq
    · next heq =>
      rw [hs'] at heq
      cases heq
      dsimp only
      rw [if_neg (by decide), hfrom]
      rfl

/-! ## Members -/

theorem memberList_close {bound : Nat} {first : Bool} (done : List (κ × α))
    (hs : skipSpace cs = '\x7d' :: rest) (h : cs.length ≤ bound) :
    ∃ shorter, memberList literal item first done cs h = .ok ⟨done.reverse, rest, shorter⟩ := by
  obtain ⟨shorter, hturn⟩ := objectTurn_close literal first hs
  refine ⟨Nat.lt_of_lt_of_le shorter h, ?_⟩
  rw [memberList, hturn]

/-- A member whose key comes next: its value is read, and the reader goes on with what follows it.
-/
theorem memberList_key (done : List (κ × α)) {bound : Nat} {first : Bool} {m : MemberText} {a : α}
    {rest : List Char} (hturn : ∃ shorter, objectTurn literal first cs =
      .ok (.key ⟨k, m.tail rest, shorter⟩))
    (hvalue : ReadsValue item m.value a) (hrest : Ends rest) (h : cs.length ≤ bound) :
    ∃ h', memberList literal item first done cs h =
      memberList literal item false ((k, a) :: done) (m.afterValue ++ rest) h' := by
  obtain ⟨hkey, hturn⟩ := hturn
  obtain ⟨hcolon, hcolonEq⟩ := colon_append m.isSpaces_afterKey
    (m.beforeValue ++ (m.value ++ (m.afterValue ++ rest)))
  obtain ⟨hitem, hitemEq⟩ := hvalue m.isSpaces_beforeValue
    (stops_spaces m.isSpaces_afterValue hrest.stops_continuesNumber)
  have hbound := Nat.lt_trans hitem (Nat.lt_trans hcolon hkey)
  refine ⟨Nat.le_of_lt (Nat.lt_of_lt_of_le hbound h), ?_⟩
  -- Key, colon and value are read one after the other.
  rw [memberList, hturn]
  dsimp only [MemberText.tail]
  rw [hcolonEq]
  dsimp only
  rw [hitemEq]

variable {keyOf : MemberText → κ} {valueOf : MemberText → α}

/-- By induction on the members that are left: the keys and the values are what their readers take
them for. -/
theorem memberList_more (ms : List MemberText)
    (hkey : ∀ m ∈ ms, ReadsKey literal m.key (keyOf m))
    (hvalue : ∀ m ∈ ms, ReadsValue item m.value (valueOf m)) {w : List Char} (hw : IsSpaces w)
    (done : List (κ × α)) {bound : Nat} (h : (w ++ MemberText.more ms rest).length ≤ bound) :
    ∃ shorter, memberList literal item false done (w ++ MemberText.more ms rest) h =
      .ok ⟨done.reverse ++ ms.map fun m => (keyOf m, valueOf m), rest, shorter⟩ := by
  induction ms generalizing w done with
  | nil =>
    rw [List.map_nil, List.append_nil]
    exact memberList_close done (MemberText.skipSpace_more hw [] rest) h
  | cons m ms ih =>
    -- A comma, a key, a colon and a value, and what is left begins like this again.
    have hturn := objectTurn_comma (hkey m List.mem_cons_self)
      (MemberText.skipSpace_more hw (m :: ms) rest)
      (m.skipSpace_text (MemberText.more ms rest))
    obtain ⟨hnext, hstep⟩ := memberList_key done hturn
      (hvalue m List.mem_cons_self) (MemberText.ends_more ms rest) h
    obtain ⟨shorter, hmore⟩ := ih (fun m hm => hkey m (List.mem_cons_of_mem _ hm))
      (fun m hm => hvalue m (List.mem_cons_of_mem _ hm)) m.isSpaces_afterValue
      ((keyOf m, valueOf m) :: done) hnext
    refine ⟨shorter, ?_⟩
    rw [hstep, hmore, List.reverse_cons, List.append_assoc]
    rfl

/-- The members of an object are read one after the other, from the first to the brace. -/
theorem memberList_object (m : MemberText) (ms : List MemberText) (rest : List Char)
    (hkey : ∀ x ∈ m :: ms, ReadsKey literal x.key (keyOf x))
    (hvalue : ∀ x ∈ m :: ms, ReadsValue item x.value (valueOf x)) {bound : Nat}
    (h : (m.object ms rest).length ≤ bound) :
    ∃ shorter, memberList literal item true [] (m.object ms rest) h =
      .ok ⟨(m :: ms).map fun x => (keyOf x, valueOf x), rest, shorter⟩ := by
  have hturn := objectTurn_first (hkey m List.mem_cons_self)
    (m.skipSpace_text (MemberText.more ms rest))
  obtain ⟨hnext, hstep⟩ := memberList_key [] hturn (hvalue m List.mem_cons_self)
    (MemberText.ends_more ms rest) h
  obtain ⟨shorter, hmore⟩ := memberList_more ms (fun m hm => hkey m (List.mem_cons_of_mem _ hm))
    (fun m hm => hvalue m (List.mem_cons_of_mem _ hm)) m.isSpaces_afterValue
    [(keyOf m, valueOf m)] hnext
  exact ⟨shorter, hstep.trans hmore⟩

/-! ## Keys as they are written -/

/-- A key that is kept as it is written includes its quotes. -/
theorem rawLiteral_reads {key : List Char} (h : IsCharacters key) :
    ReadsKey rawLiteral key ('"' :: (key ++ ['"'])) := by
  intro rest
  have htext := skimText_characters h rest
  have hquoted : upTo (key ++ '"' :: rest) rest.length = key ++ ['"'] := by
    rw [List.append_cons]
    exact upTo_append (key ++ ['"']) rest
  refine ⟨shorter_of_skimText htext, ?_⟩
  rw [rawLiteral]
  split
  · next heq => rw [htext] at heq; cases heq
  · next heq =>
    rw [htext] at heq
    cases heq
    rw [hquoted]

/-- An object is taken apart into its members, each with its key and its value as they are written.
-/
theorem rawContainer_object {w : List Char} (hw : IsSpaces w) (m : MemberText)
    (ms : List MemberText) (rest : List Char) (hkey : ∀ x ∈ m :: ms, IsCharacters x.key)
    (hvalue : ∀ x ∈ m :: ms, Derives .value x.value) :
    ∃ shorter, rawContainer (w ++ '\x7b' :: m.object ms rest) =
      .ok ⟨.object ((m :: ms).map fun x => ('"' :: (x.key ++ ['"']), x.value)), rest, shorter⟩ := by
  have hskip : skipSpace (w ++ '\x7b' :: m.object ms rest) = '\x7b' :: m.object ms rest := by
    rw [skipSpace_append hw, skipSpace_of_stops (stops_cons (by decide))]
  have hopening : ∃ shorter, openingFrom (skipSpace (w ++ '\x7b' :: m.object ms rest)) =
      .ok (.object (m.object ms rest) shorter) := by
    rw [hskip]
    exact ⟨length_lt_cons _ _, rfl⟩
  obtain ⟨hinside, hopening⟩ := hopening
  obtain ⟨shorter, hmembers⟩ := memberList_object m ms rest
    (fun x hx => rawLiteral_reads (hkey x hx)) (fun x hx => rawValue_reads (hvalue x hx))
    (length_le_self _)
  refine ⟨Nat.lt_of_lt_of_le shorter (length_le_of_lt_skipSpace hinside), ?_⟩
  rw [rawContainer, hopening]
  dsimp only
  rw [hmembers]
  rfl

end SchemaSeed.Json
