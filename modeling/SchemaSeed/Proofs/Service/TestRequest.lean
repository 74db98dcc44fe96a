import SchemaSeed.Proofs.Json.Member
import SchemaSeed.Proofs.Json.Writer
import SchemaSeed.Service.Handler

/-!
# Reading requests for tests

A request that is written as an object with a schema and mock data, in either order, is read
as that schema, with its escapes undone, and the mock data to the letter.
-/

namespace SchemaSeed.Service

open Json (Derives IsSpaces MemberText RawContainer ReadsValue Spells)

/-- A text that asks for a test: an object with two members. Blanks may stand wherever the grammar
admits them, and the mock data may be any value. -/
structure RequestText (schema mockData : String) where
  before : List Char
  after : List Char
  schemaMember : MemberText
  mockMember : MemberText
  schemaFirst : Bool
  /-- What stands between the quotes of the schema. -/
  spelling : List Char
  isSpaces_before : IsSpaces before
  isSpaces_after : IsSpaces after
  spells_schemaKey : Spells "schema".toList schemaMember.key
  spells_mockKey : Spells "mock_data".toList mockMember.key
  spells_schema : Spells schema.toList spelling
  schemaMember_value : schemaMember.value = '"' :: (spelling ++ ['"'])
  mockMember_value : mockMember.value = mockData.toList
  derives_mockData : Derives .value mockData.toList

namespace RequestText

variable {schema mockData : String} (t : RequestText schema mockData)

def first : MemberText := if t.schemaFirst then t.schemaMember else t.mockMember

def second : MemberText := if t.schemaFirst then t.mockMember else t.schemaMember

def text : String :=
  String.ofList (t.before ++ '\x7b' :: t.first.object [t.second] t.after)

/-- A property of both members, whatever their order in the text. -/
theorem forall_mem_members {P : MemberText → Prop} (hschema : P t.schemaMember)
    (hmock : P t.mockMember) : ∀ m ∈ [t.first, t.second], P m := by
  rw [first, second]
  cases t.schemaFirst <;> simp [hschema, hmock]

/-- The text without blanks, with the schema first. Any schema can be written so. -/
def ofMockData (schema : String) {mockData : String} (h : Derives .value mockData.toList) :
    RequestText schema mockData where
  before := []
  after := []
  schemaMember := .tight "schema".toList ('"' :: (schema.toList.flatMap Json.escaped ++ ['"']))
  mockMember := .tight "mock_data".toList mockData.toList
  schemaFirst := true
  spelling := schema.toList.flatMap Json.escaped
  isSpaces_before := Json.isSpaces_nil
  isSpaces_after := Json.isSpaces_nil
  spells_schemaKey := Json.spells_escaped "schema".toList
  spells_mockKey := Json.spells_escaped "mock_data".toList
  spells_schema := Json.spells_escaped schema.toList
  schemaMember_value := rfl
  mockMember_value := rfl
  derives_mockData := h

end RequestText

namespace TestRequest

/-- The bytes of a text are the text, so that decoding never fails here. -/
theorem decode_text (body : String) (s : String) : decode (.text body) s.toList = some s := by
  rw [decode, String.ofList_toList]

/-- A literal is read as the text that it spells, escapes and all. -/
theorem spelled_text (body : String) {s : String} {cs : List Char} (h : Spells s.toList cs) :
    spelled (.text body) ('"' :: (cs ++ ['"'])) = some s := by
  have hparse := Json.parse_of_reads (Json.string_reads h)
  simp only [spelled, decode, Option.bind_eq_bind, Option.bind_some, hparse, String.ofList_toList]
  rfl

variable {schema mockData : String} (t : RequestText schema mockData)

/-- The schema is read from its literal, and the mock data is taken as it was written. -/
theorem ofFields_text (body : String) :
    ofFields (.text body) t.schemaMember.value t.mockMember.value = some ⟨schema, mockData⟩ := by
  rw [ofFields, t.schemaMember_value, t.mockMember_value, spelled_text body t.spells_schema,
    decode_text]
  rfl

/-- The members of a request, in either order. Both keys must be there, each of them once. -/
theorem ofContainer_members (body : String) :
    ofContainer (.text body) (.object ([t.first, t.second].map fun m =>
      ('"' :: (m.key ++ ['"']), m.value))) = some ⟨schema, mockData⟩ := by
  have hschema := spelled_text body t.spells_schemaKey
  have hmock := spelled_text body t.spells_mockKey
  have hfields := ofFields_text t body
  rw [RequestText.first, RequestText.second]
  -- The members are picked by their keys, so the order does not matter.
  cases t.schemaFirst <;> simp [ofContainer, hschema, hmock, hfields]

/-- So the body is read as the test that it asks for. -/
theorem ofBody_text : ofBody (.text t.text) = some ⟨schema, mockData⟩ := by
  have hkeys : ∀ m ∈ [t.first, t.second], Json.IsCharacters m.key :=
    t.forall_mem_members t.spells_schemaKey.isCharacters t.spells_mockKey.isCharacters
  have hvalues : ∀ m ∈ [t.first, t.second], Derives .value m.value :=
    t.forall_mem_members (t.schemaMember_value ▸ .string t.spells_schema.isCharacters)
      (t.mockMember_value ▸ t.derives_mockData)
  have hcontainer := Json.rawContainer_object t.isSpaces_before t.first [t.second] t.after
    hkeys hvalues
  have hdocument := Json.document_of_taken hcontainer t.isSpaces_after
  rw [ofBody, characters, RequestText.text, String.toList_ofList, hdocument]
  exact ofContainer_members t t.text

end TestRequest

/-- And the request is accepted, if it says that its body is JSON and is not too long. -/
theorem acceptTest_text {schema mockData : String} (t : RequestText schema mockData)
    {r : Request} (htype : (r.contentType.bind MediaType.parse).any MediaType.isJson = true)
    (hbody : r.body = .text t.text) (hsize : r.body.byteCount ≤ 2 * 1024 * 1024) :
    acceptTest r = some ⟨schema, mockData⟩ := by
  obtain ⟨media, hmedia, hjson⟩ := (Option.any_eq_true MediaType.isJson _).1 htype
  rw [acceptTest, hmedia]
  dsimp only
  rw [hjson, Bool.true_and, if_pos (decide_eq_true hsize), hbody, TestRequest.ofBody_text]

end SchemaSeed.Service
