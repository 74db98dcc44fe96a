import SchemaSeed.Content

/-!
# Bytes of a text

A text is decoded from its own bytes (`decode?_encode`).
-/

namespace SchemaSeed.Text

def encode (cs : List Char) : List UInt8 := cs.flatMap String.utf8EncodeChar

/-- The library lists the bytes of an array from the end of a list that it has built so far, so the
invariant is about that list too. -/
theorem toList_loop (bytes : ByteArray) (i : Nat) (done : List UInt8) :
    ByteArray.toList.loop bytes i done = done.reverse ++ bytes.data.toList.drop i := by
  fun_induction ByteArray.toList.loop bytes i done with
  | case1 i done h ih =>
    have hi : i < bytes.data.size := h
    have hget : bytes.get! i = bytes.data[i] := getElem!_pos bytes.data i hi
    rw [ih, List.reverse_cons, List.append_assoc, hget, List.singleton_append]
    exact congrArg _ (List.drop_eq_getElem_cons (l := bytes.data.toList) hi).symm
  | case2 i done h =>
    have hi : bytes.data.toList.length ≤ i := Nat.le_of_not_lt h
    rw [List.drop_eq_nil_of_le hi, List.append_nil]

/-- The bytes of a string are the bytes of its characters, one character after the other. -/
theorem toList_toUTF8 (s : String) : s.toUTF8.toList = encode s.toList := by
  have hbytes : s.toUTF8 = s.toList.utf8Encode := String.utf8Encode_toList.symm
  rw [ByteArray.toList, toList_loop, List.drop_zero, List.reverse_nil, List.nil_append, hbytes,
    List.utf8Encode, List.toList_data_toByteArray, encode]

/-- Bytes that were made of a text can be decoded, and give the text again. -/
theorem decode?_encode (cs : List Char) :
    Content.decode? (encode cs) = some (String.ofList cs) := by
  have hbytes : (⟨(encode cs).toArray⟩ : ByteArray) = (String.ofList cs).toByteArray := by
    rw [String.toByteArray_ofList, List.utf8Encode, encode]
    exact ByteArray.ext List.data_toByteArray.symm
  rw [Content.decode?, hbytes, String.fromUTF8?, dif_pos (String.ofList cs).isValidUTF8]
  rfl

end SchemaSeed.Text
