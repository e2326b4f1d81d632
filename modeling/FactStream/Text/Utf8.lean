import FactStream.Text.Blank

/-!
# Text as bytes

Streams carry bytes, stages work on text.  Reading a stream therefore starts
by decoding UTF-8, which refuses overlong forms, surrogates and code points
past the last one, and writing ends by encoding.
-/

namespace FactStream

abbrev Bytes := List UInt8

namespace Text

def encode (text : Text) : Bytes :=
  text.flatMap String.utf8EncodeChar

end Text

namespace Bytes

/-- The text that the bytes encode, if they are UTF-8. -/
def decode? (bytes : Bytes) : Option Text :=
  bytes.toByteArray.utf8Decode?.map Array.toList

/-- Encoding loses nothing. -/
theorem decode?_encode (text : Text) : decode? text.encode = some text := by
  have hdecode := @List.utf8Decode?_utf8Encode text
  unfold List.utf8Encode at hdecode
  simp [decode?, Text.encode, hdecode]

end Bytes

@[simp]
theorem Text.encode_append (left right : Text) :
    Text.encode (left ++ right) = left.encode ++ right.encode := by
  simp [Text.encode]

end FactStream
