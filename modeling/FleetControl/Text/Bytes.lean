/-!
# Text as bytes

Text is sent, hashed and sealed as the bytes of its UTF-8 form.
-/

namespace FleetControl
namespace Text

def utf8 (s : String) : List UInt8 :=
  s.toUTF8.data.toList

/-- The text with these UTF-8 bytes, if they are well formed. -/
def ofUtf8? (bytes : List UInt8) : Option String :=
  String.fromUTF8? ⟨bytes.toArray⟩

def utf8Length (s : String) : Nat :=
  s.utf8ByteSize

end Text
end FleetControl
