/-!
# Text as bytes

Files and hashed text are UTF-8.
-/

namespace SelectorRouter.Text

def utf8 (s : String) : List UInt8 :=
  s.toUTF8.data.toList

/-- The text of a byte sequence; `none` when it is not UTF-8. -/
def ofUtf8? (bytes : List UInt8) : Option String :=
  String.fromUTF8? ⟨bytes.toArray⟩

end SelectorRouter.Text
