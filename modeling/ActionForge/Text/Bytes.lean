/-!
# Bytes of texts

How many bytes a text takes, and dropping characters by bytes.
-/

namespace ActionForge.Text

/-- The bytes of characters. -/
def byteLength : List Char → Nat
  | [] => 0
  | c :: rest => c.utf8Size + byteLength rest

/-- Drops characters from the front until `count` bytes are gone. -/
def dropBytes : Nat → List Char → List Char
  | _, [] => []
  | count, c :: rest => if count = 0 then c :: rest else dropBytes (count - c.utf8Size) rest

end ActionForge.Text
