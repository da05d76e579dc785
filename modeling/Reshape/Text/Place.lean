/-!
# Byte offsets and lines

Positions in messages count the bytes of the text's UTF-8 form; positions in
files also count lines.
-/

namespace Reshape

namespace Text

def byteCount (cs : List Char) : Nat := cs.foldl (fun n c => n + c.utf8Size) 0

def lineAfter (cs : List Char) : Nat := 1 + cs.count '\n'

/-- The bytes since the last line break of a text. -/
def columnAfter (cs : List Char) : Nat := byteCount (cs.reverse.takeWhile (· != '\n'))

end Text

end Reshape
