import Reshape.Calendar.Layout

/-!
# Time stamps

A stamp is the text of a moment in universal time, to the millisecond.
-/

namespace Reshape

namespace Moment

def stampLayout : List Char := "YYYY-MM-DDThh:mm:ss".toList

/-- The stamp of a count of milliseconds; empty beyond the calendar's range. -/
def stamp (milliseconds : Int) : String :=
  match ofMilliseconds? milliseconds with
  | some m => String.ofList
      (m.render stampLayout ++ '.' :: padded 3 (milliseconds % 1000).toNat ++ ['Z'])
  | none => ""

end Moment

end Reshape
