import Reshape.Text.Letter
import Reshape.Text.Numeric

/-!
# Characters of names

Property names in selectors are made of letters and numeric characters of all
scripts, underscores and dollar signs. Identifiers of expressions start with an
ASCII letter or an underscore.
-/

namespace Reshape

namespace Text

def isAlphanumeric (c : Char) : Bool := isLetter c || isNumeric c

/-- May stand in a property name. -/
def isNameChar (c : Char) : Bool := isAlphanumeric c || c == '_' || c == '$'

def isIdentifierStart (c : Char) : Bool := c.isAlpha || c == '_'

def isIdentifierRest (c : Char) : Bool := isAlphanumeric c || c == '_'

end Text

end Reshape
