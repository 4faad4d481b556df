/-!
# Case folding

Names are compared with their letters in lower case.  Every name that is looked
up consists of letters of the Latin alphabet and the micro sign; the Kelvin sign
is the one other letter whose lower case is among them, so all further letters
can stay as they are.
-/

namespace Atomistic.Text

/-- A letter in lower case, as far as names are concerned. -/
def lower (c : Char) : Char := if c == '\u212a' then 'k' else c.toLower

/-- A text in lower case, as far as names are concerned. -/
def fold (text : String) : String := String.ofList (text.toList.map lower)

end Atomistic.Text
