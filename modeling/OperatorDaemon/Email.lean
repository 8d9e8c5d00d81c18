import OperatorDaemon.Text.Blank
import OperatorDaemon.Unicode.Lowercase
import OperatorDaemon.Unicode.Normalization

/-!
# Email addresses

An email address is trimmed, normalized and made lower case before it is used. Then it has one at sign,
something on either side of it, and no blanks.
-/

namespace OperatorDaemon.Email

/-- Whether characters have the form of an email address. -/
def isWellFormed (cs : List Char) : Bool :=
  let user := cs.takeWhile (· != '@')
  let domain := (cs.dropWhile (· != '@')).drop 1
  !user.isEmpty && !domain.isEmpty && !domain.contains '@' && !cs.any isBlank

/-- The common form of an email address. -/
def normalForm (text : String) : String :=
  Unicode.lowercase (Unicode.nfkc (trim text))

/-- The common form of an email address, if the text is one. -/
def normalize? (text : String) : Option String :=
  if isWellFormed (normalForm text).toList then some (normalForm text) else none

end OperatorDaemon.Email
