import Scrip.Error
import Scrip.Text.Blank
import Scrip.Text.Normal

/-!
# Usernames

The one spelling under which a name is kept and looked up.

* `canonicalUsername`: trimmed, then in normalization form C.
* `normalizeUsername`: the same, refused unless it has 3 to 50 code points.
-/

namespace Scrip.Credential

/-- The fewest and the most code points of a username. -/
def usernameBounds : Nat × Nat := (3, 50)

/-- The spelling under which usernames are kept and looked up. -/
def canonicalUsername (raw : String) : String :=
  Text.Normal.nfc (Text.trim raw)

/-- The canonical spelling, when its length is within bounds. -/
def normalizeUsername (raw : String) : Except Error String :=
  let username := canonicalUsername raw
  if usernameBounds.1 ≤ username.length ∧ username.length ≤ usernameBounds.2 then .ok username
  else
    .error (.invalidInput ("username must be " ++ toString usernameBounds.1 ++ " to " ++
      toString usernameBounds.2 ++ " characters long"))

end Scrip.Credential
