import Unshare.Failure
import Unshare.Text.Blank
import Unshare.Json.Layout

namespace Unshare

structure RequiredText where
  text : String
deriving DecidableEq, Repr

namespace RequiredText

def blankFailure : Failure :=
  .validation "value must not be empty or whitespace"

-- The text itself, blanks at its ends included, unless nothing but blanks is in it.
def of? (text : String) : Except Failure RequiredText :=
  if Text.isBlank text then .error blankFailure else .ok ⟨text⟩

def toJson (t : RequiredText) : Json :=
  .string t.text

-- A text that is read is taken as it stands.
def ofJson? (j : Json) : Option RequiredText :=
  j.string?.map RequiredText.mk

end RequiredText

end Unshare
