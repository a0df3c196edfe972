import Unshare.Failure
import Unshare.Http.Message

namespace Unshare.Api

-- Bytes that may stand in a header value.
def isHeaderByte (b : UInt8) : Bool :=
  (b ≥ 0x20 && b != 0x7F) || b == 0x09

structure Origin where
  text : String
  legal : (Text.Utf8.encode text).all isHeaderByte = true
  named : text ≠ "*"

namespace Origin

def of? (text : String) : Except Abort Origin :=
  if legal : (Text.Utf8.encode text).all isHeaderByte = true then
    if named : text ≠ "*" then .ok ⟨text, legal, named⟩
    else .error (.crash ⟨"credentials cannot be allowed to every origin"⟩)
  else .error (.failure (.internal "invalid FRONTEND_URL: failed to parse header value"))

-- What every response says about cross-origin use.
def headers (o : Origin) : List (String × String) :=
  [("access-control-allow-credentials", "true"),
   ("access-control-allow-origin", o.text),
   ("vary", "origin, access-control-request-method, access-control-request-headers")]

-- What the answer to a question about cross-origin use says besides.
def preflightHeaders : List (String × String) :=
  [("access-control-allow-headers",
    "content-type,authorization,x-ms-client-principal-id,x-ms-client-principal-name,x-actor-name"),
   ("access-control-allow-methods", "GET,POST,DELETE,OPTIONS")]

end Origin

end Unshare.Api
