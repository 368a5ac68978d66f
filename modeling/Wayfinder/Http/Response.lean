import Wayfinder.Http.ContentType
import Wayfinder.Http.Header
import Wayfinder.Http.Status
/-!
# Responses
-/

namespace Wayfinder.Http

/-- A finished response. -/
structure Response where
  status : Status
  headers : Headers
  body : Bytes

namespace Response

/-- A response of plain text. -/
def text (status : Status) (body : String) : Response :=
  { status, headers := Headers.insert {} .contentType (.ofText ContentType.text), body := Text.encode body }

/-- The body as text, ill-formed parts replaced. -/
def bodyText (r : Response) : String := Text.decodeLossy r.body

end Response

end Wayfinder.Http
