import Gatehouse.Http.Header
import Gatehouse.Path
import Gatehouse.Text.Blank

/-!
# Cookies

A request may have several `cookie` fields, and each may hold several cookies with semicolons
between them.  A cookie is a name and a value with an equals sign between them; of several equals
signs the first divides.  A field that is not readable as text holds no cookies, and what holds no
equals sign is no cookie.

`find?` looks for a cookie of one name that has a value: cookies without a value are passed over.
-/

set_option autoImplicit false

namespace Gatehouse
namespace Session

/-- The name and the value of a cookie. -/
abbrev Cookie := List Char × List Char

/-- The cookies of one field. -/
def cookiesOf (field : List Char) : List Cookie :=
  (Text.pieces (· == ';') field).filterMap fun piece => Text.cut? (· == '=') (Text.trim piece)

/-- The cookies of a request, in order. -/
def cookies (headers : Headers) : List Cookie :=
  (headers.getAll "cookie").flatMap fun value =>
    match Headers.visible? value with
    | some field => cookiesOf field.toList
    | none => []

/-- The value of the first cookie of a name that has one. -/
def valueOf? (name : List Char) (cookies : List Cookie) : Option (List Char) :=
  (cookies.find? fun c => c.1 == name && !c.2.isEmpty).map Prod.snd

end Session
end Gatehouse
