import Gatehouse.Http.Header
import Gatehouse.Http.Uri
import Gatehouse.Path
import Gatehouse.Url.Form

/-!
# Requests

What the stages see of a request: its path in normal form, its query as a table, and its header
fields.  The query and the fragment of the target play no part in the path.
-/

set_option autoImplicit false

namespace Gatehouse

/-- The name of the header field that carries the identifier of a request. -/
def requestIdHeader : String := "x-request-id"

/-- A request as the stages see it. -/
structure Request where
  path : String
  query : List (String × String)
  headers : Headers
deriving Repr, DecidableEq

namespace Request

/-- A path in normal form. -/
def normalized (path : String) : String :=
  String.ofList (Path.normalize path.toList)

/-- A table with one more value; it replaces the value that the key had. -/
def assign (query : List (String × String)) (p : String × String) : List (String × String) :=
  (query.filter fun q => q.1 != p.1) ++ [p]

/-- A request for a path. -/
def ofPath (path : String) (headers : Headers) : Request :=
  ⟨normalized path, [], headers⟩

/-- A request for a target. -/
def ofUri (uri : Http.Uri) (headers : Headers) : Request :=
  ⟨normalized uri.path, ((uri.query.map Url.Form.parse).getD []).foldl assign [], headers⟩

/-- The request with one more value in its query. -/
def withQuery (r : Request) (key value : String) : Request :=
  { r with query := assign r.query (key, value) }

/-- The last segment of the path. -/
def finalSegment? (r : Request) : Option String :=
  (Path.finalSegment? r.path.toList).map String.ofList

end Request
end Gatehouse
