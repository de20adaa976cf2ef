import ApiContract.Http.Method
import ApiContract.Http.Query
import ApiContract.Http.Uri
import ApiContract.Json.Printer

/-
Requests, as far as validation looks at them.
-/

set_option autoImplicit false

namespace ApiContract.Http

/-- The parts of a request that are validated. -/
structure Request where
  method : Method
  /-- The path, without the query string. -/
  path : String
  query : Query
  /-- The payload, which is read only when an operation declares a body. -/
  body : ByteArray

namespace Request

/-- A request with nothing but method and path. -/
def ofPath (method : Method) (path : String) : Request := ⟨method, path, [], .empty⟩

/-- A request to a target. -/
def ofTarget (method : Method) (target : Target) : Request :=
  ⟨method, target.path, (target.query.map Query.ofText).getD [], .empty⟩

/-- A request whose path may carry a query string; nothing about it is checked. -/
def ofPathAndQuery (method : Method) (s : String) : Request := ofTarget method (Target.split s)

/-- The request with a text for a query parameter. -/
def withQuery (r : Request) (name value : String) : Request :=
  { r with query := Query.set r.query name (.text value) }

/-- The request with a list for a query parameter. -/
def withQueryList (r : Request) (name : String) (values : List String) : Request :=
  { r with query := Query.set r.query name (.texts values) }

/-- The request with a payload. -/
def withBody (r : Request) (body : ByteArray) : Request := { r with body }

/-- The request with a JSON value as its payload. -/
def withJson (r : Request) (value : Json) : Request := r.withBody value.compact.toUTF8

end Request

end ApiContract.Http
