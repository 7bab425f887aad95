/-
Requests for a review.

A request carries code exactly as it was entered.  Code that is blank is never sent:
that it is not is part of the request.
-/
import ReviewDesk.Json.Basic
import ReviewDesk.Text.Blank
import ReviewDesk.Text.Utf8

namespace ReviewDesk

/-- Code that is to be reviewed. -/
structure Request where
  code : String
  not_blank : Text.isBlank code = false

namespace Request

/-- The request for some code, unless it is blank. -/
def ofCode? (code : String) : Option Request :=
  if h : Text.isBlank code = false then some ⟨code, h⟩ else none

/-- An object with the code as its one member. -/
def toJson (r : Request) : Json :=
  .object [("code", .text r.code)]

/-- What goes over the wire. -/
def body (r : Request) : Bytes :=
  Text.bytes r.toJson.compact

end Request

end ReviewDesk
