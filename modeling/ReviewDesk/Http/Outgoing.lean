/-
A request as it goes over the wire.

The connection is for one exchange and closes after it.  A name and a password in the
URL go along as credentials and not as part of the address.
-/
import ReviewDesk.Http.Basic
import ReviewDesk.Text.Base64

namespace ReviewDesk.Http.Request

/-- The server by its name, with the port if it is not the usual one. -/
def authority (r : Request) : List Char :=
  r.url.host.chars ++ Url.portChars r.url.port

/-- The credentials in the URL. -/
def authorization? (r : Request) : Option String :=
  r.url.credentials?.map fun (name, password) =>
    "Basic " ++ String.ofList (Text.base64 (Text.bytes (name ++ ":" ++ password.getD "")))

/-- The header fields, with the name of the request among them. -/
def fields (r : Request) (id : String) : List (String × String) :=
  let optional (name : String) (value : Option String) :=
    (value.map fun v => (name, v)).toList
  [("host", String.ofList r.authority), ("user-agent", userAgent), ("accept", "*/*"),
    ("connection", "close"), ("x-request-id", id)]
    ++ optional "authorization" r.authorization?
    ++ optional "content-type" r.contentType?
    ++ optional "content-length" (r.contentType?.map fun _ => Decimal.ofNat r.body.length)

/-- Everything before the body. -/
def head (r : Request) (id : String) : String :=
  r.method ++ " " ++ String.ofList r.target ++ " HTTP/1.1\r\n"
    ++ String.join ((r.fields id).map fun (name, value) => name ++ ": " ++ value ++ "\r\n")
    ++ "\r\n"

/-- All that is sent. -/
def bytes (r : Request) (id : String) : Bytes :=
  Text.bytes (r.head id) ++ r.body

end ReviewDesk.Http.Request
