/-
Where requests go.

A base URL is usable if it is a plain web address: http or https, without query and
without fragment, not even an empty one.  The paths of the service are appended to
whatever path the base has.
-/
import ReviewDesk.Settings
import ReviewDesk.Failure
import ReviewDesk.Url.Basic

namespace ReviewDesk.Service

/-- Why a base URL cannot be used. -/
inductive Unusable where
  | notUrl (e : Url.Error)
  | scheme (name : List Char)
  | suffix

/-- What is wrong with the base, which is quoted. -/
def Unusable.message (base : String) : Unusable → String
  | .notUrl e => "invalid base URL " ++ Text.quoted base ++ ": " ++ e.message
  | .scheme name =>
    "unsupported URL scheme " ++ Text.quoted (String.ofList name) ++ " in " ++ Text.quoted base
  | .suffix => "base URL " ++ Text.quoted base ++ " must not carry a query or fragment"

/-- The base as a URL. -/
def base (s : Service) : Except Unusable Url :=
  match Url.parse s.apiUrl.toList with
  | .error e => .error (.notUrl e)
  | .ok (.other name) => .error (.scheme name)
  | .ok (.web url hasSuffix) => if hasSuffix then .error .suffix else .ok url

/-- The base with a path appended. -/
def endpoint (s : Service) (path : String) : Except Failure Url :=
  match s.base with
  | .error e => .error (.config (e.message s.apiUrl))
  | .ok url => .ok { url with path := Url.Path.join url.path path.toList }

/-- Where code is handed in. -/
def reviewUrl (s : Service) : Except Failure Url :=
  s.endpoint "review"

/-- Where the service tells how it is. -/
def healthUrl (s : Service) : Except Failure Url :=
  s.endpoint "health"

end ReviewDesk.Service
