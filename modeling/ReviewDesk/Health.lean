/-
Whether the service is up.

The service reports a status in a word of its own; two words mean that it is well.
-/
import ReviewDesk.Review.Document

namespace ReviewDesk

open Json

/-- What a service reports of itself. -/
structure Health where
  status : String
  service : Option String
  deriving DecidableEq, Repr

namespace Health

/-- Two words mean that it is well, and as they are written. -/
def isHealthy (h : Health) : Bool :=
  h.status == "healthy" || h.status == "ok"

def toJson (h : Health) : Json :=
  .object (("status", .text h.status) :: Json.member? "service" .text h.service)

/-- One line; a service that does not say what it is called has a name here. -/
def toText (h : Health) : String :=
  h.service.getD "review service" ++ ": " ++ h.status ++ "\n"

/-- A service need not say what it is called. -/
def fields : List Field :=
  [ .required "status" (Reader.textValue "a string"),
    .withDefault "service" (Reader.optional (Reader.textValue "a string")) none ]

def ofRow : Row fields → Health
  | (status, service, _) => ⟨status, service⟩

def reader : Reader Health := do
  let row ← Reader.record "HealthStatus" fields
  pure (ofRow row)

def ofBytes (bs : Bytes) : Except Misread Health :=
  reader.document bs

end Health

end ReviewDesk
