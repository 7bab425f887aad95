/-
Who a URL is used as.

A name and a password in a URL are for the server alone: they are taken out before the
URL is used or shown.  They stay where they are if they stand for no text.
-/
import ReviewDesk.Url.Basic

namespace ReviewDesk.Url

/-- The text that an encoded part of a URL stands for. -/
def decoded? (s : List Char) : Option String :=
  Text.ofBytes? (percentDecode s)

/-- The name and the password, if one of them is given. -/
def credentials? (u : Url) : Option (String × Option String) := do
  let name ← decoded? u.user.name
  let password := if u.user.password.isEmpty then none else decoded? u.user.password
  if name.isEmpty && password.isNone then none else some (name, password)

/-- The URL without name and password. -/
def bare (u : Url) : Url :=
  if u.credentials?.isSome then { u with user := ⟨[], []⟩ } else u

end ReviewDesk.Url
