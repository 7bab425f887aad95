/-
The environment.

Variables with their values.  What is set stays: a variable can be given a value only if
it has none.
-/

namespace ReviewDesk

/-- Names with their values, in the order in which they were set. -/
structure Environment where
  bindings : List (String × String)

namespace Environment

def empty : Environment := ⟨[]⟩

/-- The value of a variable that is set. -/
def get? (env : Environment) (name : String) : Option String :=
  (env.bindings.find? (·.1 == name)).map (·.2)

/-- Gives a value to a variable that has none. -/
def offer (env : Environment) (name value : String) : Environment :=
  if (env.get? name).isSome then env else ⟨env.bindings ++ [(name, value)]⟩

end Environment

end ReviewDesk
