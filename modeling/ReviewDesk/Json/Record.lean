/-
Documents with known fields.

A record is described by its fields in order: the key, how a value is read and what
stands in for a value that is not there.  It may be written as an object, its members
in any order and among others with unknown keys, or as a list of the values in the
order of the fields.

Two stand-ins are kept apart because the two ways of writing differ: `absent` is for an
object without such a member, `omitted` for a list that ends too early.
-/
import ReviewDesk.Json.Scalar
import ReviewDesk.Json.Skip

namespace ReviewDesk.Json

/-- A field: its key, how its value is read, and what stands in for it. -/
structure Field where
  key : String
  Value : Type
  read : Reader Value
  absent : Option Value
  omitted : Option Value

/-- A field that has to be there. -/
def Field.required {α : Type} (key : String) (read : Reader α) : Field :=
  ⟨key, α, read, none, none⟩

/-- A field with a value to fall back on. -/
def Field.withDefault {α : Type} (key : String) (read : Reader α) (default : α) : Field :=
  ⟨key, α, read, some default, some default⟩

/-- A value for every field. -/
def Row : List Field → Type
  | [] => Unit
  | f :: fs => f.Value × Row fs

/-- The values met so far. -/
def Draft : List Field → Type
  | [] => Unit
  | f :: fs => Option f.Value × Draft fs

/-- Before the first value. -/
def Draft.empty : (fs : List Field) → Draft fs
  | [] => ()
  | _ :: fs => (none, Draft.empty fs)

/-! ### Members by key -/

/-- How to go on after a key, from the colon: `none` if no field has it. -/
def Draft.member? : (fs : List Field) → String → Draft fs → Option (Reader (Draft fs))
  | [], _, _ => none
  | f :: fs, k, (v, rest) =>
    if k = f.key then
      match v with
      | some _ => some (.fail (.duplicateField k))
      | none => some do
        Reader.colon
        let w ← f.read
        pure (some w, rest)
    else
      (Draft.member? fs k rest).map fun read => do
        let rest' ← read
        pure (v, rest')

/-- A member of the object; one with an unknown key is passed over. -/
def Draft.member (fs : List Field) (k : String) (d : Draft fs) : Reader (Draft fs) :=
  match Draft.member? fs k d with
  | some read => read
  | none => do
    Reader.colon
    Reader.skipValue
    pure d

/-- The row that a finished object comes to. -/
def Draft.finish : (fs : List Field) → Draft fs → Except Fault (Row fs)
  | [], _ => .ok ()
  | f :: fs, (v, rest) =>
    match v <|> f.absent with
    | none => .error (.missingField f.key)
    | some w =>
      match Draft.finish fs rest with
      | .ok row => .ok (w, row)
      | .error e => .error e

/-! ### Values in order -/

/-- The row that a list of values comes to when it ends before the field at position
`seen`. -/
def Row.omitted (expected : String) : (fs : List Field) → (seen : Nat) → Except Fault (Row fs)
  | [], _ => .ok ()
  | f :: fs, seen =>
    match f.omitted with
    | none => .error (.tooShort seen expected)
    | some w =>
      match Row.omitted expected fs (seen + 1) with
      | .ok row => .ok (w, row)
      | .error e => .error e

/-- The values of the fields from position `seen` on. -/
def Row.inOrder (expected : String) : (fs : List Field) → (seen : Nat) → Reader (Row fs)
  | [], _ => Reader.closeList
  | f :: fs, seen => do
    if ← (if seen = 0 then Reader.firstItem else Reader.furtherItem) then do
      let w ← f.read
      let row ← Row.inOrder expected fs (seen + 1)
      pure (w, row)
    else Reader.ofExcept (Row.omitted expected (f :: fs) seen)

/-! ### Records -/

/-- The wording for a list that is too short. -/
def lengthExpected (name : String) (size : Nat) : String :=
  "struct " ++ name ++ " with " ++ Decimal.ofNat size
    ++ (if size = 1 then " element" else " elements")

/-- A record, written as an object or as a list. -/
def Reader.record (name : String) (fs : List Field) : Reader (Row fs) :=
  startingWith fun b =>
    if b == ascii '[' then do
      skip
      Row.inOrder (lengthExpected name fs.length) fs 0
    else if b == ascii '\x7b' then do
      skip
      let d ← members (Draft.member fs) (Draft.empty fs)
      ofExcept (d.finish fs)
    else mismatch ("struct " ++ name)

end ReviewDesk.Json
