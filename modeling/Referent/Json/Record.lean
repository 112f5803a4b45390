import Referent.Json.Reader
import Referent.TypeExpr.Parser

/-!
# Records in JSON documents

How a record with named fields is read from a document. It is written as an object, whose fields
may come in any order and among others that are passed over, or as an array of the values in the
order in which the fields are declared. The first misfit in the order of the document is the one
that is told; a field that is missing is found at the end of its object.

* `DecodeError` — why a document does not fit, and the words for it.
* `Json.text`, `Json.word32`, `Json.list`, `Json.variant`, … — the values of fields.
* `Fitting` — a part of a record, or its first misfit with its place; parts are put together side
  by side.
* `Record.required`, `Record.withDefault`, `Record.nullable` — the fields of a record.
* `Record.apart` — a field that is read ahead of the others.
* `Json.decode`, `Json.decodeText` — a whole document.
-/

namespace Referent

/-! ## Errors -/

/-- Why a document does not fit what it should hold. -/
inductive DecodeError where
  /-- The text is not JSON, or holds another kind of value than wanted. -/
  | malformed
  | missing (field : String)
  | duplicate (field : String)
  | unknownVariant (name : String) (expected : List String)
  | badType (error : TypeExpr.ParseError)
  deriving DecidableEq, Repr

namespace DecodeError

/-- The name between backquotes. -/
def ticked (name : String) : String :=
  "`" ++ name ++ "`"

/-- The choice between the names in words. -/
def oneOf : List String → String
  | [] => "nothing"
  | [a] => ticked a
  | [a, b] => ticked a ++ " or " ++ ticked b
  | names => "one of " ++ ", ".intercalate (names.map ticked)

/-- The error in words; there are none for a malformed document. -/
def message? : DecodeError → Option String
  | .malformed => none
  | .missing field => some ("missing field " ++ ticked field)
  | .duplicate field => some ("duplicate field " ++ ticked field)
  | .unknownVariant name expected =>
    some ("unknown variant " ++ ticked name ++ ", expected " ++ oneOf expected)
  | .badType e => some ("Invalid argument: " ++ e.message)

end DecodeError

/-- What a document decodes to. -/
abbrev Decoded (α : Type) : Type := Except DecodeError α

/-! ## Values -/

namespace Json

/-- A string. -/
def text : Json → Decoded String
  | .string s => .ok s
  | _ => .error .malformed

/-- `true` or `false`. -/
def truth : Json → Decoded Bool
  | .bool b => .ok b
  | _ => .error .malformed

/-- A natural number of 32 bits. -/
def word32 : Json → Decoded UInt32
  | .natural n => if n < UInt32.size then .ok (UInt32.ofNat n) else .error .malformed
  | _ => .error .malformed

/-- A natural number of 64 bits. -/
def word64 : Json → Decoded UInt64
  | .natural n => if n < UInt64.size then .ok (UInt64.ofNat n) else .error .malformed
  | _ => .error .malformed

/-- A value, or `null` for none. -/
def orNull {α : Type} (read : Json → Decoded α) : Json → Decoded (Option α)
  | .null => .ok none
  | v => (read v).map some

/-- An array of values. -/
def list {α : Type} (read : Json → Decoded α) : Json → Decoded (List α)
  | .array items => items.mapM read
  | _ => .error .malformed

/-- The value that a table gives for a name. -/
def lookupVariant {α : Type} (table : List (String × α)) (name : String) : Decoded α :=
  match table.lookup name with
  | some a => .ok a
  | none => .error (.unknownVariant name (table.map (·.1)))

/-- One of several names: a string, or an object with that one field, which is `null`. -/
def variant {α : Type} (table : List (String × α)) : Json → Decoded α
  | .string name => lookupVariant table name
  | .object ((some name, v) :: others) => do
    let a ← lookupVariant table name
    match v, others with
    | .null, [] => .ok a
    | _, _ => .error .malformed
  | _ => .error .malformed

/-- One of several names in a value that is held as a whole before it is looked at: an object is
looked into only if it has exactly one field, and that field may be empty as well as `null`. -/
def heldVariant {α : Type} (table : List (String × α)) : Json → Decoded α
  | .string name => lookupVariant table name
  | .object [(some name, v)] => do
    let a ← lookupVariant table name
    match v with
    | .null | .object [] => .ok a
    | _ => .error .malformed
  | _ => .error .malformed

end Json

/-! ## Parts of a record -/

/-- A part of a record, or the first misfit and its place. -/
def Fitting (α : Type) : Type := Except (Nat × DecodeError) α

namespace Fitting

/-- A part put to a function of it. Of two misfits the one at the earlier place stands, and of two
at one place the function's. -/
def apply {α β : Type} : Fitting (α → β) → Fitting α → Fitting β
  | .ok f, .ok a => Except.ok (f a)
  | .ok _, .error e => Except.error e
  | .error e, .ok _ => Except.error e
  | .error e, .error d => Except.error (if d.1 < e.1 then d else e)

instance : Applicative Fitting where
  pure a := Except.ok a
  seq f x := apply f (x ())

/-- A misfit at a place. -/
def misfit {α : Type} (place : Nat) (error : DecodeError) : Fitting α :=
  Except.error (place, error)

/-- What decoding the value at a place gives. -/
def placed {α : Type} (place : Nat) : Decoded α → Fitting α
  | .ok a => Except.ok a
  | .error e => misfit place e

/-- The part without the place of its misfit. -/
def decoded {α : Type} : Fitting α → Decoded α
  | .ok a => .ok a
  | .error e => .error e.2

end Fitting

/-! ## Fields -/

/-- The parts of a record, by name or in the order of its fields. -/
inductive Record.Parts where
  | named (fields : List (Option String × Json))
  | ordered (items : List Json)

/-- A record in a document, and the names of its fields as they are declared. -/
structure Record where
  names : List String
  parts : Record.Parts

namespace Record

/-- The values of the fields of one name, each with its place. -/
def valuesOf (name : String) (fields : List (Option String × Json)) : List (Nat × Json) :=
  fields.zipIdx.filterMap fun (field, place) =>
    if field.1 = some name then some (place, field.2) else none

/-- The field of a name. `unnamed` stands in if an object does not have it, and `omitted` if an
array ends before it. -/
def field {α : Type} (r : Record) (name : String) (read : Json → Decoded α)
    (unnamed omitted : Option α) : Fitting α :=
  match r.parts with
  | .named fields =>
    match valuesOf name fields, unnamed with
    | [], some a => pure a
    | [], none => .misfit (fields.length + 1) (.missing name)
    | [(place, v)], _ => .placed place (read v)
    | (place, v) :: (again, _) :: _, _ =>
      match read v with
      | .ok _ => .misfit again (.duplicate name)
      | .error e => .misfit place e
  | .ordered items =>
    let place := r.names.idxOf name
    match items[place]?, omitted with
    | some v, _ => .placed place (read v)
    | none, some a => pure a
    | none, none => .misfit place .malformed

/-- A field that must be there. -/
def required {α : Type} (r : Record) (name : String) (read : Json → Decoded α) : Fitting α :=
  r.field name read none none

/-- A field that may be left out. -/
def withDefault {α : Type} (r : Record) (name : String) (read : Json → Decoded α) (default : α) :
    Fitting α :=
  r.field name read (some default) (some default)

/-- A field that may be `null` or left out of an object, but not of an array. -/
def nullable {α : Type} (r : Record) (name : String) (read : Json → Decoded α) :
    Fitting (Option α) :=
  r.field name (Json.orNull read) (some none) none

/-- A field with a name that is none, or with a value that breaks off. -/
def isTorn (field : Option String × Json) : Bool :=
  field.1.isNone || !field.2.isIntact

/-- Nothing in the record is out of order: in an object each field can be passed over, and an array
has no more values than there are fields. -/
def sound (r : Record) : Fitting Unit :=
  match r.parts with
  | .named fields =>
    match fields.findIdx? isTorn with
    | some place => .misfit place .malformed
    | none => pure ()
  | .ordered items =>
    if r.names.length < items.length then .misfit r.names.length .malformed else pure ()

/-- The record with these parts, put together from its fields. -/
def build {α : Type} (names : List String) (parts : Parts) (fields : Record → Fitting α) :
    Decoded α :=
  let r : Record := ⟨names, parts⟩
  (fields r <* r.sound).decoded

/-- A field with a name or a value that cannot be held. -/
def isUnheld (field : Option String × Json) : Bool :=
  field.1.isNone || !field.2.isHeld

/-- One field of an object read ahead of the others, which are held as they are: its value, and the
other fields. -/
def apart {α : Type} (name : String) (read : Json → Decoded α)
    (fields : List (Option String × Json)) : Decoded (α × List (Option String × Json)) := do
  let r : Record := ⟨[name], .named fields⟩
  let held : Fitting Unit :=
    match fields.findIdx? fun field => field.1 != some name && isUnheld field with
    | some place => .misfit place .malformed
    | none => pure ()
  let a ← (r.required name read <* held).decoded
  return (a, fields.filter (·.1 != some name))

/-- The record that a value holds. -/
def decode {α : Type} (names : List String) (fields : Record → Fitting α) : Json → Decoded α
  | .object entries => build names (.named entries) fields
  | .array items => build names (.ordered items) fields
  | _ => .error .malformed

end Record

namespace Json

/-- So many arrays and objects may stand inside one another. -/
def nestingLimit : Nat := 127

/-- What a value holds, as far as it is not too deep inside. -/
def decode {α : Type} (read : Json → Decoded α) (v : Json) : Decoded α :=
  read (v.limited nestingLimit)

/-- What a whole text holds. -/
def decodeText {α : Type} (read : Json → Decoded α) (text : String) : Decoded α := do
  let document := Json.read text
  let a ← decode read document.root
  if document.ended then .ok a else .error .malformed

end Json

end Referent
