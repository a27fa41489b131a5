import TagCache.Schema.Error

/-!
# Typed values as JSON

A `Schema α` describes how values of `α` are written as JSON and read back. Schemas are data, so
the writer and the reader are each defined once, by recursion on the schema, and a statement
about all resource types is a statement about `Schema`.

A record is written as an object and read from an object or from a list. From an object: members
that are no fields are ignored, members that are fields are decoded in the order of the object,
and the first that fails is reported; after that the fields that are missing are reported in the
order of the record. From a list: the fields in the order of the record.
-/

namespace TagCache

/-- What stands for a field that is not there. -/
structure Absence (α : Type) where
  /-- The value of the field if an object does not have it. -/
  inObject : Option α
  /-- The value of the field if a list ends before it. -/
  inList : Option α
  /-- The values that are not written. -/
  omits : α → Bool

namespace Absence

variable {α : Type}

/-- The field has to be there. -/
def required : Absence α := ⟨none, none, fun _ => false⟩

/-- The field has a default. -/
def default (a : α) : Absence α := ⟨some a, some a, fun _ => false⟩

/-- The field may be missing from an object. -/
def nullable : Absence (Option α) := ⟨some none, none, fun _ => false⟩

/-- The field may be missing from an object, and is left out when it has no value. -/
def omitted : Absence (Option α) := ⟨some none, none, Option.isNone⟩

end Absence

mutual

/-- How values of a type are written as JSON. -/
inductive Schema : Type → Type 1
  | unit : Schema Unit
  | bool : Schema Bool
  | string : Schema String
  | uint16 : Schema UInt16
  | uint32 : Schema UInt32
  /-- Any value, kept as it is. -/
  | any : Schema Json
  | option {α : Type} (s : Schema α) : Schema (Option α)
  | list {α : Type} (s : Schema α) : Schema (List α)
  | pair {α β : Type} (s : Schema α) (t : Schema β) : Schema (α × β)
  /-- One of finitely many names. -/
  | variant {α : Type} (values : List (String × α)) (name : α → String) : Schema α
  /-- A type with its own writing and reading. -/
  | own {α : Type} (write : α → Json) (read : Json → Except DecodeError α) : Schema α
  /-- Named fields. `label` is what messages call the type. -/
  | record {α τ : Type} (label : String) (shape : Shape τ) (make : τ → α) (parts : α → τ) :
    Schema α

/-- The fields of a record, first to last. -/
inductive Shape : Type → Type 1
  | done : Shape Unit
  | field {α τ : Type} (name : String) (s : Schema α) (absence : Absence α) (rest : Shape τ) :
    Shape (α × τ)

end

/-! ## Names and sizes -/

/-- The names of the fields. -/
def Shape.names : {τ : Type} → Shape τ → List String
  | _, .done => []
  | _, .field name _ _ rest => name :: rest.names

/-- A number of elements, in words. -/
def elements (n : Nat) : String := if n = 1 then "1 element" else toString n ++ " elements"

/-! ## Writing -/

mutual

/-- A value as JSON. -/
def Schema.encode : {α : Type} → Schema α → α → Json
  | _, .unit, _ => .null
  | _, .bool, b => .bool b
  | _, .string, s => .str s
  | _, .uint16, n => .int n.toNat
  | _, .uint32, n => .int n.toNat
  | _, .any, j => j
  | _, .option s, a => match a with
    | none => .null
    | some a => s.encode a
  | _, .list s, as => .arr (as.map fun a => s.encode a)
  | _, .pair s t, (a, b) => .arr [s.encode a, t.encode b]
  | _, .variant _ name, a => .str (name a)
  | _, .own write _, a => write a
  | _, .record _ shape _ parts, a => .obj (shape.encode (parts a))

/-- Fields as members, in the order of the record. -/
def Shape.encode : {τ : Type} → Shape τ → τ → Json.Members
  | _, .done, _ => []
  | _, .field name s absence rest, (a, as) =>
    if absence.omits a then rest.encode as else (name, s.encode a) :: rest.encode as

end

/-! ## Reading -/

/-- An integer below `limit`. -/
def decodeNat (limit : Nat) (expected : String) : Json → Except DecodeError Nat
  | .num (.int n) =>
    if 0 ≤ n && n < limit then .ok n.toNat else .error (.wrongValue (.int n) expected)
  | j => .error (.wrongType j expected)

/-- The value with a name. -/
def decodeName {α : Type} (values : List (String × α)) (name : String) : Except DecodeError α :=
  match values.lookup name with
  | some a => .ok a
  | none => .error (.unknownVariant name (values.map Prod.fst))

/-- A name, or an object with the name as its only key and null as its value. -/
def decodeVariant {α : Type} (values : List (String × α)) : Json → Except DecodeError α
  | .str name => decodeName values name
  | .obj [(name, content)] => do
    let a ← decodeName values name
    match content with
    | .null => .ok a
    | j => .error (.wrongType j "unit")
  | .obj ms => .error (.wrongValue (.obj ms) "map with a single key")
  | j => .error (.wrongType j "string or map")

mutual

/-- A value from JSON. -/
def Schema.decode : {α : Type} → Schema α → Json → Except DecodeError α
  | _, .unit, j => match j with
    | .null => .ok ()
    | j => .error (.wrongType j "unit")
  | _, .bool, j => match j with
    | .bool b => .ok b
    | j => .error (.wrongType j "a boolean")
  | _, .string, j => match j with
    | .str s => .ok s
    | j => .error (.wrongType j "a string")
  | _, .uint16, j => (decodeNat (2 ^ 16) "u16" j).map UInt16.ofNat
  | _, .uint32, j => (decodeNat (2 ^ 32) "u32" j).map UInt32.ofNat
  | _, .any, j => .ok j
  | _, .option s, j => match j with
    | .null => .ok none
    | j => (s.decode j).map some
  | _, .list s, j => match j with
    | .arr xs => xs.mapM fun x => s.decode x
    | j => .error (.wrongType j "a sequence")
  | _, .pair s t, j => match j with
    | .arr xs => match xs with
      | [] => .error (.wrongLength 0 "a tuple of size 2")
      | x :: xs => do
        let a ← s.decode x
        match xs with
        | [] => .error (.wrongLength 1 "a tuple of size 2")
        | y :: ys =>
          let b ← t.decode y
          if ys.isEmpty then .ok (a, b)
          else .error (.wrongLength (ys.length + 2) "fewer elements in array")
    | j => .error (.wrongType j "a tuple of size 2")
  | _, .variant values _, j => decodeVariant values j
  | _, .own _ read, j => read j
  | _, .record label shape make _, j => match j with
    | .obj ms => do
      ms.forM fun (name, value) => shape.check name value
      return make (← shape.collect ms)
    | .arr xs => do
      let parts ← shape.positions (label ++ " with " ++ elements shape.names.length) 0 xs
      if shape.names.length < xs.length then
        .error (.wrongLength xs.length "fewer elements in array")
      else .ok (make parts)
    | j => .error (.wrongType j label)

/-- Whether a member decodes, if it is a field. -/
def Shape.check : {τ : Type} → Shape τ → String → Json → Except DecodeError Unit
  | _, .done, _, _ => .ok ()
  | _, .field name s _ rest, key, value =>
    if key = name then (s.decode value).map fun _ => () else rest.check key value

/-- The fields from the members of an object. -/
def Shape.collect : {τ : Type} → Shape τ → Json.Members → Except DecodeError τ
  | _, .done, _ => .ok ()
  | _, .field name s absence rest, ms => do
    let a ← match ms.get? name with
      | some value => s.decode value
      | none => match absence.inObject with
        | some a => .ok a
        | none => .error (.missingField name)
    return (a, ← rest.collect ms)

/-- The fields from the items of a list, the first of them at `index` in the record. -/
def Shape.positions : {τ : Type} → Shape τ → String → Nat → List Json → Except DecodeError τ
  | _, .done, _, _, _ => .ok ()
  | _, .field _ s absence rest, expected, index, xs => do
    let a ← match xs with
      | x :: _ => s.decode x
      | [] => match absence.inList with
        | some a => .ok a
        | none => .error (.wrongLength index expected)
    return (a, ← rest.positions expected (index + 1) xs.tail)

end

end TagCache
