import TagCache.Json.Number

/-!
# JSON values

An object is the list of its members in the order they are met. `Json.normalize` brings every
object, at any depth, into the order of its keys and keeps one member for each; two values that
differ only in the order of members have the same normal form. Keys are ordered by code point,
which is also the order of their UTF-8 bytes.
-/

namespace TagCache

/-- A JSON value. -/
inductive Json where
  | null
  | bool (value : Bool)
  | num (value : Number)
  | str (value : String)
  | arr (items : List Json)
  | obj (members : List (String × Json))

namespace Json

/-! ## Members -/

/-- A list of members. -/
abbrev Members := List (String × Json)

/-- The value of the first member with this key. -/
def Members.get? (ms : Members) (key : String) : Option Json := List.lookup key ms

/-- The value under a key, for an object that has it. -/
def get? : Json → String → Option Json
  | obj ms, key => Members.get? ms key
  | _, _ => none

/-- The value of a string. -/
def str? : Json → Option String
  | str s => some s
  | _ => none

/-- The items of a list. -/
def arr? : Json → Option (List Json)
  | arr xs => some xs
  | _ => none

/-- An integer. -/
def int (n : Int) : Json := num (.int n)

/-! ## Equality -/

mutual

/-- Equality of two values, decided structurally. -/
def beq : Json → Json → Bool
  | null, null => true
  | bool a, bool b => a == b
  | num a, num b => decide (a = b)
  | str a, str b => a == b
  | arr xs, arr ys => beqItems xs ys
  | obj ms, obj ns => beqMembers ms ns
  | _, _ => false

def beqItems : List Json → List Json → Bool
  | [], [] => true
  | x :: xs, y :: ys => beq x y && beqItems xs ys
  | _, _ => false

def beqMembers : List (String × Json) → List (String × Json) → Bool
  | [], [] => true
  | (k, x) :: ms, (l, y) :: ns => k == l && beq x y && beqMembers ms ns
  | _, _ => false

end

mutual

theorem beq_iff : ∀ a b : Json, beq a b = true ↔ a = b
  | null, b => by cases b <;> simp [beq]
  | bool a, b => by cases b <;> simp [beq]
  | num a, b => by cases b <;> simp [beq]
  | str a, b => by cases b <;> simp [beq]
  | arr xs, b => by cases b <;> simp [beq, beqItems_iff xs]
  | obj ms, b => by cases b <;> simp [beq, beqMembers_iff ms]

theorem beqItems_iff : ∀ xs ys : List Json, beqItems xs ys = true ↔ xs = ys
  | [], ys => by cases ys <;> simp [beqItems]
  | x :: xs, ys => by cases ys <;> simp [beqItems, beq_iff x, beqItems_iff xs]

theorem beqMembers_iff : ∀ ms ns : List (String × Json), beqMembers ms ns = true ↔ ms = ns
  | [], ns => by cases ns <;> simp [beqMembers]
  | (k, x) :: ms, ns => by
    cases ns with
    | nil => simp [beqMembers]
    | cons n ns => simp [beqMembers, beq_iff x, beqMembers_iff ms, Prod.ext_iff]

end

instance : DecidableEq Json := fun a b => decidable_of_iff (beq a b = true) (beq_iff a b)

mutual

/-- Equality of the values two documents stand for: as `=`, except that the two zeros of binary64
are one number. -/
def sameValue : Json → Json → Bool
  | null, null => true
  | bool a, bool b => a == b
  | num a, num b => a.sameValue b
  | str a, str b => a == b
  | arr xs, arr ys => sameItems xs ys
  | obj ms, obj ns => sameMembers ms ns
  | _, _ => false

def sameItems : List Json → List Json → Bool
  | [], [] => true
  | x :: xs, y :: ys => sameValue x y && sameItems xs ys
  | _, _ => false

def sameMembers : List (String × Json) → List (String × Json) → Bool
  | [], [] => true
  | (k, x) :: ms, (l, y) :: ns => k == l && sameValue x y && sameMembers ms ns
  | _, _ => false

end

/-! ## Normal form -/

/-- Puts a member into sorted members; an earlier value of the key is replaced. -/
def Members.insert (key : String) (value : Json) : Members → Members
  | [] => [(key, value)]
  | (k, v) :: ms =>
    if key < k then (key, value) :: (k, v) :: ms
    else if key = k then (key, value) :: ms
    else (k, v) :: Members.insert key value ms

/-- Members in key order, the last of equal keys. -/
def Members.sorted (ms : Members) : Members :=
  ms.foldl (fun sorted (k, v) => Members.insert k v sorted) []

mutual

/-- The value with the members of every object in key order, one for each key. -/
def normalize : Json → Json
  | arr xs => arr (normalizeItems xs)
  | obj ms => obj (Members.sorted (normalizeMembers ms))
  | j => j

def normalizeItems : List Json → List Json
  | [] => []
  | x :: xs => normalize x :: normalizeItems xs

def normalizeMembers : List (String × Json) → List (String × Json)
  | [] => []
  | (k, v) :: ms => (k, normalize v) :: normalizeMembers ms

end

/-! ## Building -/

/-- An object, in normal form if its values are. -/
def ofMembers (ms : Members) : Json := obj (Members.sorted ms)

end Json

end TagCache
