set_option autoImplicit false

namespace JsonRpc

-- A JSON number. Integers keep every digit between `-2^63` and `2^64 - 1`; every other number is a
-- finite binary64.
inductive Number where
  | int (value : Int) (fits : -0x8000000000000000 ≤ value ∧ value < 0x10000000000000000)
  | float (value : Float) (finite : value.isFinite = true)
deriving DecidableEq

inductive Json where
  | null
  | bool (value : Bool)
  | num (value : Number)
  | str (value : String)
  | arr (items : List Json)
  | obj (members : List (String × Json))

abbrev Members := List (String × Json)

theorem lookup_past {α : Type} (name other : String) (value : α) (rest : List (String × α)) (differs : name ≠ other) :
    ((other, value) :: rest).lookup name = rest.lookup name := by
  have unequal : (name == other) = false := by simpa using differs
  rw [List.lookup_cons, unequal]

namespace Number

def ofInt? (value : Int) : Option Number :=
  if fits : -0x8000000000000000 ≤ value ∧ value < 0x10000000000000000 then some (.int value fits) else none

def ofFloat? (value : Float) : Option Number :=
  if finite : value.isFinite = true then some (.float value finite) else none

def ofInt64 (value : Int64) : Number :=
  .int value.toInt ⟨value.le_toInt, Int.lt_trans value.toInt_lt (by decide)⟩

def toFloat : Number → Float
  | .int value _ => if 0 ≤ value then value.toNat.toUInt64.toFloat else -value.natAbs.toUInt64.toFloat
  | .float value _ => value

def toInt64? : Number → Option Int64
  | .int value _ => if -0x8000000000000000 ≤ value ∧ value < 0x8000000000000000 then some (.ofInt value) else none
  | .float _ _ => none

-- Equality of numbers of one kind. An integer never equals a float; both zeros are one number.
def same : Number → Number → Bool
  | .int a _, .int b _ => a == b
  | .float a _, .float b _ => a == b
  | _, _ => false

end Number

namespace Members

-- Puts a member at its place; an earlier member of the same name gives way.
def insert (key : String) (value : Json) : Members → Members
  | [] => [(key, value)]
  | (first, old) :: rest =>
      if key < first then (key, value) :: (first, old) :: rest
      else if key = first then (key, value) :: rest
      else (first, old) :: insert key value rest

def ofList (members : List (String × Json)) : Members :=
  members.foldl (fun done (key, value) => insert key value done) []

def Sorted (members : Members) : Prop := members.Pairwise (fun a b => a.1 < b.1)

end Members

namespace Json

def object (members : List (String × Json)) : Json := .obj (Members.ofList members)

def ofInt64 (value : Int64) : Json := .num (.ofInt64 value)

-- An infinity or a NaN has no JSON number and is written as `null`.
def ofFloat (value : Float) : Json :=
  match Number.ofFloat? value with
  | some number => .num number
  | none => .null

def get? (key : String) : Json → Option Json
  | .obj members => members.lookup key
  | _ => none

def isNull : Json → Bool
  | .null => true
  | _ => false

def isObject : Json → Bool
  | .obj _ => true
  | _ => false

mutual
def Canonical : Json → Prop
  | .arr items => CanonicalItems items
  | .obj members => Members.Sorted members ∧ CanonicalMembers members
  | _ => True
def CanonicalItems : List Json → Prop
  | [] => True
  | item :: rest => item.Canonical ∧ CanonicalItems rest
def CanonicalMembers : List (String × Json) → Prop
  | [] => True
  | (_, value) :: rest => value.Canonical ∧ CanonicalMembers rest
end

end Json

end JsonRpc
