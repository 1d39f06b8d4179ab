import JsonRpc.Decode.Source

set_option autoImplicit false

namespace JsonRpc

def Decoder (α : Type) := Source → Except DecodeError α

namespace Decoder

def map {α β : Type} (f : α → β) (decoder : Decoder α) : Decoder β := fun source => (decoder source).map f

def decode {α : Type} (decoder : Decoder α) (document : Json) : Except DecodeError α :=
  decoder (.value document)

def decodeText {α : Type} (decoder : Decoder α) (text : String) : Except DecodeError α := do
  let (draft, surplus) := Json.Draft.ofText text
  let result ← decoder (.text draft)
  match surplus with
  | none => pure result
  | some fault => .error (.malformed fault.cause)

def mismatch {α : Type} (value : Scalar) (expected : String) : Except DecodeError α :=
  .error (.invalidType (.scalar value) expected)

def ofScalar {α : Type} (expected : String) (read : Scalar → Except DecodeError α) : Decoder α := fun source =>
  match source.view with
  | .scalar value => read value
  | .items _ _ => .error (.invalidType .list expected)
  | .members _ _ => .error (.invalidType .object expected)
  | .broken fault => .error (.malformed fault.cause)

def any : Decoder Json := Source.whole

def string : Decoder String := ofScalar "a string" fun
  | .str value => .ok value
  | value => mismatch value "a string"

def bool : Decoder Bool := ofScalar "a boolean" fun
  | .bool value => .ok value
  | value => mismatch value "a boolean"

def unit : Decoder Unit := ofScalar "unit" fun
  | .null => .ok ()
  | value => mismatch value "unit"

def char : Decoder Char := ofScalar "a character" fun
  | .str value =>
      match value.toList with
      | [c] => .ok c
      | _ => .error (.invalidValue (.scalar (.str value)) "a character")
  | value => mismatch value "a character"

def number : Decoder Number := ofScalar "a JSON number" fun
  | .num value => .ok value
  | value => mismatch value "a JSON number"

-- Integers from `low` up to but not including `high`. A float is no integer, whatever its value.
def integer (expected : String) (low high : Int) : Decoder { n : Int // low ≤ n ∧ n < high } :=
  ofScalar expected fun
    | .num number@(.int n _) =>
        if h : low ≤ n ∧ n < high then .ok ⟨n, h⟩
        else .error (.invalidValue (.scalar (.num number)) expected)
    | value => mismatch value expected

def int64 : Decoder Int64 := (integer "i64" (-0x8000000000000000) 0x8000000000000000).map fun n => .ofInt n.1

def int32 : Decoder Int32 := (integer "i32" (-0x80000000) 0x80000000).map fun n => .ofInt n.1

def uint64 : Decoder UInt64 := (integer "u64" 0 0x10000000000000000).map fun n => .ofNat n.1.toNat

def uint8 : Decoder UInt8 := (integer "u8" 0 0x100).map fun n => .ofNat n.1.toNat

def float : Decoder Float := ofScalar "f64" fun
  | .num value => .ok value.toFloat
  | value => mismatch value "f64"

def optional {α : Type} (decoder : Decoder α) : Decoder (Option α) := fun source =>
  match source.view with
  | .scalar .null => .ok none
  | _ => (decoder source).map some

def readAll {α : Type} (decoder : Decoder α) : List Source → Except DecodeError (List α)
  | [] => .ok []
  | source :: rest => do
      let value ← decoder source
      let rest ← readAll decoder rest
      pure (value :: rest)

def list {α : Type} (decoder : Decoder α) : Decoder (List α) := fun source =>
  match source.view with
  | .scalar value => mismatch value "a sequence"
  | .items elements closing => do
      let values ← readAll decoder elements
      closing.noMore
      pure values
  | .members _ _ => .error (.invalidType .object "a sequence")
  | .broken fault => .error (.malformed fault.cause)

def readKey (key : Except Json.Fault String) : Except DecodeError String :=
  key.mapError fun fault => .malformed fault.cause

def readEntries {α : Type} (decoder : Decoder α) :
    List (Except Json.Fault String × Source) → Except DecodeError (List (String × α))
  | [] => .ok []
  | (key, source) :: rest => do
      let key ← readKey key
      let value ← decoder source
      let rest ← readEntries decoder rest
      pure ((key, value) :: rest)

def entries {α : Type} (decoder : Decoder α) : Decoder (List (String × α)) := fun source =>
  match source.view with
  | .scalar value => mismatch value "a map"
  | .items _ _ => .error (.invalidType .list "a map")
  | .members elements closing => do
      let values ← readEntries decoder elements
      closing.noMore
      pure values
  | .broken fault => .error (.malformed fault.cause)

def readPair {α β : Type} (expected : String) (first : Decoder α) (second : Decoder β)
    (elements : List Source) (closing : Closing) : Except DecodeError (α × β) :=
  match elements with
  | [] => do
      closing.noMore
      .error (.invalidLength 0 expected)
  | [source] => do
      let _ ← first source
      closing.noMore
      .error (.invalidLength 1 expected)
  | source :: source' :: left => do
      let a ← first source
      let b ← second source'
      closing.noSurplus left
      pure (a, b)

def pair {α β : Type} (first : Decoder α) (second : Decoder β) : Decoder (α × β) := fun source =>
  match source.view with
  | .scalar value => mismatch value "a tuple of size 2"
  | .items elements closing => readPair "a tuple of size 2" first second elements closing
  | .members _ _ => .error (.invalidType .object "a tuple of size 2")
  | .broken fault => .error (.malformed fault.cause)

-- The first form that fits. Which forms were tried in vain is not told.
def choose {α : Type} (type : String) (forms : List (Decoder α)) : Decoder α := fun source => do
  let _ ← source.whole
  match forms.findSome? fun form => (form source).toOption with
  | some value => pure value
  | none => .error (.noAlternative type)

end Decoder

end JsonRpc
