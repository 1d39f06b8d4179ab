import JsonRpc.Decode.Decoder

set_option autoImplicit false

/- Records: an object with named members, or a list of their values in the order of the declaration.
Problems are reported in the order in which they are met; members that are missing come last. -/

namespace JsonRpc

-- A member of a record. Where it is missing from an object or from the end of a list, the record
-- takes `absent` or `short` in its place.
structure Field where
  name : String
  Carrier : Type
  decoder : Decoder Carrier
  absent : Option Carrier := none
  short : Option Carrier := none

namespace Field

abbrev required (name : String) {α : Type} (decoder : Decoder α) : Field := { name, Carrier := α, decoder }

abbrev optional (name : String) {α : Type} (decoder : Decoder α) : Field :=
  { name, Carrier := Option α, decoder := decoder.optional, absent := some none }

abbrev defaulted (name : String) {α : Type} (decoder : Decoder α) (default : α) : Field :=
  { name, Carrier := α, decoder, absent := some default, short := some default }

end Field

def Values : List Field → Type
  | [] => Unit
  | field :: rest => field.Carrier × Values rest

def Slots : List Field → Type
  | [] => Unit
  | field :: rest => Option field.Carrier × Slots rest

namespace Slots

def empty : (fields : List Field) → Slots fields
  | [] => ()
  | _ :: rest => (none, empty rest)

def fill (key : String) (source : Source) :
    (fields : List Field) → Slots fields → Option (Except DecodeError (Slots fields))
  | [], _ => none
  | field :: fields, (slot, rest) =>
      if field.name = key then
        match slot with
        | some _ => some (.error (.duplicateField key))
        | none => some ((field.decoder source).map fun value => (some value, rest))
      else (fill key source fields rest).map fun filled => filled.map fun rest => (slot, rest)

def fillAll (fields : List Field) (isClosed : Bool) :
    List (Except Json.Fault String × Source) → Slots fields → Except DecodeError (Slots fields)
  | [], slots => .ok slots
  | (key, source) :: rest, slots => do
      let key ← Decoder.readKey key
      match fill key source fields slots with
      | some filled => fillAll fields isClosed rest (← filled)
      | none =>
          if isClosed then .error (.unknownField key (fields.map Field.name))
          else
            source.skip
            fillAll fields isClosed rest slots

def values : (fields : List Field) → Slots fields → Except DecodeError (Values fields)
  | [], _ => .ok ()
  | field :: fields, (slot, rest) =>
      match slot.or field.absent with
      | none => .error (.missingField field.name)
      | some value => (values fields rest).map fun rest => (value, rest)

end Slots

namespace Decoder

def readFields (expected : String) (read : Nat) (closing : Closing) :
    (fields : List Field) → List Source → Except DecodeError (Values fields × List Source)
  | [], left => .ok ((), left)
  | field :: fields, [] => do
      closing.noMore
      match field.short with
      | none => .error (.invalidLength read expected)
      | some value => do
          let (rest, left) ← readFields expected (read + 1) closing fields []
          pure ((value, rest), left)
  | field :: fields, source :: sources => do
      let value ← field.decoder source
      let (rest, left) ← readFields expected (read + 1) closing fields sources
      pure ((value, rest), left)

def readList (expected : String) (fields : List Field) (elements : List Source) (closing : Closing) :
    Except DecodeError (Values fields) := do
  let (values, left) ← readFields expected 0 closing fields elements
  closing.noSurplus left
  pure values

def readMembers (fields : List Field) (isClosed : Bool)
    (elements : List (Except Json.Fault String × Source)) (closing : Closing) :
    Except DecodeError (Values fields) := do
  let slots ← Slots.fillAll fields isClosed elements (Slots.empty fields)
  closing.noMore
  Slots.values fields slots

def countedElements (count : Nat) : String :=
  if count = 1 then "1 element" else toString count ++ " elements"

-- A closed record refuses members it does not know; the others step over them.
def record (title : String) (fields : List Field) (isClosed : Bool) : Decoder (Values fields) := fun source =>
  match source.view with
  | .scalar value => mismatch value title
  | .items elements closing =>
      readList (title ++ " with " ++ countedElements fields.length) fields elements closing
  | .members elements closing => readMembers fields isClosed elements closing
  | .broken fault => .error (.malformed fault.cause)

end Decoder

end JsonRpc
