import JsonRpc.Decode.Record

set_option autoImplicit false

namespace JsonRpc

structure Variant (α : Type) where
  name : String
  bare : Except DecodeError α
  content : Decoder α

namespace Variant

def needsContent {α : Type} (kind : String) : Except DecodeError α := .error (.invalidType .bareVariant kind)

-- A variant without content; `null` may be given as its content.
def constant {α : Type} (name : String) (value : α) : Variant α :=
  ⟨name, .ok value, Decoder.unit.map fun _ => value⟩

def single {α β : Type} (name : String) (decoder : Decoder β) (make : β → α) : Variant α :=
  ⟨name, needsContent "newtype variant", decoder.map make⟩

-- A variant with two values in a list. The empty list is taken for `null`.
def double {α β γ : Type} (title name : String) (first : Decoder β) (second : Decoder γ) (make : β × γ → α) :
    Variant α where
  name
  bare := needsContent "tuple variant"
  content source :=
    match source.view with
    | .scalar value => Decoder.mismatch value "tuple variant"
    | .items [] _ => Decoder.mismatch .null title
    | .items elements closing =>
        (Decoder.readPair (title ++ " with 2 elements") first second elements closing).map make
    | .members _ _ => .error (.invalidType .object "tuple variant")
    | .broken fault => .error (.malformed fault.cause)

def fields {α : Type} (name : String) (fields : List Field) (make : Values fields → α) : Variant α where
  name
  bare := needsContent "struct variant"
  content source :=
    match source.view with
    | .scalar value => Decoder.mismatch value "struct variant"
    | .items _ _ => .error (.invalidType .list "struct variant")
    | .members elements closing => (Decoder.readMembers fields false elements closing).map make
    | .broken fault => .error (.malformed fault.cause)

def named {α : Type} (variants : List (Variant α)) (name : String) : Except DecodeError (Variant α) :=
  match variants.find? fun variant => variant.name == name with
  | some variant => .ok variant
  | none => .error (.unknownVariant name (variants.map Variant.name))

end Variant

namespace Decoder

def variants {α : Type} (variants : List (Variant α)) : Decoder α := fun source =>
  match source.view with
  | .scalar (.str name) => do
      let variant ← Variant.named variants name
      variant.bare
  | .scalar value => mismatch value "string or map"
  | .items _ _ => .error (.invalidType .list "string or map")
  | .members [(key, content)] closing => do
      let key ← readKey key
      let variant ← Variant.named variants key
      let value ← variant.content content
      closing.noMore
      pure value
  | .members _ _ => .error (.invalidValue .object "map with a single key")
  | .broken fault => .error (.malformed fault.cause)

end Decoder

end JsonRpc
