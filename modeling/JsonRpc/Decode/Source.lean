import JsonRpc.Decode.Error
import JsonRpc.Json.Draft

set_option autoImplicit false

namespace JsonRpc

inductive Source where
  | value (document : Json)
  | text (draft : Json.Draft)

-- How the elements of a container end. A value knows how many elements it has; a text may end in a
-- fault.
inductive Closing where
  | counted (length : Nat)
  | written (fault : Option Json.Fault)

inductive View where
  | scalar (value : Scalar)
  | items (elements : List Source) (closing : Closing)
  | members (elements : List (Except Json.Fault String × Source)) (closing : Closing)
  | broken (fault : Json.Fault)

namespace Closing

def noMore : Closing → Except DecodeError Unit
  | .counted _ => .ok ()
  | .written none => .ok ()
  | .written (some fault) => .error (.malformed fault.cause)

def noSurplus (closing : Closing) (left : List Source) : Except DecodeError Unit :=
  match closing with
  | .counted length => if left.isEmpty then .ok () else .error (.invalidLength length "fewer elements in array")
  | .written ending =>
      if !left.isEmpty then .error (.malformed .trailingCharacters)
      else
        match ending with
        | none => .ok ()
        | some fault =>
            if fault.cause = .trailingComma ∨ fault.cause = .endInList then .error (.malformed fault.cause)
            else .error (.malformed .trailingCharacters)

end Closing

namespace Source

def view : Source → View
  | .value .null => .scalar .null
  | .value (.bool truth) => .scalar (.bool truth)
  | .value (.num number) => .scalar (.num number)
  | .value (.str string) => .scalar (.str string)
  | .value (.arr items) => .items (items.map .value) (.counted items.length)
  | .value (.obj members) =>
      .members (members.map fun (key, member) => (.ok key, .value member)) (.counted members.length)
  | .text .null => .scalar .null
  | .text (.bool truth) => .scalar (.bool truth)
  | .text (.num (.ok number)) => .scalar (.num number)
  | .text (.num (.error fault)) => .broken fault
  | .text (.str (.ok string)) => .scalar (.str string)
  | .text (.str (.error fault)) => .broken fault
  | .text (.arr items ending) => .items (items.map .text) (.written ending)
  | .text (.obj members ending) =>
      .members (members.map fun (key, member) => (key, .text member)) (.written ending)
  | .text (.deep fault _) => .broken fault
  | .text (.broken fault) => .broken fault

def whole : Source → Except DecodeError Json
  | .value document => .ok document
  | .text draft => draft.settle.mapError fun fault => .malformed fault.cause

def skip : Source → Except DecodeError Unit
  | .value _ => .ok ()
  | .text draft =>
      match draft.skip with
      | none => .ok ()
      | some cause => .error (.malformed cause)

end Source

end JsonRpc
