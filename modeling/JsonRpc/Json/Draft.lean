import JsonRpc.Json.Token

set_option autoImplicit false

/- A JSON text as it was written: members in their order and with repetitions, up to the first fault
that stops every reader. Readers of documents and of typed records take from a draft what they need
and report a fault when they come to it. -/

namespace JsonRpc.Json

inductive Draft where
  | null
  | bool (value : Bool)
  | num (value : Except Fault Number)
  | str (value : Except Fault String)
  | arr (items : List Draft) (ending : Option Fault)
  | obj (members : List (Except Fault String × Draft)) (ending : Option Fault)
  | deep (fault : Fault) (inner : Draft)
  | broken (fault : Fault)

namespace Draft

def maxDepth : Nat := 127

structure OpenList where
  deep : Option Fault
  items : List Draft

structure OpenObject where
  deep : Option Fault
  members : List (Except Fault String × Draft)

def guardDepth : Option Fault → Draft → Draft
  | some fault, inner => .deep fault inner
  | none, inner => inner

def OpenList.close (container : OpenList) (ending : Option Fault) : Draft :=
  guardDepth container.deep (.arr container.items.reverse ending)

def OpenObject.close (container : OpenObject) (ending : Option Fault) : Draft :=
  guardDepth container.deep (.obj container.members.reverse ending)

def OpenList.push (container : OpenList) (item : Draft) : OpenList :=
  { container with items := item :: container.items }

def OpenObject.push (container : OpenObject) (key : Except Fault String) (value : Draft) : OpenObject :=
  { container with members := (key, value) :: container.members }

inductive Frame where
  | item (container : OpenList)
  | member (container : OpenObject) (key : Except Fault String)

inductive State where
  | value
  | listStart (container : OpenList)
  | listNext (container : OpenList)
  | listRest (container : OpenList)
  | objectStart (container : OpenObject)
  | objectNext (container : OpenObject)
  | objectRest (container : OpenObject)
  | colon (container : OpenObject) (key : Except Fault String)
  | complete (document : Draft)

def place (value : Draft) : List Frame → State × List Frame
  | [] => (.complete value, [])
  | .item container :: frames => (.listRest (container.push value), frames)
  | .member container key :: frames => (.objectRest (container.push key value), frames)

-- The document when the text breaks off inside `inner`: every container around it ends in the
-- fault.
def breakOff (fault : Fault) (inner : Draft) : List Frame → Draft
  | [] => inner
  | .item container :: frames => breakOff fault ((container.push inner).close (some fault)) frames
  | .member container key :: frames => breakOff fault ((container.push key inner).close (some fault)) frames

def refuse (token : Token) (cause : Cause) : Fault := .plain cause (token.start + 1)

def beginValue (token : Token) (frames : List Frame) : Except Fault (State × List Frame) :=
  let deep := if (frames.drop (maxDepth - 1)).isEmpty then none else some ⟨.tooDeep, token.start + 1, none⟩
  match token.kind with
  | .null => .ok (place .null frames)
  | .bool value => .ok (place (.bool value) frames)
  | .number value => .ok (place (.num value) frames)
  | .string value => .ok (place (.str value) frames)
  | .openList => .ok (.listStart ⟨deep, []⟩, frames)
  | .openObject => .ok (.objectStart ⟨deep, []⟩, frames)
  | .broken _ fault => .error fault
  | _ => .error (refuse token .expectedValue)

def step (token : Token) (frames : List Frame) : State → Except Draft (State × List Frame)
  | .value => (beginValue token frames).mapError fun fault => breakOff fault (.broken fault) frames
  | .listStart container =>
      match token.kind with
      | .closeList => .ok (place (container.close none) frames)
      | _ =>
          let inside := .item container :: frames
          (beginValue token inside).mapError fun fault => breakOff fault (.broken fault) inside
  | .listNext container =>
      match token.kind with
      | .closeList =>
          let fault := ⟨.trailingComma, token.start + 1, some .expectedValue⟩
          .error (breakOff fault (container.close (some fault)) frames)
      | _ =>
          let inside := .item container :: frames
          (beginValue token inside).mapError fun fault => breakOff fault (.broken fault) inside
  | .listRest container =>
      match token.kind with
      | .comma => .ok (.listNext container, frames)
      | .closeList => .ok (place (container.close none) frames)
      | _ =>
          let fault := refuse token .expectedListEnd
          .error (breakOff fault (container.close (some fault)) frames)
  | .objectStart container =>
      match token.kind with
      | .string key => .ok (.colon container key, frames)
      | .closeObject => .ok (place (container.close none) frames)
      | .broken true fault => .error (breakOff fault (container.close (some fault)) frames)
      | _ =>
          let fault := refuse token .keyNotString
          .error (breakOff fault (container.close (some fault)) frames)
  | .objectNext container =>
      match token.kind with
      | .string key => .ok (.colon container key, frames)
      | .closeObject =>
          let fault := ⟨.trailingComma, token.start + 1, some .keyNotString⟩
          .error (breakOff fault (container.close (some fault)) frames)
      | .broken true fault => .error (breakOff fault (container.close (some fault)) frames)
      | _ =>
          let fault := refuse token .keyNotString
          .error (breakOff fault (container.close (some fault)) frames)
  | .objectRest container =>
      match token.kind with
      | .comma => .ok (.objectNext container, frames)
      | .closeObject => .ok (place (container.close none) frames)
      | _ =>
          let fault := refuse token .expectedObjectEnd
          .error (breakOff fault (container.close (some fault)) frames)
  | .colon container key =>
      match token.kind with
      | .colon => .ok (.value, .member container key :: frames)
      | _ =>
          let fault := refuse token .expectedColon
          .error (breakOff fault (.broken fault) (.member container key :: frames))
  | .complete document => .ok (.complete document, frames)

def finish (length : Nat) (frames : List Frame) : State → Draft
  | .value =>
      let fault := .plain .endInValue length
      breakOff fault (.broken fault) frames
  | .listStart container =>
      let fault := .plain .endInList length
      breakOff fault (container.close (some fault)) frames
  | .listNext container =>
      let fault := .plain .endInValue length
      breakOff fault (container.close (some fault)) frames
  | .listRest container =>
      let fault := .plain .endInList length
      breakOff fault (container.close (some fault)) frames
  | .objectStart container =>
      let fault := .plain .endInObject length
      breakOff fault (container.close (some fault)) frames
  | .objectNext container =>
      let fault := ⟨.endInValue, length, some .endInObject⟩
      breakOff fault (container.close (some fault)) frames
  | .objectRest container =>
      let fault := .plain .endInObject length
      breakOff fault (container.close (some fault)) frames
  | .colon container key =>
      let fault := .plain .endInObject length
      breakOff fault (.broken fault) (.member container key :: frames)
  | .complete document => document

def ofTokens (length : Nat) : State → List Frame → List Token → Draft × Option Fault
  | .complete document, _, token :: _ => (document, some (refuse token .trailingCharacters))
  | state, frames, [] => (finish length frames state, none)
  | state, frames, token :: rest =>
      match step token frames state with
      | .ok (state, frames) => ofTokens length state frames rest
      | .error document => (document, none)

def ofText (text : String) : Draft × Option Fault :=
  ofTokens text.utf8ByteSize .value [] (Token.list text.toList)

mutual
-- The document as a value: a repeated member keeps its last value.
def settle : Draft → Except Fault Json
  | .null => .ok .null
  | .bool value => .ok (.bool value)
  | .num value => value.map .num
  | .str value => value.map .str
  | .arr items ending => do
      let items ← settleItems items
      match ending with
      | none => pure (.arr items)
      | some fault => .error fault
  | .obj members ending => do
      let members ← settleMembers members
      match ending with
      | none => pure (Json.object members)
      | some fault => .error fault
  | .deep fault _ => .error fault
  | .broken fault => .error fault
def settleItems : List Draft → Except Fault (List Json)
  | [] => .ok []
  | item :: rest => do
      let item ← item.settle
      let rest ← settleItems rest
      pure (item :: rest)
def settleMembers : List (Except Fault String × Draft) → Except Fault (List (String × Json))
  | [] => .ok []
  | (key, value) :: rest => do
      let key ← key
      let value ← value.settle
      let rest ← settleMembers rest
      pure ((key, value) :: rest)
end

mutual
def skip : Draft → Option Cause
  | .null => none
  | .bool _ => none
  | .num _ => none
  | .str _ => none
  | .arr items ending => (skipItems items).or (ending.bind Fault.skipped)
  | .obj members ending => (skipMembers members).or (ending.bind Fault.skipped)
  | .deep _ inner => inner.skip
  | .broken fault => fault.skipped
def skipItems : List Draft → Option Cause
  | [] => none
  | item :: rest => item.skip.or (skipItems rest)
def skipMembers : List (Except Fault String × Draft) → Option Cause
  | [] => none
  | (_, value) :: rest => value.skip.or (skipMembers rest)
end

end Draft

def Error.ofFault (text : String) (fault : Fault) : Error :=
  ⟨fault.cause, some (.after fault.index text.toList)⟩

def parse (text : String) : Except Error Json :=
  let (draft, surplus) := Draft.ofText text
  match draft.settle, surplus with
  | .error fault, _ => .error (.ofFault text fault)
  | .ok _, some fault => .error (.ofFault text fault)
  | .ok document, none => .ok document

end JsonRpc.Json
