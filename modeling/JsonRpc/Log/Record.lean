set_option autoImplicit false

namespace JsonRpc.Log

inductive Level where
  | error
  | warn
  | info
  | debug
  | trace
deriving DecidableEq

namespace Level

def name : Level → String
  | .error => "ERROR"
  | .warn => "WARN"
  | .info => "INFO"
  | .debug => "DEBUG"
  | .trace => "TRACE"

def verbosity : Level → Nat
  | .error => 1
  | .warn => 2
  | .info => 3
  | .debug => 4
  | .trace => 5

end Level

structure Field where
  name : String
  text : String
deriving DecidableEq

structure Record where
  level : Level
  target : String
  message : String
  fields : List Field
deriving DecidableEq

def Record.fieldNames (record : Record) : List String := "message" :: record.fields.map (·.name)

structure Span where
  level : Level
  target : String
  name : String
  fields : List Field
deriving DecidableEq

def Span.fieldNames (span : Span) : List String := span.fields.map (·.name)

def Span.label (span : Span) : String :=
  let fields := span.fields.map fun field => field.name ++ "=" ++ field.text
  span.name ++ "\x7b" ++ " ".intercalate fields ++ "\x7d"

end JsonRpc.Log
