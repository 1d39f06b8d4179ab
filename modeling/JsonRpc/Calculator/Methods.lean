import JsonRpc.Builder

set_option autoImplicit false

namespace JsonRpc.Calculator

structure Caller where
  name : String
deriving DecidableEq

inductive Lifecycle where
  | logged
deriving DecidableEq

abbrev CalculatorMethod := Method Caller Unit

abbrev CalculatorAction := Action Caller Unit

def logTarget : String := "calculator_dispatcher"

def floatParam : ParamType := .typed Float Decoder.float

def textParam : ParamType := .typed String Decoder.string

def operands : List ParamType := [floatParam, floatParam]

def sumOf (a b : Float) : Json := .ofFloat (a + b)

def differenceOf (a b : Float) : Json := .ofFloat (a - b)

def divisionByZero (dividend : Float) : RpcError :=
  (RpcError.invalidParams "Division by zero").withData (.obj [("dividend", .ofFloat dividend)])

def notNumber (item : Json) : RpcError := .invalidParams ("Not a number: " ++ item.render)

def noSquareRoot (value : Float) : String :=
  "Cannot take the square root of " ++ Decimal.plainLayout.writeFloat value

def add : CalculatorMethod := .plain operands fun (a, b, ()) => .succeed (sumOf a b)

def subtract : CalculatorMethod := .plain operands fun (a, b, ()) => .succeed (differenceOf a b)

def subtractFields : List Field :=
  [.required "minuend" Decoder.float, .required "subtrahend" Decoder.float]

def namedOperands : ParamType :=
  .typed (Values subtractFields) (Decoder.record "struct SubtractParams" subtractFields false)

def subtractNamed : CalculatorMethod :=
  .plain [namedOperands] fun ((minuend, subtrahend, ()), ()) => .succeed (differenceOf minuend subtrahend)

-- Zero of either sign has no quotient.
def quotient (dividend divisor : Float) : CalculatorAction :=
  if divisor == 0.0 then .fail (.rpc (divisionByZero dividend)) else .succeed (.ofFloat (dividend / divisor))

def divide : CalculatorMethod := .plain operands fun (a, b, ()) => quotient a b

def total (start : Float) : List Json → Except RpcError Float
  | [] => .ok start
  | .num value :: rest => total (start + value.toFloat) rest
  | item :: _ => .error (notNumber item)

def items : Json → List Json
  | .arr items => items
  | _ => []

def sumItems (params : Json) : CalculatorAction :=
  match total 0.0 (items params) with
  | .ok value => .succeed (.ofFloat value)
  | .error error => .fail (.rpc error)

def sum : CalculatorMethod := .plain [.json] fun (params, ()) => sumItems params

def squareRoot (value : Float) : CalculatorAction :=
  if value < 0.0 then .fail (.text (noSquareRoot value)) else .succeed (.ofFloat value.sqrt)

def sqrt : CalculatorMethod := .plain [floatParam] fun (value, ()) => squareRoot value

def clientLog (message : String) : Log.Record := ⟨.info, logTarget, "Client log", [⟨"message", message⟩]⟩

def log : CalculatorMethod := .plain [textParam] fun (message, ()) => .log (clientLog message) (.succeed .null)

def whoami : CalculatorMethod := .withContext [] fun context _ =>
  .succeed (.obj [("caller", .str context.data.name), ("extra", .obj context.extra)])

def methods : List (String × CalculatorMethod) := [
  ("add", add), ("subtract", subtract), ("subtract_named", subtractNamed), ("divide", divide), ("sum", sum),
  ("sqrt", sqrt), ("log", log), ("whoami", whoami)]

def builder : Builder Caller Unit Lifecycle :=
  (methods.foldl (fun builder (name, method) => builder.method name method) Builder.start).hooks (some .logged)

def dispatcher : Dispatcher Caller Unit Lifecycle := builder.build ()

def lifecycleRecord : HookCall Caller → Log.Record
  | .beforeRequest raw context =>
      ⟨.debug, logTarget, "Request received", [⟨"caller", context.data.name⟩, ⟨"request", raw.render⟩]⟩
  | .beforeInvoke method _ => ⟨.debug, logTarget, "Invoking handler", [⟨"method", Text.quote method⟩]⟩
  | .afterRequest method (.ok result) _ =>
      ⟨.info, logTarget, "Request succeeded", [⟨"method", Text.quote method⟩, ⟨"result", result.render⟩]⟩
  | .afterRequest method (.error error) _ =>
      ⟨.warn, logTarget, "Request failed", ⟨"method", Text.quote method⟩ :: Notice.errorFields error⟩

def logRecord? : Event Caller Lifecycle → Option Log.Record
  | .hook _ call => some (lifecycleRecord call)
  | .notice notice => some notice.record
  | .log record => some record
  | .entered _ _ _ => none

end JsonRpc.Calculator
