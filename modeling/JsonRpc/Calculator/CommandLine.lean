import JsonRpc.Calculator.Methods
import JsonRpc.Log.Filter
import JsonRpc.Log.Line

set_option autoImplicit false

namespace JsonRpc.Calculator

inductive OptionName where
  | request
  | logLevel
  | caller
deriving DecidableEq

structure Options where
  request : Option String
  logLevel : Option String
  caller : Option String
  pretty : Bool
deriving DecidableEq

inductive Refusal where
  | usage
  | help
deriving DecidableEq

namespace Options

def none : Options := ⟨Option.none, Option.none, Option.none, false⟩

def value? (options : Options) : OptionName → Option String
  | .request => options.request
  | .logLevel => options.logLevel
  | .caller => options.caller

-- Each option may be given once.
def set (options : Options) (name : OptionName) (value : String) : Except Refusal Options :=
  if (options.value? name).isSome then .error .usage
  else
    match name with
    | .request => .ok { options with request := some value }
    | .logLevel => .ok { options with logLevel := some value }
    | .caller => .ok { options with caller := some value }

def setPretty (options : Options) : Except Refusal Options :=
  if options.pretty then .error .usage else .ok { options with pretty := true }

end Options

inductive Argument where
  | valued (name : OptionName) (value : Option String)
  | pretty
  | help
  | endOfOptions
  | unknown

namespace Argument

def longName? (name : List Char) : Option OptionName :=
  match String.ofList name with
  | "request" => some .request
  | "log-level" => some .logLevel
  | "caller" => some .caller
  | _ => none

def ofLong (text : List Char) : Argument :=
  let name := text.takeWhile (· != '=')
  let value := match text.drop name.length with
    | [] => none
    | _ :: value => some (String.ofList value)
  match longName? name, value with
  | some option, value => .valued option value
  | none, some _ => .unknown
  | none, none =>
      match String.ofList name with
      | "pretty" => .pretty
      | "help" => .help
      | _ => .unknown

def ofText (text : String) : Argument :=
  match text.toList with
  | ['-', '-'] => .endOfOptions
  | '-' :: '-' :: rest => ofLong rest
  | ['-', 'r'] => .valued .request none
  | '-' :: 'r' :: '=' :: value => .valued .request (some (.ofList value))
  | '-' :: 'r' :: value => .valued .request (some (.ofList value))
  | '-' :: 'h' :: _ => .help
  | _ => .unknown

-- Whether an argument can be the value of the option before it. A lone dash can.
def isValue (text : String) : Bool :=
  match text.toList with
  | ['-'] => true
  | '-' :: _ => false
  | _ => true

end Argument

def readArguments (options : Options) : List String → Except Refusal Options
  | [] => .ok options
  | argument :: rest =>
      match Argument.ofText argument with
      | .valued name (some value) => do
          let options ← options.set name value
          readArguments options rest
      | .valued name none =>
          match rest with
          | [] => .error .usage
          | value :: rest =>
              if Argument.isValue value then do
                let options ← options.set name value
                readArguments options rest
              else .error .usage
      | .pretty => do
          let options ← options.setPretty
          readArguments options rest
      | .help => .error .help
      | .endOfOptions => if rest.isEmpty then .ok options else .error .usage
      | .unknown => .error .usage

structure Report where
  exitCode : Nat
  stdout : String
  stderr : String
deriving DecidableEq

def usage : String :=
  "Usage: calculator-dispatcher [-r REQUEST] [--log-level FILTER] [--caller NAME] [--pretty]\n"

def readyRecord : Log.Record :=
  ⟨.debug, logTarget, "Calculator ready", [⟨"methods", Text.quoteAll dispatcher.methods⟩]⟩

def unansweredRecord : Log.Record := ⟨.info, logTarget, "No response (notification only)", []⟩

def shownLine (filter : Log.Filter) (spans : List UInt64) (record : Log.Record) : String :=
  let scope := filter.scope (spans.map requestSpan)
  if filter.showsRecord scope record then record.line scope.kept else ""

def shownTrace (filter : Log.Filter) (trace : List (Entry Caller Lifecycle)) : String :=
  String.join (trace.map fun entry =>
    match logRecord? entry.event with
    | some record => shownLine filter entry.spans record
    | none => "")

def startLog (filter : Log.Filter) : String :=
  String.join (builder.notices.map fun notice => shownLine filter [] notice.record) ++
    shownLine filter [] readyRecord

def answerText (pretty : Bool) (document : Json) : String :=
  if pretty then document.renderPretty else document.render

def answer (filter : Log.Filter) (pretty : Bool) (caller : Caller) (input : String) : Report :=
  -- No method of the calculator calls back.
  let result := Dispatcher.processText 0 (Text.trim input) caller dispatcher
  let logged := startLog filter ++ shownTrace filter result.trace
  match result.value.toJson? with
  | some document => ⟨0, answerText pretty document ++ "\n", logged⟩
  | none => ⟨0, "", logged ++ shownLine filter [] unansweredRecord⟩

/-- The whole program. `environment` is the filter given by the environment, `input` what stands in the
standard input, if it is text at all. A request among the options keeps the input from being read. -/
def run (arguments : List String) (environment : Option String) (input : Option String) : Report :=
  match readArguments .none arguments with
  | .error .usage => ⟨2, "", usage⟩
  | .error .help => ⟨0, usage, ""⟩
  | .ok options =>
      let filterText := (options.logLevel.or environment).getD "info"
      match Log.Filter.ofText filterText with
      | .error .malformed => ⟨1, "", "Error: invalid --log-level filter\n"⟩
      | .error .insideCharacter => ⟨101, "", "Error: --log-level filter cut inside a character\n"⟩
      | .ok filter =>
          match options.request.or input with
          | none => ⟨1, "", startLog filter ++ "Error: failed to read request from stdin\n"⟩
          | some text => answer filter options.pretty ⟨options.caller.getD "cli"⟩ text

end JsonRpc.Calculator
