import JsonRpc.Proofs.Trace

set_option autoImplicit false

namespace JsonRpc

variable {C M H : Type}

inductive Candidate where
  | unreadable (text : String) (error : Json.Error)
  | emptyBatch
  | value (raw : Json)

theorem is_object_iff (document : Json) : document.isObject = true ↔ ∃ members, document = .obj members := by
  cases document <;> simp [Json.isObject]

namespace Candidate

-- What observers are shown: a text that cannot be read is shown as a string.
def raw : Candidate → Json
  | .unreadable text _ => .str text
  | .emptyBatch => .arr []
  | .value raw => raw

def request : Candidate → Except RpcError Request
  | .unreadable _ error => .error (.parseError error.message)
  | .emptyBatch => .error (.invalidRequest Dispatcher.emptyBatch)
  | .value raw => Request.ofJson raw

def returnId : Candidate → RequestId
  | .value raw => Request.tentativeId raw
  | _ => .null

-- The log tells objects from everything else.
def complaint (error : RpcError) : Candidate → Notice
  | .value (.obj _) => .invalid error
  | _ => .rejected error

-- Each element of a list is a candidate, but the empty list is one itself.
def ofDocument : Json → List Candidate
  | .arr [] => [.emptyBatch]
  | .arr (first :: rest) => (first :: rest).map .value
  | document => [.value document]

end Candidate

inductive Input where
  | text (source : String)
  | document (content : Json)

namespace Input

def document? : Input → Option Json
  | .text source => (Json.parse source).toOption
  | .document content => some content

def candidates : Input → List Candidate
  | .text source =>
      match Json.parse source with
      | .ok content => Candidate.ofDocument content
      | .error error => [.unreadable source error]
  | .document content => Candidate.ofDocument content

end Input

namespace Dispatcher

def dispatchWith (nested : String → C → Run C M H Answer) : Input → C → Run C M H Answer
  | .text source, data => processTextWith nested source data
  | .document content, data => processWith nested content data

def dispatch (depth : Nat) : Input → C → Run C M H Answer := dispatchWith (callback depth)

def refuse (candidate : Candidate) (error : RpcError) (data : C) : Run C M H (Option Message) := do
  Run.emit (.notice (candidate.complaint error))
  Run.notify (.afterRequest "" (.error error) (Context.ofCaller data))
  pure (some (.failure candidate.returnId error))

def handle (nested : String → C → Run C M H Answer) (data : C) (candidate : Candidate) :
    Run C M H (Option Message) := Run.inSpan do
  Run.notify (.beforeRequest candidate.raw (Context.ofCaller data))
  match candidate.request with
  | .error error => refuse candidate error data
  | .ok request => processAccepted nested request data

theorem reject_handle (nested : String → C → Run C M H Answer) (data : C) (candidate : Candidate) (error : RpcError)
    (refused : candidate.request = .error error) (noObject : candidate.complaint error = .rejected error)
    (unaddressed : candidate.returnId = .null) (dispatcher : Dispatcher C M H) :
    handle nested data candidate dispatcher =
      Run.map some (reject candidate.raw data error) dispatcher := by
  simp [handle, refused, refuse, noObject, unaddressed, reject]

theorem reject_value_handle (nested : String → C → Run C M H Answer) (data : C) (raw : Json)
    (noObject : raw.isObject = false) (dispatcher : Dispatcher C M H) :
    handle nested data (.value raw) dispatcher =
      Run.map some (reject raw data (.invalidRequest Request.notRequest)) dispatcher := by
  cases raw with
  | obj members => simp [Json.isObject] at noObject
  | _ => exact reject_handle nested data (.value _) _ rfl rfl rfl dispatcher

theorem process_one_handle (nested : String → C → Run C M H Answer) (data : C) (members : Members) :
    processOne nested (.obj members) data = handle nested data (.value (.obj members)) := by
  funext dispatcher
  simp only [processOne, handle, Candidate.raw, Candidate.request]
  cases Request.ofJson (.obj members) with
  | error error => rfl
  | ok request => rfl

theorem process_entry_handle (nested : String → C → Run C M H Answer) (data : C) (entry : Json) :
    processEntry nested data entry = handle nested data (.value entry) := by
  by_cases object : entry.isObject
  · obtain ⟨members, rfl⟩ := is_object_iff entry |>.mp object
    exact process_one_handle nested data members
  · funext dispatcher
    simp [processEntry, object, reject_value_handle nested data entry (by simpa using object)]

def messages (turns : List (Turn Candidate C M H (Option Message))) : List Message :=
  turns.flatMap fun turn => turn.step.value.toList

def traces {ι α : Type} (turns : List (Turn ι C M H α)) : List (Entry C H) := turns.flatMap fun turn => turn.step.trace

theorem process_entries_turns (nested : String → C → Run C M H Answer) (data : C) (entries : List Json)
    (dispatcher : Dispatcher C M H) :
    processEntries nested data entries dispatcher =
      let turns := Run.turns (handle nested data) (entries.map .value) dispatcher
      ⟨messages turns, Turn.last turns dispatcher, traces turns⟩ := by
  induction entries generalizing dispatcher with
  | nil => rfl
  | cons entry rest ih =>
      simp [processEntries, process_entry_handle, ih, Run.turns, messages, traces, Turn.last]

def announcement : Option Json → List (Entry C H)
  | some (.arr (first :: rest)) => Trace.ofNotices [.batch (first :: rest).length]
  | _ => []

theorem announcement_notices (document? : Option Json) :
    ∃ notices, (announcement document? : List (Entry C H)) = Trace.ofNotices notices := by
  unfold announcement
  split
  · exact ⟨_, rfl⟩
  · exact ⟨[], rfl⟩

def assemble : Option Json → List Message → Answer
  | some (.arr (_ :: _)), messages => .ofMessages messages
  | _, messages => .ofMessage? messages.head?

theorem rejected_turns (nested : String → C → Run C M H Answer) (data : C) (candidate : Candidate) (error : RpcError)
    (refused : candidate.request = .error error) (noObject : candidate.complaint error = .rejected error)
    (unaddressed : candidate.returnId = .null) (dispatcher : Dispatcher C M H) :
    (do let message ← reject candidate.raw data error
        pure (.single message) : Run C M H Answer) dispatcher =
      let turns := Run.turns (handle nested data) [candidate] dispatcher
      ⟨.ofMessage? (messages turns).head?, Turn.last turns dispatcher, traces turns⟩ := by
  have rejected := reject_handle nested data candidate error refused noObject unaddressed dispatcher
  simp [Run.turns, rejected, messages, traces, Turn.last, Answer.ofMessage?]

theorem process_with_turns (nested : String → C → Run C M H Answer) (data : C) (document : Json)
    (dispatcher : Dispatcher C M H) :
    processWith nested document data dispatcher =
      let turns := Run.turns (handle nested data) (Candidate.ofDocument document) dispatcher
      ⟨assemble (some document) (messages turns), Turn.last turns dispatcher,
        announcement (some document) ++ traces turns⟩ := by
  cases document with
  | obj members =>
      simp only [processWith, process_one_handle, Candidate.ofDocument]
      cases answered : (handle nested data (.value (.obj members)) dispatcher).value <;>
        simp [answered, Run.turns, messages, traces, Turn.last, assemble, announcement, Answer.ofMessage?]
  | arr entries =>
      cases entries with
      | nil => exact rejected_turns nested data .emptyBatch _ rfl rfl rfl dispatcher
      | cons first rest =>
          simp only [Candidate.ofDocument]
          simp [processWith, processBatch, process_entries_turns, assemble, announcement, Trace.ofNotices]
  | _ => exact rejected_turns nested data (.value _) _ rfl rfl rfl dispatcher

theorem dispatch_with_turns (nested : String → C → Run C M H Answer) (input : Input) (data : C)
    (dispatcher : Dispatcher C M H) :
    dispatchWith nested input data dispatcher =
      let turns := Run.turns (handle nested data) input.candidates dispatcher
      ⟨assemble input.document? (messages turns), Turn.last turns dispatcher,
        announcement input.document? ++ traces turns⟩ := by
  cases input with
  | document content => exact process_with_turns nested data content dispatcher
  | text source =>
      simp only [dispatchWith, processTextWith, Input.candidates, Input.document?]
      cases parsed : Json.parse source with
      | ok content => exact process_with_turns nested data content dispatcher
      | error error => exact rejected_turns nested data (.unreadable source error) _ rfl rfl rfl dispatcher

end Dispatcher

end JsonRpc
