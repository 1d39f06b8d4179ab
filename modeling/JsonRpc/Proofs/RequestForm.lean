import Mathlib
import JsonRpc.Proofs.Decoding
import JsonRpc.Proofs.MemberOrder
import JsonRpc.Proofs.Relevance

set_option autoImplicit false

namespace JsonRpc.Request

structure Form (members : Members) (request : Request) : Prop where
  version : members.lookup "jsonrpc" = some (.str "2.0")
  method : members.lookup "method" = some (.str request.method)
  named : request.method ≠ ""
  params : (members.lookup "params" = none ∧ request.params = []) ∨
    members.lookup "params" = some (.arr request.params) ∨
    ∃ named, members.lookup "params" = some (.obj named) ∧ request.params = [.obj named]
  id : members.lookup "id" = request.id.map RequestId.toJson
  extra : ∀ member, member ∈ request.extra ↔ member ∈ members ∧ member.1 ∉ ["jsonrpc", "method", "params", "id"]
  ordered : request.extra.Sorted

abbrev Rule := Json → Option RpcError

namespace Rule

def object : Rule := fun document =>
  if document.isObject then none else some (.invalidRequest "Not a JSON-RPC 2.0 request")

def text (name : String) : Rule := fun document =>
  match document.get? name with
  | none => none
  | some (.str _) => none
  | some raw => some (.invalidRequest ("invalid type: " ++ raw.found.text ++ ", expected a string"))

def present (name : String) : Rule := fun document =>
  match document.get? name with
  | none => some (.invalidRequest ("missing field `" ++ name ++ "`"))
  | some _ => none

def version : Rule := fun document =>
  match document.get? "jsonrpc" with
  | some (.str version) =>
      if version = "2.0" then none else some (.invalidRequest "Not a JSON-RPC 2.0 request")
  | _ => some (.invalidRequest "Not a JSON-RPC 2.0 request")

def params : Rule := fun document =>
  match document.get? "params" with
  | none => none
  | some (.arr _) => none
  | some (.obj _) => none
  | some _ => some (.invalidParams "Parameters must be either an array or an object or omitted")

def named : Rule := fun document =>
  match document.get? "method" with
  | some (.str method) => if method = "" then some (.invalidRequest "Method cannot be empty") else none
  | _ => none

def id : Rule := fun document =>
  match document.get? "id" with
  | none => none
  | some (.str _) => none
  | some (.num _) => none
  | some .null => none
  | some _ => some (.invalidRequest "ID must be either a number, a string, or null")

end Rule

-- The types of the mandatory members come before their presence.
def envelopeRules : List Rule :=
  [Rule.text "jsonrpc", Rule.text "method", Rule.present "jsonrpc", Rule.present "method"]

def memberRules : List Rule := [Rule.version, Rule.params, Rule.named, Rule.id]

def rules : List Rule := Rule.object :: envelopeRules ++ memberRules

def firstBroken (rules : List Rule) (document : Json) : Option RpcError := rules.findSome? fun rule => rule document

def readText : Option Json → Except DecodeError (Option String)
  | none => .ok none
  | some raw => (Decoder.string.decode raw).map some

def readEnvelope (version method : Option Json) : Except DecodeError Envelope := do
  let version ← readText version
  let method ← readText method
  match version, method with
  | some version, some method => .ok { version, method }
  | none, _ => .error (.missingField "jsonrpc")
  | some _, none => .error (.missingField "method")

theorem envelope_slots (members : Members) :
    Envelope.decoder.decode (.obj members) =
      (Slots.fillAll envelopeFields false members.sources (none, none, ()) >>= Slots.values envelopeFields).map
        fun (version, method, ()) => { version, method } := rfl

theorem envelope_of_two (version method : Option Json) :
    Envelope.decoder.decode (.obj ((version.map fun raw => ("jsonrpc", raw)).toList ++
      (method.map fun raw => ("method", raw)).toList)) = readEnvelope version method := by
  have versionTaken (raw : Json) (rest : Members) :=
    Slots.fill_all_known envelopeFields false "jsonrpc" raw rest (none, none, ())
      ((Decoder.string.decode raw).map fun text => (some text, none, ())) rfl
  have methodTaken (slot : Option String) (raw : Json) :=
    Slots.fill_all_known envelopeFields false "method" raw [] (slot, none, ())
      (((Decoder.string.decode raw).map fun text => (some text, ())).map fun rest => (slot, rest)) rfl
  rw [envelope_slots]
  cases version with
  | none =>
      cases method with
      | none => rfl
      | some method =>
          simp only [Option.map, Option.toList, List.nil_append, methodTaken, readEnvelope, readText]
          cases Decoder.string.decode method <;> rfl
  | some version =>
      cases method with
      | none =>
          simp only [Option.map, Option.toList, List.singleton_append, versionTaken, readEnvelope, readText]
          cases Decoder.string.decode version <;> rfl
      | some method =>
          simp only [Option.map, Option.toList, List.singleton_append, versionTaken, readEnvelope, readText]
          cases Decoder.string.decode version with
          | error error => rfl
          | ok text =>
              simp only [Except.map, bind, Except.bind, methodTaken (some text) method]
              cases Decoder.string.decode method <;> rfl

-- In an object in order the version comes before the method.
theorem envelope_read (members : Members) (sorted : members.Sorted) :
    Envelope.decoder.decode (.obj members) = readEnvelope (members.lookup "jsonrpc") (members.lookup "method") := by
  have kept := Decoder.record_filter "struct Envelope" envelopeFields ["jsonrpc", "method"].contains
    (by decide) members
  have selected : lookups ["jsonrpc", "method"] members =
      ((members.lookup "jsonrpc").map fun raw => ("jsonrpc", raw)).toList ++
        ((members.lookup "method").map fun raw => ("method", raw)).toList := by
    cases version : members.lookup "jsonrpc" <;> cases method : members.lookup "method" <;>
      simp [lookups, version, method]
  rw [members.filter_lookups sorted ["jsonrpc", "method"] (by decide), selected] at kept
  rw [← envelope_of_two]
  exact congrArg (Except.map _) kept.symm

def refusal {α : Type} : Except RpcError α → Option RpcError
  | .error error => some error
  | .ok _ => none

def decodeRefusal {α : Type} (read : Except DecodeError α) : Option RpcError :=
  refusal (read.mapError fun problem => .invalidRequest problem.message)

theorem text_refusal (name : String) (members : Members) :
    Rule.text name (.obj members) = decodeRefusal (readText (members.lookup name)) := by
  simp only [Rule.text, Json.get?]
  cases members.lookup name with
  | none => rfl
  | some raw =>
      by_cases text : ∃ value, raw = .str value
      · obtain ⟨value, rfl⟩ := text
        rfl
      · have refused := Decoder.string_refused raw fun value same => text ⟨value, same⟩
        have told : (DecodeError.invalidType raw.found "a string").message =
            "invalid type: " ++ raw.found.text ++ ", expected a string" := String.append_assoc ..
        simp only [readText, refused, Except.map, decodeRefusal, Except.mapError, refusal, told]
        cases raw with
        | str value => exact absurd ⟨value, rfl⟩ text
        | _ => rfl

theorem envelope_refusal (members : Members) (sorted : members.Sorted) :
    firstBroken envelopeRules (.obj members) = decodeRefusal (Envelope.decoder.decode (.obj members)) := by
  simp only [firstBroken, envelopeRules, List.findSome?_cons, List.findSome?_nil, text_refusal, Rule.present,
    Json.get?, envelope_read members sorted, readEnvelope]
  cases members.lookup "jsonrpc" with
  | none =>
      cases members.lookup "method" with
      | none => rfl
      | some method =>
          simp only [readText]
          cases Decoder.string.decode method <;> rfl
  | some version =>
      simp only [readText]
      cases Decoder.string.decode version with
      | error problem => rfl
      | ok text =>
          cases members.lookup "method" with
          | none => rfl
          | some method =>
              dsimp only
              cases Decoder.string.decode method <;> rfl

theorem params_refusal (members : Members) :
    Rule.params (.obj members) =
      if (normalParams? (members.lookup "params")).isSome then none else some (.invalidParams badParams) := by
  simp only [Rule.params, Json.get?]
  cases members.lookup "params" with
  | none => rfl
  | some raw => cases raw <;> rfl

theorem id_refusal (members : Members) : Rule.id (.obj members) = refusal (readId (members.lookup "id")) := by
  simp only [Rule.id, Json.get?]
  cases members.lookup "id" with
  | none => rfl
  | some raw => cases raw <;> rfl

theorem read_envelope_iff (version method : Option Json) (envelope : Envelope) :
    readEnvelope version method = .ok envelope ↔
      version = some (.str envelope.version) ∧ method = some (.str envelope.method) := by
  have read (raw : Option Json) (text : String) : readText raw = .ok (some text) ↔ raw = some (.str text) := by
    cases raw with
    | none => simp [readText]
    | some raw =>
        rw [readText, Option.some.injEq, ← Decoder.string_iff]
        cases Decoder.string.decode raw <;> simp [Except.map]
  rw [← read, ← read]
  constructor
  · intro taken
    cases first : readText version with
    | error problem => simp [readEnvelope, first, bind, Except.bind] at taken
    | ok versionText =>
        cases second : readText method with
        | error problem => simp [readEnvelope, first, second, bind, Except.bind] at taken
        | ok methodText =>
            cases versionText <;> cases methodText <;> simp [readEnvelope, first, second, bind, Except.bind] at taken
            simp [← taken]
  · rintro ⟨first, second⟩
    simp [readEnvelope, first, second, bind, Except.bind]

theorem member_refusal (members : Members) (envelope : Envelope)
    (decoded : Envelope.decoder.decode (.obj members) = .ok envelope)
    (version : members.lookup "jsonrpc" = some (.str envelope.version))
    (method : members.lookup "method" = some (.str envelope.method)) :
    firstBroken memberRules (.obj members) = refusal (ofJson (.obj members)) := by
  simp only [firstBroken, memberRules, List.findSome?_cons, List.findSome?_nil, params_refusal, id_refusal,
    Rule.version, Rule.named, Json.get?, version, method, ofJson, decoded]
  by_cases current : envelope.version = Version.v2.text
  · cases normalParams? (members.lookup "params") with
    | none => simp [current, Version.text, refusal]
    | some params =>
        by_cases empty : envelope.method = ""
        · simp [current, Version.text, refusal, empty, emptyMethod]
        · cases readId (members.lookup "id") <;> simp [current, Version.text, refusal, empty, Except.map]
  · have other : envelope.version ≠ "2.0" := current
    simp [current, other, refusal, notRequest]

theorem object_refusal (members : Members) (sorted : members.Sorted) :
    firstBroken rules (.obj members) = refusal (ofJson (.obj members)) := by
  have split : firstBroken rules (.obj members) =
      (firstBroken envelopeRules (.obj members)).or (firstBroken memberRules (.obj members)) :=
    List.findSome?_append
  rw [split, envelope_refusal members sorted]
  cases decoded : Envelope.decoder.decode (.obj members) with
  | error problem => simp [ofJson, decoded, decodeRefusal, refusal, Except.mapError]
  | ok envelope =>
      rw [envelope_read members sorted] at decoded
      obtain ⟨version, method⟩ := (read_envelope_iff _ _ envelope).mp decoded
      rw [← envelope_read members sorted] at decoded
      exact member_refusal members envelope decoded version method

theorem first_broken_refusal (document : Json) (canonical : document.Canonical) :
    firstBroken rules document = refusal (ofJson document) := by
  cases document with
  | obj members => exact object_refusal members canonical.1
  | _ => rfl

theorem normal_params_iff (given : Option Json) (params : List Json) :
    normalParams? given = some params ↔
      (given = none ∧ params = []) ∨ given = some (.arr params) ∨
        ∃ named, given = some (.obj named) ∧ params = [.obj named] := by
  cases given with
  | none => simp [normalParams?, eq_comm]
  | some raw => cases raw <;> simp [normalParams?, eq_comm]

theorem read_id_iff (given : Option Json) (id : Option RequestId) :
    readId given = .ok id ↔ given = id.map RequestId.toJson := by
  cases given with
  | none => cases id <;> simp [readId]
  | some raw =>
      constructor
      · intro read
        cases known : RequestId.ofJson? raw with
        | none => simp [readId, known] at read
        | some found =>
            have same : some found = id := by simpa [readId, known] using read
            simp [← same, RequestId.to_json_of_json raw found known]
      · intro same
        cases id with
        | none => cases same
        | some id =>
            cases same
            simp [readId, RequestId.of_json_to_json]

theorem mem_extra_iff (members : Members) (member : String × Json) :
    member ∈ extraMembers members ↔ member ∈ members ∧ member.1 ∉ ["jsonrpc", "method", "params", "id"] := by
  simp [extraMembers, isReserved, reservedMembers]

theorem accepted_iff_form (members : Members) (sorted : members.Sorted) (request : Request) :
    ofJson (.obj members) = .ok request ↔ Form members request := by
  constructor
  · intro accepted
    obtain ⟨_, envelope, params, ⟨⟩, valid⟩ := of_json_accepted (.obj members) request accepted
    have decoded := valid.decoded
    rw [envelope_read members sorted] at decoded
    obtain ⟨version, method⟩ := (read_envelope_iff _ _ envelope).mp decoded
    rw [valid.request]
    refine ⟨?_, method, valid.named, ?_, ?_, mem_extra_iff members, sorted.filter members _⟩
    · rw [version, valid.version]
      rfl
    · exact (normal_params_iff _ params).mp valid.normal
    · exact (read_id_iff _ request.id).mp valid.id
  · intro form
    have decoded : Envelope.decoder.decode (.obj members) = .ok { version := "2.0", method := request.method } := by
      rw [envelope_read members sorted]
      exact (read_envelope_iff _ _ _).mpr ⟨form.version, form.method⟩
    have normal := (normal_params_iff _ request.params).mpr form.params
    have read := (read_id_iff _ request.id).mpr form.id
    have extra : extraMembers members = request.extra := by
      refine Members.sorted_ext _ _ (sorted.filter members _) form.ordered fun member => ?_
      rw [mem_extra_iff, form.extra]
    simp [ofJson, decoded, Version.text, normal, form.named, read, extra, Except.map]

/-- A document is accepted as the request that it has the form of, which is when it breaks no rule. Otherwise it
is refused with the error of the first rule that it breaks: it is no object, the version or the method is no
text, one of them is missing, the version is another one, the parameters are neither list nor object, the method
has no name, or the identifier is none. -/
theorem judged_by_rules (document : Json) (canonical : document.Canonical) :
    (∀ request, ofJson document = .ok request ↔ ∃ members, document = .obj members ∧ Form members request) ∧
      ((∃ request, ofJson document = .ok request) ↔ ∀ rule ∈ rules, rule document = none) ∧
      ∀ error, ofJson document = .error error ↔ firstBroken rules document = some error := by
  have first := first_broken_refusal document canonical
  refine ⟨fun request => ?_, ?_, fun error => ?_⟩
  · cases document with
    | obj members => simpa using accepted_iff_form members canonical.1 request
    | _ => simp [ofJson]
  · rw [← List.findSome?_eq_none_iff (p := fun rule : Rule => rule document)]
    have none : firstBroken rules document = none ↔ ∃ request, ofJson document = .ok request := by
      rw [first]
      cases ofJson document <;> simp [refusal]
    exact none.symm
  · rw [first]
    cases ofJson document <;> simp [refusal]

theorem params_refused_before_method :
    let members : Members := [("auth", .bool true), ("id", .null), ("jsonrpc", .str "2.0"), ("method", .str "m"),
      ("params", .obj [])]
    (Json.obj members).Canonical ∧
      ofJson (.obj members) =
        .ok { method := "m", params := [.obj []], id := some .null, extra := [("auth", .bool true)] } ∧
      ∃ faulty,
        Json.parse "\x7b\"params\":null,\"method\":\"\",\"jsonrpc\":\"2.0\",\"id\":true\x7d" = .ok faulty ∧
        ofJson faulty = .error (.invalidParams "Parameters must be either an array or an object or omitted") := by
  have parsed : Json.parse "\x7b\"params\":null,\"method\":\"\",\"jsonrpc\":\"2.0\",\"id\":true\x7d" =
      .ok (.obj [("id", .bool true), ("jsonrpc", .str "2.0"), ("method", .str ""), ("params", .null)]) := by cbv
  intro members
  have canonical : (Json.obj members).Canonical :=
    ⟨by unfold Members.Sorted; decide, trivial, trivial, trivial, trivial, ⟨List.Pairwise.nil, trivial⟩, trivial⟩
  refine ⟨canonical, ?_, _, parsed, ?_⟩
  · have form : Form members
        { method := "m", params := [.obj []], id := some .null, extra := [("auth", .bool true)] } :=
      ⟨rfl, rfl, by decide, .inr (.inr ⟨[], rfl, rfl⟩), rfl, mem_extra_iff members, List.pairwise_singleton ..⟩
    exact ((judged_by_rules (.obj members) canonical).1 _).mpr ⟨members, rfl, form⟩
  · exact ((judged_by_rules _ (Json.parse_canonical _ _ parsed)).2.2 _).mpr rfl

end JsonRpc.Request
