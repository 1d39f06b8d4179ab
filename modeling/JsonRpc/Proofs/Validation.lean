import JsonRpc.Request

set_option autoImplicit false

namespace JsonRpc

theorem RequestId.to_json_of_json (raw : Json) (id : RequestId) (read : ofJson? raw = some id) : id.toJson = raw := by
  cases raw with
  | null | str value | num value =>
      cases read
      rfl
  | _ => simp [ofJson?] at read

namespace Request

structure Accepted (members : Members) (envelope : Envelope) (params : List Json) (request : Request) : Prop where
  decoded : Envelope.decoder.decode (.obj members) = .ok envelope
  version : envelope.version = Version.v2.text
  normal : normalParams? (members.lookup "params") = some params
  named : envelope.method ≠ ""
  id : readId (members.lookup "id") = .ok request.id
  request : request = { method := envelope.method, params, id := request.id, extra := extraMembers members }

theorem of_json_accepted (document : Json) (request : Request) (accepted : ofJson document = .ok request) :
    ∃ members envelope params, document = .obj members ∧ Accepted members envelope params request := by
  cases document with
  | obj members =>
      simp only [ofJson] at accepted
      split at accepted
      · contradiction
      rename_i envelope decoded
      split at accepted
      · contradiction
      rename_i version
      split at accepted
      · contradiction
      rename_i params normal
      split at accepted
      · contradiction
      rename_i named
      cases read : readId (members.lookup "id") with
      | error error => simp [read, Except.map] at accepted
      | ok id =>
          simp only [read, Except.map, Except.ok.injEq] at accepted
          subst accepted
          exact ⟨members, envelope, params, rfl, decoded, by simpa using version, normal, named, read, rfl⟩
  | _ => simp [ofJson] at accepted

theorem of_json_refused (document : Json) (error : RpcError) (refused : ofJson document = .error error) :
    (∃ message, error = .invalidRequest message) ∨ ∃ message, error = .invalidParams message := by
  cases document with
  | obj members =>
      simp only [ofJson] at refused
      split at refused
      · cases refused
        exact .inl ⟨_, rfl⟩
      split at refused
      · cases refused
        exact .inl ⟨_, rfl⟩
      split at refused
      · cases refused
        exact .inr ⟨_, rfl⟩
      split at refused
      · cases refused
        exact .inl ⟨_, rfl⟩
      cases present : members.lookup "id" with
      | none => simp [present, readId, Except.map] at refused
      | some raw =>
          cases read : RequestId.ofJson? raw <;> simp [present, read, readId, Except.map] at refused
          exact .inl ⟨_, refused.symm⟩
  | _ =>
      cases refused
      exact .inl ⟨_, rfl⟩

theorem accepted_method (document : Json) (request : Request) (accepted : ofJson document = .ok request) :
    request.method ≠ "" := by
  obtain ⟨members, envelope, params, _, valid⟩ := of_json_accepted document request accepted
  rw [valid.request]
  exact valid.named

theorem accepted_id (document : Json) (request : Request) (accepted : ofJson document = .ok request) :
    document.get? "id" = request.id.map RequestId.toJson := by
  obtain ⟨members, envelope, params, rfl, valid⟩ := of_json_accepted document request accepted
  have read := valid.id
  simp only [Json.get?]
  cases present : members.lookup "id" with
  | none =>
      have absent : none = request.id := by simpa [present, readId] using read
      simp [← absent]
  | some raw =>
      cases known : RequestId.ofJson? raw with
      | none => simp [present, readId, known] at read
      | some id =>
          have same : some id = request.id := by simpa [present, readId, known] using read
          simp [← same, RequestId.to_json_of_json raw id known]

theorem no_object_refused (raw : Json) (noObject : raw.isObject = false) :
    ofJson raw = .error (.invalidRequest notRequest) := by
  cases raw with
  | obj members => simp [Json.isObject] at noObject
  | _ => rfl

end Request

end JsonRpc
