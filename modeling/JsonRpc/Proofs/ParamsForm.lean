import JsonRpc.Proofs.Functional
import JsonRpc.Proofs.Relevance
import JsonRpc.Proofs.Resemblance

set_option autoImplicit false

namespace JsonRpc

variable {C M H : Type} (depth : Nat)

inductive SameParams : Option Json → Option Json → Prop
  | same (params : Option Json) : SameParams params params
  | listed (named : Members) : SameParams (some (.obj named)) (some (.arr [.obj named]))
  | unlisted (named : Members) : SameParams (some (.arr [.obj named])) (some (.obj named))
  | given : SameParams none (some (.arr []))
  | omitted : SameParams (some (.arr [])) none

structure Members.Rewritten (members others : Members) : Prop where
  params : SameParams (members.lookup "params") (others.lookup "params")
  rest : members.filter (fun member => member.1 != "params") = others.filter fun member => member.1 != "params"

namespace Request

theorem normal_params_same (params others : Option Json) (same : SameParams params others) :
    normalParams? params = normalParams? others := by
  cases same <;> rfl

theorem extra_without_params (members : Members) :
    extraMembers (members.filter fun member => member.1 != "params") = extraMembers members := by
  simp only [extraMembers, List.filter_filter]
  refine List.filter_congr fun member _ => ?_
  by_cases params : member.1 = "params"
  · have reserved : isReserved "params" = true := by decide
    simp [params, reserved]
  · simp [params]

theorem id_rewritten (members others : Members) (rewritten : members.Rewritten others) :
    members.lookup "id" = others.lookup "id" :=
  Members.lookup_kept (fun name => name != "params") members others rewritten.rest "id" rfl

theorem of_json_rewritten (members others : Members) (rewritten : members.Rewritten others) :
    ofJson (.obj members) = ofJson (.obj others) := by
  have envelope := envelope_kept (fun name => name != "params") rfl rfl members others rewritten.rest
  have extra : extraMembers members = extraMembers others := by
    rw [← extra_without_params members, rewritten.rest, extra_without_params others]
  have params := normal_params_same _ _ rewritten.params
  rw [of_json_members members others envelope params (id_rewritten members others rewritten), extra]
  exact (of_json_members others others rfl rfl rfl).symm

end Request

theorem Candidate.rewritten_counterparts (first second : Candidate) (varies : first.Varies Members.Rewritten second)
    (registry : Registry C M) (data : C) : Counterparts Eq registry data data first second := by
  have same : first.request = second.request ∧ first.returnId = second.returnId ∧
      ∀ error, first.complaint error = second.complaint error := by
    cases varies with
    | same candidate => exact ⟨rfl, rfl, fun _ => rfl⟩
    | object members others rewritten =>
        have id := Request.id_rewritten members others rewritten
        refine ⟨Request.of_json_rewritten members others rewritten, ?_, fun _ => rfl⟩
        simp only [returnId, Request.tentativeId, Json.get?, id]
  obtain ⟨requests, returnId, complaint⟩ := same
  cases validated : first.request with
  | error error => exact .refused error validated (requests ▸ validated) returnId (complaint error)
  | ok request =>
      exact .accepted request request validated (requests ▸ validated) rfl rfl rfl fun _ _ => ⟨rfl, rfl⟩

namespace Dispatcher

/-- Documents that write parameters in different ways get the same answer. The same bodies run, and observers
are told the same but for the documents themselves. -/
theorem params_form_immaterial (data : C) (document other : Json) (same : document.VariesIn Members.Rewritten other)
    (dispatcher : Dispatcher C M H) :
    let step := process depth document data dispatcher
    let counterpart := process depth other data dispatcher
    step.value = counterpart.value ∧ step.dispatcher = counterpart.dispatcher ∧
      Trace.bodies step.trace = Trace.bodies counterpart.trace ∧
      List.Forall₂ (fun told heard => told.1 = heard.1 ∧ told.2.Resembles Eq heard.2) (Trace.hookCalls step.trace)
        (Trace.hookCalls counterpart.trace) ∧
      Trace.Resembles Eq step.trace counterpart.trace := by
  intro step counterpart
  obtain ⟨value, reached, trace⟩ := process_resembles (callback depth) Eq data data Members.Rewritten rfl
    document other same dispatcher
    fun turn _ second varies => turn.item.rewritten_counterparts second varies turn.start.registry data
  exact ⟨value, reached, Trace.resembles_bodies Eq _ _ trace, Trace.resembles_calls Eq (fun _ => rfl) _ _ trace, trace⟩

theorem named_params_echoed :
    let call (id : String) (params : Members) : Json :=
      .obj ([("id", .str id), ("jsonrpc", .str "2.0"), ("method", .str "echo")] ++ params)
    let named : Json := .obj [("x", .bool true)]
    let entries := [call "a" [("params", named)], call "b" [], .null]
    let others := [call "a" [("params", .arr [named])], call "b" [("params", .arr [])], .null]
    (Json.arr entries).VariesIn Members.Rewritten (.arr others) ∧
      (process 1 (.arr others) () echoing).value = .batch [.success (.string "a") (.arr [named]),
        .success (.string "b") (.arr []), .failure .null (.invalidRequest "Not a JSON-RPC 2.0 request")] ∧
      (process 1 (.arr entries) () echoing).value = (process 1 (.arr others) () echoing).value := by
  intro call named entries others
  have first : (call "a" [("params", named)]).Varies Members.Rewritten (call "a" [("params", .arr [named])]) :=
    .object _ _ ⟨.listed _, rfl⟩
  have second : (call "b" []).Varies Members.Rewritten (call "b" [("params", .arr [])]) := .object _ _ ⟨.given, rfl⟩
  have varies : (Json.arr entries).VariesIn Members.Rewritten (.arr others) :=
    .batch _ _ (.cons first (.cons second (.cons (.same .null) .nil)))
  obtain ⟨value, _⟩ := params_form_immaterial 1 () (.arr entries) (.arr others) varies echoing
  exact ⟨varies, rfl, value⟩

end Dispatcher

end JsonRpc
