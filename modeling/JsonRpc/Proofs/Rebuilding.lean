import JsonRpc.Proofs.Identification
import JsonRpc.Proofs.RequestForm

set_option autoImplicit false

namespace JsonRpc

namespace Members

theorem lookup_ext (members others : Members) (sorted : members.Sorted) (otherSorted : others.Sorted)
    (same : ∀ name, members.lookup name = others.lookup name) : members = others := by
  refine sorted_ext members others sorted otherSorted fun ⟨name, value⟩ => ?_
  rw [mem_iff_lookup members sorted, mem_iff_lookup others otherSorted, same]

theorem lookup_of_list (members : List (String × Json)) (distinct : (members.map Prod.fst).Nodup) (name : String) :
    (ofList members).lookup name = members.lookup name := by
  have folded (done : Members) :
      (members.foldl (fun done member => insert member.1 member.2 done) done).lookup name =
        (members.lookup name).or (done.lookup name) := by
    induction members generalizing done with
    | nil => rfl
    | cons member rest ih =>
        obtain ⟨key, value⟩ := member
        obtain ⟨fresh, others⟩ := List.nodup_cons.mp distinct
        rw [List.foldl_cons, ih others]
        by_cases same : name = key
        · subst same
          simp [lookup_lacks rest name fresh, lookup_inserted]
        · rw [lookup_past name key value rest same, lookup_insert_other key name value done same]
  simpa [ofList] using folded []

end Members

namespace Request

def members (request : Request) : List (String × Json) :=
  [("jsonrpc", .str Version.v2.text), ("method", .str request.method), ("params", .arr request.params)] ++
    (request.id.map fun id => ("id", id.toJson)).toList ++ request.extra

def toJson (request : Request) : Json := Json.object request.members

theorem members_distinct (members : Members) (request : Request) (form : Form members request) :
    (request.members.map Prod.fst).Nodup := by
  have extra : (request.extra.map Prod.fst).Nodup := List.pairwise_map.mpr (form.ordered.imp fun less => less.ne)
  have unreserved : ∀ name ∈ request.extra.map Prod.fst, name ∉ ["jsonrpc", "method", "params", "id"] := by
    intro name listed
    obtain ⟨member, within, rfl⟩ := List.mem_map.mp listed
    exact ((form.extra member).mp within).2
  rw [Request.members, List.map_append, List.nodup_append']
  refine ⟨?_, extra, fun name reserved listed => unreserved name listed ?_⟩
  · cases request.id <;> simp
  · cases identified : request.id <;> simp [identified] at reserved ⊢ <;> grind

theorem extra_accepted (members : Members) (request : Request) (accepted : ofJson (.obj members) = .ok request) :
    request.extra = extraMembers members := by
  obtain ⟨_, _, _, ⟨⟩, valid⟩ := of_json_accepted (.obj members) request accepted
  rw [valid.request]

theorem lookup_members (members : Members) (request : Request) (form : Form members request)
    (extra : request.extra = extraMembers members) (name : String) :
    request.members.lookup name = (members.insert "params" (.arr request.params)).lookup name := by
  by_cases params : name = "params"
  · subst params
    rw [Members.lookup_inserted]
    rfl
  rw [Members.lookup_insert_other "params" name _ members params]
  by_cases version : name = "jsonrpc"
  · subst version
    rw [form.version]
    rfl
  by_cases method : name = "method"
  · subst method
    rw [form.method]
    rfl
  have own : request.members.lookup name =
      ((request.id.map fun id => ("id", id.toJson)).toList ++ request.extra).lookup name := by
    simp [Request.members, lookup_past, version, method, params]
  rw [own, extra, List.lookup_append, lookup_extra]
  by_cases id : name = "id"
  · subst id
    have reserved : isReserved "id" = true := by decide
    rw [form.id]
    cases request.id <;> simp [reserved]
  · have unreserved : isReserved name = false := by simp [isReserved, reservedMembers, version, method, params, id]
    cases request.id <;> simp [unreserved, lookup_past, id]

theorem to_json_accepted (members : Members) (sorted : members.Sorted) (request : Request)
    (accepted : ofJson (.obj members) = .ok request) :
    request.toJson = .obj (members.insert "params" (.arr request.params)) := by
  have form := (accepted_iff_form members sorted request).mp accepted
  have extra := extra_accepted members request accepted
  refine congrArg Json.obj (Members.lookup_ext _ _ (Members.of_list_sorted _)
    (Members.insert_sorted "params" _ members sorted) fun name => ?_)
  rw [Members.lookup_of_list _ (members_distinct members request form), lookup_members members request form extra]

theorem of_json_to_json (members : Members) (sorted : members.Sorted) (request : Request)
    (accepted : ofJson (.obj members) = .ok request) : ofJson request.toJson = .ok request := by
  have form := (accepted_iff_form members sorted request).mp accepted
  have kept : (members.insert "params" (.arr request.params)).filter (fun member => member.1 != "params") =
      members.filter fun member => member.1 != "params" :=
    Members.filter_insert (fun name => name != "params") "params" _ members rfl
  have envelope := envelope_kept (fun name => name != "params") rfl rfl _ members kept
  have params : normalParams? ((members.insert "params" (.arr request.params)).lookup "params") =
      normalParams? (members.lookup "params") := by
    rw [Members.lookup_inserted, (normal_params_iff _ request.params).mpr form.params]
    rfl
  have id := Members.lookup_insert_other "params" "id" (.arr request.params) members (by decide)
  have extra : extraMembers (members.insert "params" (.arr request.params)) = request.extra := by
    rw [extra_accepted members request accepted]
    exact Members.filter_insert (fun name => !isReserved name) "params" _ members (by decide)
  rw [to_json_accepted members sorted request accepted, of_json_members _ members envelope params id, accepted, extra]
  rfl

theorem to_json_listed (members : Members) (sorted : members.Sorted) (request : Request)
    (accepted : ofJson (.obj members) = .ok request) (listed : members.lookup "params" = some (.arr request.params)) :
    request.toJson = .obj members := by
  rw [to_json_accepted members sorted request accepted]
  refine congrArg Json.obj (Members.lookup_ext _ _ (Members.insert_sorted _ _ members sorted) sorted fun name => ?_)
  by_cases params : name = "params"
  · subst params
    rw [Members.lookup_inserted, listed]
  · exact Members.lookup_insert_other "params" name _ members params

theorem same_request_iff (members others : Members) (sorted : members.Sorted) (otherSorted : others.Sorted)
    (request other : Request) (accepted : ofJson (.obj members) = .ok request)
    (otherAccepted : ofJson (.obj others) = .ok other) :
    request = other ↔
      (∀ name, name ≠ "params" → members.lookup name = others.lookup name) ∧ request.params = other.params := by
  have written := to_json_accepted members sorted request accepted
  have otherWritten := to_json_accepted others otherSorted other otherAccepted
  constructor
  · rintro rfl
    have same := Json.obj.inj (written.symm.trans otherWritten)
    refine ⟨fun name noParams => ?_, rfl⟩
    have found := congrArg (List.lookup name) same
    rwa [Members.lookup_insert_other _ _ _ _ noParams, Members.lookup_insert_other _ _ _ _ noParams] at found
  · rintro ⟨same, params⟩
    have equal : members.insert "params" (.arr request.params) = others.insert "params" (.arr other.params) := by
      refine Members.lookup_ext _ _ (Members.insert_sorted _ _ members sorted)
        (Members.insert_sorted _ _ others otherSorted) fun name => ?_
      by_cases named : name = "params"
      · subst named
        rw [Members.lookup_inserted, Members.lookup_inserted, params]
      · rw [Members.lookup_insert_other _ _ _ _ named, Members.lookup_insert_other _ _ _ _ named, same name named]
    have read := of_json_to_json members sorted request accepted
    rw [written, equal, ← otherWritten, of_json_to_json others otherSorted other otherAccepted] at read
    exact (Except.ok.inj read).symm

/-- An object that is accepted is written again with its parameters as a list and with every other member as it
was, and what is written is read as the same request. Two objects are read as one request just if they are
written alike: every member but the parameters is the same in both, and the parameters come to the same list. -/
theorem only_params_form_lost (members : Members) (sorted : members.Sorted) (request : Request)
    (accepted : ofJson (.obj members) = .ok request) :
    (request.members.map Prod.fst).Nodup ∧
      request.toJson = .obj (members.insert "params" (.arr request.params)) ∧
      ((members.lookup "params" = none ∧ request.params = []) ∨
        (members.lookup "params" = some (.arr request.params) ∧ request.toJson = .obj members) ∨
        ∃ named, members.lookup "params" = some (.obj named) ∧ request.params = [.obj named]) ∧
      ofJson request.toJson = .ok request ∧
      ∀ others other, Members.Sorted others → ofJson (.obj others) = .ok other →
        (request = other ↔ request.toJson = other.toJson) ∧
          (request = other ↔
            (∀ name, name ≠ "params" → members.lookup name = others.lookup name) ∧ request.params = other.params) := by
  have form := (accepted_iff_form members sorted request).mp accepted
  have again := of_json_to_json members sorted request accepted
  refine ⟨members_distinct members request form, to_json_accepted members sorted request accepted, ?_, again, ?_⟩
  · rcases form.params with omitted | listed | named
    · exact .inl omitted
    · exact .inr (.inl ⟨listed, to_json_listed members sorted request accepted listed⟩)
    · exact .inr (.inr named)
  · intro others other otherSorted otherAccepted
    have otherAgain := of_json_to_json others otherSorted other otherAccepted
    refine ⟨⟨congrArg toJson, fun same => ?_⟩,
      same_request_iff members others sorted otherSorted request other accepted otherAccepted⟩
    rw [same, otherAgain] at again
    exact (Except.ok.inj again).symm

theorem null_id_not_lost :
    let identified : Members := [("auth", .bool true), ("id", .null), ("jsonrpc", .str "2.0"), ("method", .str "m"),
      ("params", .obj [("x", .null)])]
    let notified : Members := [("auth", .bool true), ("jsonrpc", .str "2.0"), ("method", .str "m"),
      ("params", .arr [.obj [("x", .null)]])]
    let request : Request :=
      { method := "m", params := [.obj [("x", .null)]], id := some .null, extra := [("auth", .bool true)] }
    identified.Sorted ∧ notified.Sorted ∧ ofJson (.obj identified) = .ok request ∧
      ofJson (.obj notified) = .ok { request with id := none } ∧
      request.toJson = .obj [("auth", .bool true), ("id", .null), ("jsonrpc", .str "2.0"), ("method", .str "m"),
        ("params", .arr [.obj [("x", .null)]])] ∧
      ofJson request.toJson = .ok request ∧ request ≠ { request with id := none } := by
  intro identified notified request
  have sorted : identified.Sorted := by unfold Members.Sorted; decide
  have otherSorted : notified.Sorted := by unfold Members.Sorted; decide
  obtain ⟨_, written, _, again, others⟩ := only_params_form_lost identified sorted request rfl
  obtain ⟨_, same⟩ := others notified { request with id := none } otherSorted rfl
  refine ⟨sorted, otherSorted, rfl, rfl, written, again, fun equal => ?_⟩
  have id := (same.mp equal).1 "id" (by decide)
  cases id

end Request

end JsonRpc
