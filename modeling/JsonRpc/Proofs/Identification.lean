import JsonRpc.Proofs.Decoding
import JsonRpc.Proofs.Records
import JsonRpc.Proofs.Validation

set_option autoImplicit false

namespace JsonRpc

namespace Members

theorem insert_places (key : String) (value : Json) (members : Members) :
    ∃ before after : Members, ∃ old : Option Json,
      members = before ++ (old.toList.map fun raw => (key, raw)) ++ after ∧
        insert key value members = before ++ (key, value) :: after ∧ Lacks before key := by
  induction members with
  | nil => exact ⟨[], [], none, rfl, rfl, lacks_nil key⟩
  | cons member rest ih =>
      obtain ⟨first, raw⟩ := member
      by_cases earlier : key < first
      · exact ⟨[], (first, raw) :: rest, none, rfl, by simp [insert, earlier], lacks_nil key⟩
      · by_cases same : key = first
        · subst same
          exact ⟨[], rest, some raw, rfl, by simp [insert], lacks_nil key⟩
        · obtain ⟨before, after, old, split, inserted, lacks⟩ := ih
          refine ⟨(first, raw) :: before, after, old, by simp [split], ?_, ?_⟩
          · simp [insert, earlier, same, inserted]
          · exact (lacks_cons first key raw before).mpr ⟨Ne.symm same, lacks⟩

theorem lookup_lacks (members : Members) (name : String) (lacks : members.Lacks name) : members.lookup name = none := by
  refine List.lookup_eq_none_iff.mpr fun member within => ?_
  have differs : name ≠ member.1 := fun same => lacks (List.mem_map.mpr ⟨member, within, same.symm⟩)
  simpa using differs

theorem lookup_inserted (key : String) (value : Json) (members : Members) :
    (insert key value members).lookup key = some value := by
  obtain ⟨before, after, _, _, inserted, lacks⟩ := insert_places key value members
  simp [inserted, List.lookup_append, lookup_lacks before key lacks]

theorem lookup_insert_other (key name : String) (value : Json) (members : Members) (differs : name ≠ key) :
    (insert key value members).lookup name = members.lookup name := by
  obtain ⟨before, after, old, split, inserted, _⟩ := insert_places key value members
  rw [inserted, split]
  cases old <;> simp [List.lookup_append, lookup_past, differs]

theorem names_insert_other (key name : String) (value : Json) (members : Members) (differs : name ≠ key) :
    ((insert key value members).map Prod.fst).count name = (members.map Prod.fst).count name := by
  obtain ⟨before, after, old, split, inserted, _⟩ := insert_places key value members
  rw [inserted, split]
  cases old <;> simp [Ne.symm differs]

theorem filter_insert (keep : String → Bool) (key : String) (value : Json) (members : Members)
    (dropped : keep key = false) :
    (insert key value members).filter (fun member => keep member.1) = members.filter fun member => keep member.1 := by
  obtain ⟨before, after, old, split, inserted, _⟩ := insert_places key value members
  rw [inserted, split]
  cases old <;> simp [dropped]

theorem only_insert_other (key name : String) (value raw : Json) (members : Members) (differs : name ≠ key) :
    Only (insert key value members) name raw ↔ Only members name raw := by
  rw [Only, Only, lookup_insert_other key name value members differs, names_insert_other key name value members differs]

theorem lacks_insert_other (key name : String) (value : Json) (members : Members) (differs : name ≠ key) :
    Lacks (insert key value members) name ↔ Lacks members name := by
  rw [Lacks, Lacks, ← List.count_eq_zero, ← List.count_eq_zero, names_insert_other key name value members differs]

end Members

theorem Values.read_insert (key : String) (value : Json) (members : Members) (fields : List Field)
    (values : Values fields) (unknown : key ∉ fields.map Field.name) :
    Read (members.insert key value) fields values ↔ Read members fields values := by
  induction fields with
  | nil => exact Iff.rfl
  | cons field fields ih =>
      obtain ⟨first, others⟩ := List.ne_and_not_mem_of_not_mem_cons unknown
      have reads : field.Reads (members.insert key value) values.1 ↔ field.Reads members values.1 := by
        simp only [Field.Reads, Members.lacks_insert_other key field.name value members (Ne.symm first),
          Members.only_insert_other key field.name value _ members (Ne.symm first)]
      exact and_congr reads (ih values.2 others)

namespace Request

theorem envelope_insert (key : String) (value : Json) (members : Members) (envelope : Envelope)
    (unknown : key ∉ envelopeFields.map Field.name)
    (decoded : Envelope.decoder.decode (.obj members) = .ok envelope) :
    Envelope.decoder.decode (.obj (members.insert key value)) = .ok envelope := by
  have distinct : (envelopeFields.map Field.name).Nodup := by decide
  rw [Envelope.decoder, Decoder.map_iff] at decoded ⊢
  obtain ⟨values, read, rfl⟩ := decoded
  refine ⟨values, ?_, rfl⟩
  rw [Decoder.record_iff _ _ distinct] at read ⊢
  obtain ⟨_, ⟨⟩, _⟩ | ⟨_, ⟨⟩, _, reads⟩ := read
  exact .inr ⟨_, rfl, by simp, (Values.read_insert key value members _ values unknown).mpr reads⟩

theorem of_json_identified (members : Members) (request : Request) (accepted : ofJson (.obj members) = .ok request)
    (id : RequestId) : ofJson (.obj (members.insert "id" id.toJson)) = .ok { request with id := some id } := by
  obtain ⟨_, envelope, params, ⟨⟩, valid⟩ := of_json_accepted (.obj members) request accepted
  have decoded := envelope_insert "id" id.toJson members envelope (by decide) valid.decoded
  have normal : normalParams? ((members.insert "id" id.toJson).lookup "params") = some params := by
    rw [Members.lookup_insert_other "id" "params" id.toJson members (by decide)]
    exact valid.normal
  have read : readId ((members.insert "id" id.toJson).lookup "id") = .ok (some id) := by
    simp [Members.lookup_inserted, readId, RequestId.of_json_to_json]
  have extra : extraMembers (members.insert "id" id.toJson) = extraMembers members :=
    Members.filter_insert (fun name => !isReserved name) "id" id.toJson members (by decide)
  rw [valid.request]
  simp [ofJson, decoded, valid.version, normal, valid.named, read, extra, Except.map]

end Request

end JsonRpc
