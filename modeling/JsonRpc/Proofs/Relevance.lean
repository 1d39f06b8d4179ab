import JsonRpc.Proofs.Records
import JsonRpc.Proofs.Validation

set_option autoImplicit false

namespace JsonRpc

theorem Members.lookup_filter (keep : String → Bool) (members : Members) (name : String) :
    (members.filter fun member => keep member.1).lookup name = if keep name then members.lookup name else none := by
  induction members with
  | nil => simp
  | cons member rest ih =>
      obtain ⟨key, raw⟩ := member
      by_cases same : name = key
      · subst same
        cases kept : keep name <;> simp [kept, ih]
      · cases kept : keep key <;> simp [kept, ih, lookup_past, same]

theorem Members.lookup_kept (keep : String → Bool) (members others : Members)
    (same : members.filter (fun member => keep member.1) = others.filter fun member => keep member.1) (name : String)
    (kept : keep name = true) : members.lookup name = others.lookup name := by
  have left := lookup_filter keep members name
  have right := lookup_filter keep others name
  rw [same, right, if_pos kept, if_pos kept] at left
  exact left.symm

theorem Slots.fill_all_filter (fields : List Field) (keep : String → Bool)
    (known : ∀ name ∈ fields.map Field.name, keep name = true) (members : Members) (slots : Slots fields) :
    fillAll fields false (Members.sources (members.filter fun member => keep member.1)) slots =
      fillAll fields false members.sources slots := by
  induction members generalizing slots with
  | nil => rfl
  | cons member rest ih =>
      obtain ⟨key, raw⟩ := member
      cases found : fill key (.value raw) fields slots with
      | none =>
          have stepped := fill_all_unknown fields false key raw rest slots found
          cases kept : keep key with
          | false => simpa [kept, stepped] using ih slots
          | true =>
              have still := fill_all_unknown fields false key raw (rest.filter fun member => keep member.1) slots found
              simpa [kept, stepped, still] using ih slots
      | some met =>
          have named : key ∈ fields.map Field.name := Decidable.byContradiction fun unknown => by
            rw [(fill_none_iff key (.value raw) fields slots).mpr unknown] at found
            contradiction
          have kept := known key named
          have taken := fill_all_known fields false key raw rest slots met found
          have still := fill_all_known fields false key raw (rest.filter fun member => keep member.1) slots met found
          simp only [List.filter_cons, kept, if_true, taken, still]
          cases met with
          | error error => rfl
          | ok next => exact ih next

theorem Decoder.record_filter (title : String) (fields : List Field) (keep : String → Bool)
    (known : ∀ name ∈ fields.map Field.name, keep name = true) (members : Members) :
    (record title fields false).decode (.obj (members.filter fun member => keep member.1)) =
      (record title fields false).decode (.obj members) := by
  have read (members : Members) : (record title fields false).decode (.obj members) =
      Slots.fillAll fields false members.sources (Slots.empty fields) >>= Slots.values fields := rfl
  rw [read, read, Slots.fill_all_filter fields keep known members]

namespace Request

theorem lookup_extra (members : Members) (name : String) :
    (extraMembers members).lookup name = if isReserved name then none else members.lookup name := by
  have kept := Members.lookup_filter (fun name => !isReserved name) members name
  cases reserved : isReserved name <;> simpa [extraMembers, reserved] using kept

theorem envelope_kept (keep : String → Bool) (version : keep "jsonrpc" = true) (method : keep "method" = true)
    (members others : Members)
    (same : members.filter (fun member => keep member.1) = others.filter fun member => keep member.1) :
    Envelope.decoder.decode (.obj members) = Envelope.decoder.decode (.obj others) := by
  have known : ∀ name ∈ envelopeFields.map Field.name, keep name = true := by
    simp [envelopeFields, version, method]
  have left := Decoder.record_filter "struct Envelope" envelopeFields keep known members
  have right := Decoder.record_filter "struct Envelope" envelopeFields keep known others
  rw [same, right] at left
  exact congrArg (Except.map _) left.symm

theorem of_json_members (members others : Members)
    (envelope : Envelope.decoder.decode (.obj members) = Envelope.decoder.decode (.obj others))
    (params : normalParams? (members.lookup "params") = normalParams? (others.lookup "params"))
    (id : members.lookup "id" = others.lookup "id") :
    ofJson (.obj members) =
      (ofJson (.obj others)).map fun request => { request with extra := extraMembers members } := by
  simp only [ofJson, envelope, params, id]
  cases Envelope.decoder.decode (.obj others) with
  | error error => rfl
  | ok read =>
      by_cases version : read.version = Version.v2.text
      · cases normalParams? (others.lookup "params") with
        | none => simp [version, Except.map]
        | some normal =>
            by_cases named : read.method = ""
            · simp [version, named, Except.map]
            · cases readId (others.lookup "id") <;> simp [version, named, Except.map]
      · simp [version, Except.map]

end Request

end JsonRpc
