import JsonRpc.Decode.Record

set_option autoImplicit false

namespace JsonRpc

namespace Members

def Lacks (members : Members) (name : String) : Prop := name ∉ members.map Prod.fst

def Only (members : Members) (name : String) (value : Json) : Prop :=
  members.lookup name = some value ∧ (members.map Prod.fst).count name = 1

@[simp] theorem lacks_nil (name : String) : Lacks [] name := by simp [Lacks]

@[simp] theorem only_nil (name : String) (value : Json) : ¬ Only [] name value := by simp [Only]

theorem lacks_cons (key name : String) (raw : Json) (rest : Members) :
    Lacks ((key, raw) :: rest) name ↔ key ≠ name ∧ Lacks rest name := by
  simp [Lacks, eq_comm]

theorem only_same (name : String) (raw value : Json) (rest : Members) :
    Only ((name, raw) :: rest) name value ↔ raw = value ∧ Lacks rest name := by
  simp [Only, Lacks, List.count_eq_zero]

theorem only_other (key name : String) (raw value : Json) (rest : Members) (differs : key ≠ name) :
    Only ((key, raw) :: rest) name value ↔ Only rest name value := by
  simp [Only, lookup_past, Ne.symm differs, differs]

def sources (members : Members) : List (Except Json.Fault String × Source) :=
  members.map fun (key, member) => (.ok key, .value member)

end Members

namespace Field

-- The value that a record takes for a member: the one that stands for it where it is missing, or what is
-- read from the only one.
def Reads (members : Members) (field : Field) (value : field.Carrier) : Prop :=
  (members.Lacks field.name ∧ field.absent = some value) ∨
    ∃ raw, members.Only field.name raw ∧ field.decoder.decode raw = .ok value

-- What reading an object makes of a member's slot: it stays as it was if there is no such member, and takes
-- the value of the only one if nothing was in it.
def Fills (members : Members) (field : Field) (before after : Option field.Carrier) : Prop :=
  (members.Lacks field.name ∧ after = before) ∨
    ∃ raw value, members.Only field.name raw ∧ field.decoder.decode raw = .ok value ∧ before = none ∧
      after = some value

theorem fills_nil (field : Field) (before after : Option field.Carrier) :
    field.Fills [] before after ↔ after = before := by
  simp [Fills]

theorem fills_other (field : Field) (key : String) (raw : Json) (members : Members)
    (before after : Option field.Carrier) (differs : key ≠ field.name) :
    field.Fills ((key, raw) :: members) before after ↔ field.Fills members before after := by
  simp [Fills, Members.lacks_cons, Members.only_other, differs]

theorem fills_same (field : Field) (raw : Json) (members : Members) (before after : Option field.Carrier) :
    field.Fills ((field.name, raw) :: members) before after ↔
      before = none ∧ ∃ value, field.decoder.decode raw = .ok value ∧ field.Fills members (some value) after := by
  simp only [Fills, Members.lacks_cons, Members.only_same]
  constructor
  · rintro (⟨⟨differs, _⟩, _⟩ | ⟨_, value, ⟨rfl, single⟩, read, empty, filled⟩)
    · exact absurd rfl differs
    · exact ⟨empty, value, read, .inl ⟨single, filled⟩⟩
  · rintro ⟨empty, value, read, ⟨single, filled⟩ | ⟨_, _, _, _, ⟨⟩, _⟩⟩
    exact .inr ⟨raw, value, ⟨rfl, single⟩, read, empty, filled⟩

theorem fills_none (field : Field) (members : Members) (value : field.Carrier) :
    (∃ after, field.Fills members none after ∧ after.or field.absent = some value) ↔
      field.Reads members value := by
  simp only [Fills, Reads]
  constructor
  · rintro ⟨after, ⟨missing, rfl⟩ | ⟨raw, read, only, decoded, _, rfl⟩, taken⟩
    · exact .inl ⟨missing, by simpa using taken⟩
    · have same : read = value := by simpa using taken
      exact .inr ⟨raw, only, same ▸ decoded⟩
  · rintro (⟨missing, absent⟩ | ⟨raw, only, decoded⟩)
    · exact ⟨none, .inl ⟨missing, rfl⟩, by simpa using absent⟩
    · exact ⟨some value, .inr ⟨raw, value, only, decoded, trivial, rfl⟩, rfl⟩

end Field

def Values.Read (members : Members) : (fields : List Field) → Values fields → Prop
  | [], _ => True
  | field :: fields, (value, values) => field.Reads members value ∧ Read members fields values

def Values.Listed : (fields : List Field) → List Json → Values fields → Prop
  | [], items, _ => items = []
  | field :: fields, [], (value, values) => field.short = some value ∧ Listed fields [] values
  | field :: fields, item :: items, (value, values) =>
      field.decoder.decode item = .ok value ∧ Listed fields items values

namespace Slots

def Filled (members : Members) : (fields : List Field) → Slots fields → Slots fields → Prop
  | [], _, _ => True
  | field :: fields, (before, slots), (after, filled) =>
      field.Fills members before after ∧ Filled members fields slots filled

theorem filled_nil (fields : List Field) (slots filled : Slots fields) :
    Filled [] fields slots filled ↔ slots = filled := by
  induction fields with
  | nil => exact ⟨fun _ => rfl, fun _ => trivial⟩
  | cons field fields ih =>
      obtain ⟨before, slots⟩ := slots
      obtain ⟨after, filled⟩ := filled
      simp only [Filled, Field.fills_nil, ih]
      constructor
      · rintro ⟨rfl, rfl⟩
        rfl
      · intro same
        cases same
        exact ⟨rfl, rfl⟩

theorem filled_unknown (key : String) (raw : Json) (members : Members) (fields : List Field)
    (unknown : key ∉ fields.map Field.name) (slots filled : Slots fields) :
    Filled ((key, raw) :: members) fields slots filled ↔ Filled members fields slots filled := by
  induction fields with
  | nil => exact Iff.rfl
  | cons field fields ih =>
      obtain ⟨differs, others⟩ := List.ne_and_not_mem_of_not_mem_cons unknown
      exact and_congr (field.fills_other key raw members _ _ differs) (ih others _ _)

theorem fill_none_iff (key : String) (source : Source) (fields : List Field) (slots : Slots fields) :
    fill key source fields slots = none ↔ key ∉ fields.map Field.name := by
  induction fields with
  | nil => simp [fill]
  | cons field fields ih =>
      obtain ⟨slot, slots⟩ := slots
      by_cases same : field.name = key
      · cases slot <;> simp [fill, same]
      · simp [fill, same, ih, Ne.symm same]

-- A member goes to its own slot, and the rest of the object then leaves that slot alone.
theorem filled_known (key : String) (raw : Json) (members : Members) (fields : List Field)
    (distinct : (fields.map Field.name).Nodup) (slots filled : Slots fields)
    (met : Except DecodeError (Slots fields)) (known : fill key (.value raw) fields slots = some met) :
    Filled ((key, raw) :: members) fields slots filled ↔
      ∃ next, met = .ok next ∧ Filled members fields next filled := by
  induction fields with
  | nil => simp [fill] at known
  | cons field fields ih =>
      obtain ⟨before, slots⟩ := slots
      obtain ⟨after, filled⟩ := filled
      obtain ⟨first, others⟩ := List.nodup_cons.mp distinct
      by_cases same : field.name = key
      · subst same
        rw [Filled, field.fills_same, filled_unknown field.name raw members fields first]
        cases before with
        | some value =>
            simp only [fill, if_true] at known
            cases known
            simp
        | none =>
            simp only [fill, if_true] at known
            cases known
            cases read : field.decoder (.value raw) with
            | error error => simp [Except.map, Decoder.decode, read]
            | ok value =>
                simp only [Except.map, Decoder.decode, read]
                constructor
                · rintro ⟨⟨_, _, ⟨⟩, fills⟩, rest⟩
                  exact ⟨(some value, slots), rfl, fills, rest⟩
                · rintro ⟨_, ⟨⟩, fills, rest⟩
                  exact ⟨⟨trivial, value, rfl, fills⟩, rest⟩
      · simp only [fill, same, if_false] at known
        obtain ⟨later, found, rfl⟩ := Option.map_eq_some_iff.mp known
        rw [Filled, field.fills_other key raw members _ _ (Ne.symm same), ih others slots filled later found]
        cases later with
        | error error => simp [Except.map]
        | ok next =>
            constructor
            · rintro ⟨fills, _, ⟨⟩, rest⟩
              exact ⟨(before, next), rfl, fills, rest⟩
            · rintro ⟨_, ⟨⟩, fills, rest⟩
              exact ⟨fills, next, rfl, rest⟩

theorem fill_all_unknown (fields : List Field) (isClosed : Bool) (key : String) (raw : Json) (rest : Members)
    (slots : Slots fields) (unknown : fill key (.value raw) fields slots = none) :
    fillAll fields isClosed (Members.sources ((key, raw) :: rest)) slots =
      if isClosed then .error (.unknownField key (fields.map Field.name))
      else fillAll fields isClosed (Members.sources rest) slots := by
  have read : Decoder.readKey (.ok key) = .ok key := rfl
  have skipped : (Source.value raw).skip = .ok () := rfl
  simp [Members.sources, fillAll, read, skipped, unknown, bind, Except.bind]

theorem fill_all_known (fields : List Field) (isClosed : Bool) (key : String) (raw : Json) (rest : Members)
    (slots : Slots fields) (met : Except DecodeError (Slots fields))
    (known : fill key (.value raw) fields slots = some met) :
    fillAll fields isClosed (Members.sources ((key, raw) :: rest)) slots =
      met >>= fillAll fields isClosed (Members.sources rest) := by
  have read : Decoder.readKey (.ok key) = .ok key := rfl
  simp [Members.sources, fillAll, read, known, bind, Except.bind]

theorem fill_all_iff (fields : List Field) (distinct : (fields.map Field.name).Nodup) (isClosed : Bool)
    (members : Members) (slots filled : Slots fields) :
    fillAll fields isClosed members.sources slots = .ok filled ↔
      (isClosed = true → ∀ member ∈ members, member.1 ∈ fields.map Field.name) ∧
        Filled members fields slots filled := by
  induction members generalizing slots with
  | nil => simp [fillAll, Members.sources, filled_nil]
  | cons member rest ih =>
      obtain ⟨key, raw⟩ := member
      rw [List.forall_mem_cons]
      cases found : fill key (.value raw) fields slots with
      | none =>
          have unknown := (fill_none_iff key (.value raw) fields slots).mp found
          rw [fill_all_unknown fields isClosed key raw rest slots found,
            filled_unknown key raw rest fields unknown]
          cases isClosed with
          | true => simp [unknown]
          | false => simpa using ih slots
      | some met =>
          have known : key ∈ fields.map Field.name := Decidable.byContradiction fun unknown => by
            rw [(fill_none_iff key (.value raw) fields slots).mpr unknown] at found
            contradiction
          rw [fill_all_known fields isClosed key raw rest slots met found,
            filled_known key raw rest fields distinct slots filled met found]
          cases met with
          | error error => simp [bind, Except.bind]
          | ok next => simpa [bind, Except.bind, known] using ih next

theorem values_read (fields : List Field) (members : Members) (values : Values fields) :
    (∃ slots, Filled members fields (empty fields) slots ∧ Slots.values fields slots = .ok values) ↔
      Values.Read members fields values := by
  induction fields with
  | nil => exact ⟨fun _ => trivial, fun _ => ⟨(), trivial, rfl⟩⟩
  | cons field fields ih =>
      obtain ⟨value, values⟩ := values
      simp only [Values.Read, ← ih, ← Field.fills_none]
      constructor
      · rintro ⟨⟨after, slots⟩, ⟨fills, filled⟩, taken⟩
        cases present : after.or field.absent with
        | none => simp [Slots.values, present] at taken
        | some first =>
            cases later : Slots.values fields slots with
            | error error => simp [Slots.values, present, later, Except.map] at taken
            | ok others =>
                simp only [Slots.values, present, later, Except.map] at taken
                cases taken
                exact ⟨⟨after, fills, present⟩, slots, filled, later⟩
      · rintro ⟨⟨after, fills, present⟩, slots, filled, later⟩
        refine ⟨(after, slots), ⟨fills, filled⟩, ?_⟩
        simp [Slots.values, present, later, Except.map]

end Slots

namespace Decoder

theorem read_members_iff (fields : List Field) (distinct : (fields.map Field.name).Nodup) (isClosed : Bool)
    (members : Members) (values : Values fields) :
    readMembers fields isClosed members.sources (.counted members.length) = .ok values ↔
      (isClosed = true → ∀ member ∈ members, member.1 ∈ fields.map Field.name) ∧
        Values.Read members fields values := by
  have filled := Slots.fill_all_iff fields distinct isClosed members (Slots.empty fields)
  have read : readMembers fields isClosed members.sources (.counted members.length) =
      Slots.fillAll fields isClosed members.sources (Slots.empty fields) >>= Slots.values fields := rfl
  rw [← Slots.values_read, read]
  constructor
  · intro taken
    cases met : Slots.fillAll fields isClosed members.sources (Slots.empty fields) with
    | error error => simp [met, bind, Except.bind] at taken
    | ok slots =>
        rw [met] at taken
        obtain ⟨known, fills⟩ := (filled slots).mp met
        exact ⟨known, slots, fills, taken⟩
  · rintro ⟨known, slots, fills, taken⟩
    rw [(filled slots).mpr ⟨known, fills⟩]
    exact taken

theorem first_taken (field : Field) (fields : List Field) (first value : field.Carrier) (values : Values fields)
    (later : Except DecodeError (Values fields × List Source)) :
    (do let (rest, left) ← later
        pure ((first, rest), left) : Except DecodeError (Values (field :: fields) × List Source)) =
        .ok ((value, values), []) ↔
      first = value ∧ later = .ok (values, []) := by
  cases later with
  | error error => simp [bind, Except.bind]
  | ok taken =>
      obtain ⟨others, left⟩ := taken
      constructor
      · intro same
        cases same
        exact ⟨rfl, rfl⟩
      · rintro ⟨rfl, same⟩
        cases same
        rfl

theorem read_fields_iff (expected : String) (read length : Nat) (fields : List Field) (items : List Json)
    (values : Values fields) :
    readFields expected read (.counted length) fields (items.map .value) = .ok (values, []) ↔
      Values.Listed fields items values := by
  induction fields generalizing items read with
  | nil =>
      cases items with
      | nil => exact ⟨fun _ => rfl, fun _ => rfl⟩
      | cons item items =>
          refine ⟨fun taken => ?_, fun none => absurd none (List.cons_ne_nil item items)⟩
          cases taken
  | cons field fields ih =>
      obtain ⟨value, values⟩ := values
      cases items with
      | nil =>
          simp only [Values.Listed, ← ih (read + 1) [], List.map_nil, readFields, Closing.noMore]
          cases field.short with
          | none => simp [bind, Except.bind]
          | some first =>
              rw [Option.some.injEq]
              exact first_taken field fields first value values _
      | cons item items =>
          simp only [Values.Listed, ← ih (read + 1) items, List.map_cons, readFields, decode]
          cases field.decoder (.value item) with
          | error error => simp [bind, Except.bind]
          | ok first =>
              rw [Except.ok.injEq]
              exact first_taken field fields first value values _

theorem read_list_iff (expected : String) (fields : List Field) (items : List Json) (values : Values fields) :
    readList expected fields (items.map .value) (.counted items.length) = .ok values ↔
      Values.Listed fields items values := by
  rw [← read_fields_iff expected 0 items.length]
  simp only [readList]
  cases readFields expected 0 (.counted items.length) fields (items.map .value) with
  | error error => simp [bind, Except.bind]
  | ok taken =>
      obtain ⟨others, left⟩ := taken
      cases left <;> simp [bind, Except.bind, Closing.noSurplus, pure, Except.pure]

/-- A record is read from a list of its values or from an object of its members. -/
theorem record_iff (title : String) (fields : List Field) (distinct : (fields.map Field.name).Nodup)
    (isClosed : Bool) (document : Json) (values : Values fields) :
    (record title fields isClosed).decode document = .ok values ↔
      (∃ items, document = .arr items ∧ Values.Listed fields items values) ∨
        ∃ members, document = .obj members ∧
          (isClosed = true → ∀ member ∈ members, member.1 ∈ fields.map Field.name) ∧
          Values.Read members fields values := by
  cases document with
  | arr items =>
      simp only [Json.arr.injEq, exists_eq_left', reduceCtorEq, false_and, exists_false, or_false]
      exact read_list_iff _ fields items values
  | obj members =>
      simp only [Json.obj.injEq, exists_eq_left', reduceCtorEq, false_and, exists_false, false_or]
      exact read_members_iff fields distinct isClosed members values
  | _ => simp [decode, record, Source.view, mismatch]

end Decoder

end JsonRpc
