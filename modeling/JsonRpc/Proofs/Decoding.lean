import JsonRpc.Decode.Decoder

set_option autoImplicit false

namespace JsonRpc

def Json.unlessNull : Json → Option Json
  | .null => none
  | data => some data

def Json.found : Json → Found
  | .null => .scalar .null
  | .bool value => .scalar (.bool value)
  | .num value => .scalar (.num value)
  | .str value => .scalar (.str value)
  | .arr _ => .list
  | .obj _ => .object

namespace Decoder

theorem map_iff {α β : Type} (change : α → β) (decoder : Decoder α) (document : Json) (result : β) :
    (decoder.map change).decode document = .ok result ↔
      ∃ value, decoder.decode document = .ok value ∧ change value = result := by
  simp only [decode, map]
  cases decoder (.value document) <;> simp [Except.map]

theorem string_iff (document : Json) (value : String) :
    string.decode document = .ok value ↔ document = .str value := by
  cases document <;> simp [decode, string, ofScalar, Source.view, mismatch]

theorem string_refused (document : Json) (noText : ∀ value, document ≠ .str value) :
    string.decode document = .error (.invalidType document.found "a string") := by
  cases document with
  | str value => exact absurd rfl (noText value)
  | _ => rfl

theorem any_iff (document value : Json) : any.decode document = .ok value ↔ document = value := by
  simp [decode, any, Source.whole]

theorem optional_any_iff (document : Json) (data : Option Json) :
    any.optional.decode document = .ok data ↔ data = document.unlessNull := by
  cases document <;> simp [decode, optional, any, Source.view, Source.whole, Except.map, Json.unlessNull, eq_comm]

theorem number_iff (document : Json) (value : Number) :
    number.decode document = .ok value ↔ document = .num value := by
  cases document <;> simp [decode, number, ofScalar, Source.view, mismatch]

theorem float_iff (document : Json) (value : Float) :
    float.decode document = .ok value ↔ ∃ number, document = .num number ∧ number.toFloat = value := by
  cases document <;> simp [decode, float, ofScalar, Source.view, mismatch]

theorem unit_iff (document : Json) (value : Unit) : unit.decode document = .ok value ↔ document = .null := by
  cases document <;> simp [decode, unit, ofScalar, Source.view, mismatch]

theorem integer_iff (expected : String) (low high : Int) (document : Json)
    (value : { n : Int // low ≤ n ∧ n < high }) :
    (integer expected low high).decode document = .ok value ↔ ∃ fits, document = .num (.int value.1 fits) := by
  cases document with
  | num number =>
      cases number with
      | int n fits =>
          by_cases within : low ≤ n ∧ n < high
          · have read : (integer expected low high).decode (.num (.int n fits)) = .ok ⟨n, within⟩ := by
              simp [decode, integer, ofScalar, Source.view, within]
            rw [read]
            constructor
            · rintro ⟨⟩
              exact ⟨fits, rfl⟩
            · rintro ⟨_, ⟨⟩⟩
              rfl
          · have refused : (integer expected low high).decode (.num (.int n fits)) =
                .error (.invalidValue (.scalar (.num (.int n fits))) expected) := by
              simp [decode, integer, ofScalar, Source.view, within]
            rw [refused]
            constructor
            · rintro ⟨⟩
            · rintro ⟨_, ⟨⟩⟩
              exact absurd value.2 within
      | float x finite => simp [decode, integer, ofScalar, Source.view, mismatch]
  | _ => simp [decode, integer, ofScalar, Source.view, mismatch]

theorem int64_iff (document : Json) (value : Int64) :
    int64.decode document = .ok value ↔ document = .ofInt64 value := by
  rw [int64, map_iff]
  constructor
  · rintro ⟨⟨n, low, high⟩, read, rfl⟩
    obtain ⟨fits, rfl⟩ := (integer_iff _ _ _ _ _).mp read
    have same : (Int64.ofInt n).toInt = n := Int64.toInt_ofInt_of_le low high
    simp [Json.ofInt64, Number.ofInt64, same]
  · rintro rfl
    refine ⟨⟨value.toInt, value.le_toInt, value.toInt_lt⟩, ?_, Int64.ofInt_toInt value⟩
    exact (integer_iff _ _ _ _ _).mpr ⟨_, rfl⟩

theorem choose_nil {α : Type} (type : String) (document : Json) :
    (choose type ([] : List (Decoder α))).decode document = .error (.noAlternative type) := rfl

theorem choose_cons {α : Type} (type : String) (form : Decoder α) (forms : List (Decoder α)) (document : Json)
    (value : α) :
    (choose type (form :: forms)).decode document = .ok value ↔
      form.decode document = .ok value ∨
        (∀ other, form.decode document ≠ .ok other) ∧ (choose type forms).decode document = .ok value := by
  simp only [decode, choose, Source.whole, List.findSome?_cons]
  cases form (.value document) with
  | error error => simp [Except.toOption]
  | ok read => simp [Except.toOption, bind, Except.bind, pure, Except.pure]

theorem choose_refused {α : Type} (type : String) (forms : List (Decoder α)) (document : Json)
    (none : ∀ value, (choose type forms).decode document ≠ .ok value) :
    (choose type forms).decode document = .error (.noAlternative type) := by
  simp only [decode, choose, Source.whole] at none ⊢
  cases found : forms.findSome? fun form => (form (.value document)).toOption with
  | none => rfl
  | some value => exact absurd (by rw [found]; rfl) (none value)

end Decoder

end JsonRpc
