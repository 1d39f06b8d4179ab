import Mathlib.Data.String.Basic

set_option autoImplicit false

namespace JsonRpc.Text

def bytes (text : String) : List UInt8 := text.toUTF8.data.toList

theorem bytes_encoded (text : String) : bytes text = text.toList.flatMap String.utf8EncodeChar := by
  have encoded : text.toUTF8 = text.toList.utf8Encode := by simp
  rw [bytes, encoded]
  simp [List.utf8Encode]

theorem byte_first (a b : Nat) (rest others : List UInt8) (small : b < 256) (notGreater : a ≤ b)
    (tied : a = b → rest < others) : UInt8.ofNat a :: rest < UInt8.ofNat b :: others := by
  rw [List.cons_lt_cons_iff]
  by_cases same : a = b
  · exact .inr ⟨congrArg UInt8.ofNat same, tied same⟩
  · refine .inl ?_
    rw [UInt8.lt_iff_toNat_lt, UInt8.toNat_ofNat', UInt8.toNat_ofNat']
    omega

-- The codes differ before either of them ends, so that it does not matter what follows them.
theorem encoded_lt (c d : Char) (less : c < d) (rest others : List UInt8) :
    String.utf8EncodeChar c ++ rest < String.utf8EncodeChar d ++ others := by
  have below : c.toNat < d.toNat := less
  have bound : d.toNat < 0x110000 := by
    rcases d.valid with low | high
    · exact Nat.lt_trans low (by decide)
    · exact high.2
  simp only [String.utf8EncodeChar, Char.toNat_val]
  generalize c.toNat = first at below
  generalize d.toNat = second at below bound
  split_ifs
  any_goals omega
  all_goals refine byte_first _ _ _ _ (by omega) (by omega) fun _ => ?_
  -- A shorter code starts with a smaller byte; codes of one length remain, digit by digit.
  any_goals omega
  · exact byte_first _ _ _ _ (by omega) (by omega) (by omega)
  · refine byte_first _ _ _ _ (by omega) (by omega) fun _ => ?_
    exact byte_first _ _ _ _ (by omega) (by omega) (by omega)
  · refine byte_first _ _ _ _ (by omega) (by omega) fun _ => ?_
    refine byte_first _ _ _ _ (by omega) (by omega) fun _ => ?_
    exact byte_first _ _ _ _ (by omega) (by omega) (by omega)

theorem all_encoded_lt (chars others : List Char) (less : chars < others) :
    chars.flatMap String.utf8EncodeChar < others.flatMap String.utf8EncodeChar := by
  induction less with
  | @nil c rest =>
      obtain ⟨first, more, encoded⟩ := List.exists_cons_of_ne_nil (String.utf8EncodeChar_ne_nil (c := c))
      simp [encoded]
  | cons _ ih => exact List.append_left_lt ih
  | rel less => exact encoded_lt _ _ less _ _

theorem bytes_lt_iff (text other : String) : bytes text < bytes other ↔ text < other := by
  have grows (text other : String) (less : text < other) : bytes text < bytes other := by
    rw [bytes_encoded, bytes_encoded]
    exact all_encoded_lt _ _ (String.lt_iff_toList_lt.mp less)
  refine ⟨fun less => ?_, grows text other⟩
  rcases lt_trichotomy text other with before | same | after
  · exact before
  · exact absurd (same ▸ less) (List.lt_irrefl _)
  · exact absurd (grows other text after) (List.lt_asymm less)

-- Units of sixteen bits would order these the other way round.
example : bytes "\uffff" < bytes "😀" := by decide

end JsonRpc.Text
