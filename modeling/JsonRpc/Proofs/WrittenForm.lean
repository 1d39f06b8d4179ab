import JsonRpc.Proofs.NumberText
import JsonRpc.Proofs.Quoting

set_option autoImplicit false

namespace JsonRpc

mutual
inductive Json.Written : Json → String → Prop
  | null : Written .null "null"
  | true : Written (.bool true) "true"
  | false : Written (.bool false) "false"
  | num (value : Number) (text : String) (written : value.Written text) : Written (.num value) text
  | str (value text : String) (quoted : Quoted Json.Escaped value text) : Written (.str value) text
  | arr (items : List Json) (texts : List String) (each : Json.WrittenItems items texts) :
      Written (.arr items) ("[" ++ ",".intercalate texts ++ "]")
  | obj (members : Members) (texts : List String) (each : Json.WrittenMembers members texts) :
      Written (.obj members) ("\x7b" ++ ",".intercalate texts ++ "\x7d")
inductive Json.WrittenItems : List Json → List String → Prop
  | nil : WrittenItems [] []
  | cons (item : Json) (text : String) (rest : List Json) (texts : List String) (first : item.Written text)
      (others : WrittenItems rest texts) : WrittenItems (item :: rest) (text :: texts)
inductive Json.WrittenMembers : Members → List String → Prop
  | nil : WrittenMembers [] []
  | cons (key name : String) (value : Json) (text : String) (rest : Members) (texts : List String)
      (named : Quoted Json.Escaped key name) (valued : value.Written text) (others : WrittenMembers rest texts) :
      WrittenMembers ((key, value) :: rest) ((name ++ ":" ++ text) :: texts)
end

mutual
theorem Json.written_iff : ∀ (document : Json) (text : String), document.Written text ↔ text = document.render
  | .null, text => by
    constructor
    · intro written
      cases written
      rfl
    · intro same
      rw [same]
      exact .null
  | .bool value, text => by
    constructor
    · intro written
      cases written <;> rfl
    · intro same
      rw [same]
      cases value with
      | true => exact .true
      | false => exact .false
  | .num value, text => by
    rw [render, ← value.written_iff]
    constructor
    · intro written
      cases written with
      | num _ _ number => exact number
    · exact .num value text
  | .str value, text => by
    rw [render, ← string_text_iff]
    constructor
    · intro written
      cases written with
      | str _ _ quoted => exact quoted
    · exact .str value text
  | .arr items, text => by
    constructor
    · intro written
      cases written with
      | arr _ texts each => rw [(items_written_iff items texts).mp each, render]
    · intro same
      rw [same]
      exact .arr items _ ((items_written_iff items _).mpr rfl)
  | .obj members, text => by
    constructor
    · intro written
      cases written with
      | obj _ texts each => rw [(members_written_iff members texts).mp each, render]
    · intro same
      rw [same]
      exact .obj members _ ((members_written_iff members _).mpr rfl)
theorem Json.items_written_iff : ∀ (items : List Json) (texts : List String),
    Json.WrittenItems items texts ↔ texts = Json.renderItems items
  | [], texts => by
    constructor
    · intro written
      cases written
      rfl
    · intro same
      rw [same]
      exact .nil
  | item :: rest, texts => by
    constructor
    · intro written
      cases written with
      | cons _ text _ others first each =>
        rw [(item.written_iff text).mp first, (items_written_iff rest others).mp each, renderItems]
    · intro same
      rw [same]
      exact .cons item _ rest _ ((item.written_iff _).mpr rfl) ((items_written_iff rest _).mpr rfl)
theorem Json.members_written_iff : ∀ (members : Members) (texts : List String),
    Json.WrittenMembers members texts ↔ texts = Json.renderMembers members
  | [], texts => by
    constructor
    · intro written
      cases written
      rfl
    · intro same
      rw [same]
      exact .nil
  | (key, value) :: rest, texts => by
    constructor
    · intro written
      cases written with
      | cons _ name _ text _ others named valued each =>
        rw [(string_text_iff key name).mp named, (value.written_iff text).mp valued,
          (members_written_iff rest others).mp each, renderMembers]
    · intro same
      rw [same]
      exact .cons key _ value _ rest _ ((string_text_iff key _).mpr rfl) ((value.written_iff _).mpr rfl)
        ((members_written_iff rest _).mpr rfl)
end

end JsonRpc
