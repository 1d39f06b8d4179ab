import Mathlib.Data.List.Sort
import Mathlib.Data.String.Basic
import JsonRpc.Json.Draft

set_option autoImplicit false

namespace JsonRpc

variable {α : Type}

def lookups (names : List String) (entries : List (String × α)) : List (String × α) :=
  names.filterMap fun name => (entries.lookup name).map fun value => (name, value)

theorem mem_of_lookup (entries : List (String × α)) (name : String) (value : α)
    (found : entries.lookup name = some value) : (name, value) ∈ entries := by
  obtain ⟨before, after, rfl, _⟩ := List.lookup_eq_some_iff.mp found
  simp

theorem mem_lookups (names : List String) (entries : List (String × α)) (name : String) (value : α) :
    (name, value) ∈ lookups names entries ↔ name ∈ names ∧ entries.lookup name = some value := by
  simp only [lookups, List.mem_filterMap, Option.map_eq_some_iff, Prod.mk.injEq]
  constructor
  · rintro ⟨_, listed, _, found, rfl, rfl⟩
    exact ⟨listed, found⟩
  · rintro ⟨listed, found⟩
    exact ⟨name, listed, value, found, rfl, rfl⟩

namespace Members

theorem sorted_cons (member : String × Json) (rest : Members) :
    Sorted (member :: rest) ↔ (∀ other ∈ rest, member.1 < other.1) ∧ Sorted rest :=
  List.pairwise_cons

theorem Sorted.filter (members : Members) (sorted : members.Sorted) (keep : String × Json → Bool) :
    Sorted (members.filter keep) := List.Pairwise.filter keep sorted

theorem sorted_ext (members others : Members) (sorted : members.Sorted) (otherSorted : others.Sorted)
    (same : ∀ member, member ∈ members ↔ member ∈ others) : members = others := by
  have irreflexive : Std.Irrefl fun a b : String × Json => a.1 < b.1 := ⟨fun a => lt_irrefl a.1⟩
  have antisymmetric : Std.Antisymm fun a b : String × Json => a.1 < b.1 :=
    ⟨fun a b less greater => absurd greater (lt_asymm less)⟩
  exact List.Pairwise.eq_of_mem_iff sorted otherSorted same

theorem mem_insert (key : String) (value : Json) (members : Members) (member : String × Json)
    (inserted : member ∈ insert key value members) : member = (key, value) ∨ member ∈ members := by
  induction members with
  | nil => simpa [insert] using inserted
  | cons first rest ih =>
      simp only [insert] at inserted
      split at inserted
      · exact List.mem_cons.mp inserted
      · split at inserted
        · exact (List.mem_cons.mp inserted).imp_right (List.mem_cons_of_mem first)
        · rcases List.mem_cons.mp inserted with same | later
          · exact .inr (same ▸ List.mem_cons_self ..)
          · exact (ih later).imp_right (List.mem_cons_of_mem first)

theorem insert_sorted (key : String) (value : Json) (members : Members) (sorted : members.Sorted) :
    (insert key value members).Sorted := by
  induction members with
  | nil => exact List.pairwise_singleton ..
  | cons first rest ih =>
      obtain ⟨below, ordered⟩ := (sorted_cons first rest).mp sorted
      simp only [insert]
      split
      · rename_i less
        refine (sorted_cons _ _).mpr ⟨fun other member => ?_, sorted⟩
        rcases List.mem_cons.mp member with same | later
        · exact same ▸ less
        · exact lt_trans less (below other later)
      · rename_i notLess
        split
        · rename_i same
          exact (sorted_cons _ _).mpr ⟨same ▸ below, ordered⟩
        · rename_i differs
          refine (sorted_cons _ _).mpr ⟨fun other member => ?_, ih ordered⟩
          have greater : first.1 < key := lt_of_le_of_ne (not_lt.mp notLess) (Ne.symm differs)
          rcases mem_insert key value rest other member with same | later
          · exact same ▸ greater
          · exact below other later

theorem of_list_invariant (holds : Members → Prop) (empty : holds [])
    (members : List (String × Json))
    (kept : ∀ member ∈ members, ∀ done, holds done → holds (insert member.1 member.2 done)) :
    holds (ofList members) := by
  have folded (done : Members) (initially : holds done) :
      holds (members.foldl (fun done member => insert member.1 member.2 done) done) := by
    induction members generalizing done with
    | nil => exact initially
    | cons first rest ih =>
        exact ih (fun other member => kept other (List.mem_cons_of_mem first member)) _
          (kept first (List.mem_cons_self ..) done initially)
  exact folded [] empty

theorem of_list_sorted (members : List (String × Json)) : (ofList members).Sorted :=
  of_list_invariant Sorted List.Pairwise.nil members fun member _ done sorted =>
    insert_sorted member.1 member.2 done sorted

theorem mem_iff_lookup (members : Members) (sorted : members.Sorted) (name : String) (value : Json) :
    (name, value) ∈ members ↔ members.lookup name = some value := by
  refine ⟨fun member => ?_, mem_of_lookup members name value⟩
  induction members with
  | nil => cases member
  | cons first rest ih =>
      obtain ⟨below, ordered⟩ := (sorted_cons first rest).mp sorted
      rcases List.mem_cons.mp member with rfl | later
      · simp
      · exact (lookup_past name first.1 first.2 rest (below _ later).ne').trans (ih ordered later)

theorem lookups_sorted (names : List String) (ordered : names.Pairwise (· < ·)) (members : Members) :
    Sorted (lookups names members) := by
  refine List.Pairwise.filterMap _ (fun name other less member taken another alsoTaken => ?_) ordered
  obtain ⟨_, _, rfl⟩ := Option.map_eq_some_iff.mp taken
  obtain ⟨_, _, rfl⟩ := Option.map_eq_some_iff.mp alsoTaken
  exact less

theorem filter_lookups (members : Members) (sorted : members.Sorted) (names : List String)
    (ordered : names.Pairwise (· < ·)) :
    members.filter (fun member => names.contains member.1) = lookups names members := by
  refine sorted_ext _ _ (sorted.filter members _) (lookups_sorted names ordered members) fun member => ?_
  rw [List.mem_filter, mem_lookups, mem_iff_lookup members sorted, List.contains_iff_mem, and_comm]

end Members

namespace Json

theorem canonical_members_iff (members : List (String × Json)) :
    CanonicalMembers members ↔ ∀ member ∈ members, member.2.Canonical := by
  induction members with
  | nil => simp [CanonicalMembers]
  | cons first rest ih => simp [CanonicalMembers, ih]

theorem object_canonical (members : List (String × Json)) (canonical : CanonicalMembers members) :
    (object members).Canonical := by
  refine ⟨Members.of_list_sorted members, ?_⟩
  refine Members.of_list_invariant CanonicalMembers trivial members fun member within done whole => ?_
  rw [canonical_members_iff] at canonical whole ⊢
  intro other inserted
  rcases Members.mem_insert member.1 member.2 done other inserted with rfl | earlier
  · exact canonical member within
  · exact whole other earlier

namespace Draft

mutual
theorem settle_canonical (draft : Draft) (document : Json) (settled : draft.settle = .ok document) :
    document.Canonical := by
  cases draft with
  | null | bool => cases settled; trivial
  | num value => cases value <;> cases settled; trivial
  | str value => cases value <;> cases settled; trivial
  | arr items ending =>
      cases read : settleItems items with
      | error fault => simp [settle, read, bind, Except.bind] at settled
      | ok documents =>
          cases ending with
          | some fault => simp [settle, read, bind, Except.bind] at settled
          | none =>
              simp only [settle, read, bind, Except.bind, pure, Except.pure] at settled
              cases settled
              exact settle_items_canonical items documents read
  | obj members ending =>
      cases read : settleMembers members with
      | error fault => simp [settle, read, bind, Except.bind] at settled
      | ok documents =>
          cases ending with
          | some fault => simp [settle, read, bind, Except.bind] at settled
          | none =>
              simp only [settle, read, bind, Except.bind, pure, Except.pure] at settled
              cases settled
              exact object_canonical documents (settle_members_canonical members documents read)
  | deep | broken => cases settled
theorem settle_items_canonical (items : List Draft) (documents : List Json)
    (settled : settleItems items = .ok documents) : CanonicalItems documents := by
  cases items with
  | nil => cases settled; trivial
  | cons item rest =>
      cases first : item.settle with
      | error fault => simp [settleItems, first, bind, Except.bind] at settled
      | ok document =>
          cases later : settleItems rest with
          | error fault => simp [settleItems, first, later, bind, Except.bind] at settled
          | ok others =>
              simp only [settleItems, first, later, bind, Except.bind, pure, Except.pure] at settled
              cases settled
              exact ⟨settle_canonical item document first, settle_items_canonical rest others later⟩
theorem settle_members_canonical (members : List (Except Fault String × Draft)) (documents : List (String × Json))
    (settled : settleMembers members = .ok documents) : CanonicalMembers documents := by
  cases members with
  | nil => cases settled; trivial
  | cons member rest =>
      obtain ⟨key, value⟩ := member
      cases key with
      | error fault => cases settled
      | ok name =>
          cases first : value.settle with
          | error fault => simp [settleMembers, first, bind, Except.bind] at settled
          | ok document =>
              cases later : settleMembers rest with
              | error fault => simp [settleMembers, first, later, bind, Except.bind] at settled
              | ok others =>
                  simp only [settleMembers, first, later, bind, Except.bind, pure, Except.pure] at settled
                  cases settled
                  exact ⟨settle_canonical value document first, settle_members_canonical rest others later⟩
end

end Draft

theorem parse_canonical (text : String) (document : Json) (parsed : parse text = .ok document) :
    document.Canonical := by
  simp only [parse] at parsed
  cases settled : (Draft.ofText text).1.settle with
  | error fault => simp [settled] at parsed
  | ok read =>
      cases surplus : (Draft.ofText text).2 with
      | some fault => simp [settled, surplus] at parsed
      | none =>
          simp only [settled, surplus, Except.ok.injEq] at parsed
          exact parsed ▸ Draft.settle_canonical _ read settled

end Json

end JsonRpc
