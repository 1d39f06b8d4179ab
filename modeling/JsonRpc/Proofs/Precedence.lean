import Mathlib.Data.List.Sort
import JsonRpc.Proofs.ByteOrder
import JsonRpc.Proofs.Registration

set_option autoImplicit false

namespace JsonRpc.Registry

variable {C M : Type}

inductive Call (C M : Type) where
  | register (name : String) (method : Method C M)
  | lookup (name : String)
  | contains (name : String)
  | names
  | size
  | isEmpty

namespace Call

inductive Reply (C M : Type) where
  | added (new : Bool)
  | found (method : Option (Method C M))
  | holds (answer : Bool)
  | listed (names : List String)
  | counted (methods : Nat)

def run (registry : Registry C M) : Call C M → Reply C M × Registry C M
  | .register name method =>
      let (new, after) := registry.register name method
      (.added new, after)
  | .lookup name => (.found (registry.lookup name), registry)
  | .contains name => (.holds (registry.contains name), registry)
  | .names => (.listed registry.names, registry)
  | .size => (.counted registry.size, registry)
  | .isEmpty => (.holds registry.isEmpty, registry)

def registration? : Call C M → Option (String × Method C M)
  | .register name method => some (name, method)
  | _ => none

def Reply.isAddition : Reply C M → Bool
  | .added new => new
  | _ => false

end Call

def calls : List (Call C M) → Registry C M → List (Call.Reply C M) × Registry C M
  | [], registry => ([], registry)
  | call :: rest, registry =>
      let (reply, next) := call.run registry
      let (replies, last) := calls rest next
      (reply :: replies, last)

def registrations (made : List (Call C M)) : List (String × Method C M) := made.filterMap Call.registration?

structure Lists (names : List String) (earlier : List (String × Method C M)) : Prop where
  ordered : names.Pairwise fun name other => Text.bytes name < Text.bytes other
  listed : ∀ name, name ∈ names ↔ ∃ method, (name, method) ∈ earlier

inductive Call.Answers (earlier : List (String × Method C M)) : Call C M → Reply C M → Prop
  | register (name : String) (method : Method C M) (new : Bool)
      (first : new = true ↔ ∀ entry ∈ earlier, entry.1 ≠ name) : Answers earlier (.register name method) (.added new)
  | lookup (name : String) : Answers earlier (.lookup name) (.found (earlier.lookup name))
  | contains (name : String) (answer : Bool) (known : answer = true ↔ ∃ method, earlier.lookup name = some method) :
      Answers earlier (.contains name) (.holds answer)
  | names (names : List String) (lists : Lists names earlier) : Answers earlier .names (.listed names)
  | size (names : List String) (lists : Lists names earlier) : Answers earlier .size (.counted names.length)
  | isEmpty (answer : Bool) (nothing : answer = true ↔ earlier = []) : Answers earlier .isEmpty (.holds answer)

def Holds (registry : Registry C M) (earlier : List (String × Method C M)) : Prop :=
  ∀ name, registry.lookup name = earlier.lookup name

theorem lookup_some_iff (entries : List (String × Method C M)) (name : String) :
    (∃ method, entries.lookup name = some method) ↔ name ∈ entries.map Prod.fst := by
  rw [← Option.ne_none_iff_exists', ne_eq, lookup_none_iff, not_not]

theorem mem_names (registry : Registry C M) (name : String) :
    name ∈ registry.names ↔ ∃ method, registry.lookup name = some method := by
  rw [names, List.mem_mergeSort, ← lookup_some_iff]
  rfl

theorem names_ordered (registry : Registry C M) : registry.names.Pairwise (· < ·) := by
  have sorted : registry.names.Pairwise (· ≤ ·) := List.pairwise_mergeSort' (· ≤ ·) _
  have distinct : registry.names.Nodup := (List.mergeSort_perm _ _).nodup_iff.mpr registry.distinct
  exact (sorted.and distinct).imp fun ⟨notGreater, differs⟩ => lt_of_le_of_ne notGreater differs

theorem size_names (registry : Registry C M) : registry.size = registry.names.length := by
  simp [size, names]

theorem is_empty_iff (registry : Registry C M) : registry.isEmpty = true ↔ registry.names = [] := by
  rw [← List.length_eq_zero_iff, ← size_names, isEmpty, List.isEmpty_iff, size, List.length_eq_zero_iff]

theorem register_new (registry : Registry C M) (name : String) (method : Method C M) :
    (registry.register name method).1 = true ↔ registry.lookup name = none := by
  by_cases fresh : registry.contains name = false
  · have absent : registry.lookup name = none := by simpa [contains] using fresh
    simp [register, fresh, absent]
  · have present : registry.lookup name ≠ none := by simpa [contains, Option.isSome_iff_ne_none] using fresh
    simp [register, fresh, present]

theorem register_size (registry : Registry C M) (name : String) (method : Method C M) :
    (registry.register name method).2.size = registry.size + if (registry.register name method).1 then 1 else 0 := by
  by_cases fresh : registry.contains name = false <;> simp [register, fresh, size]

theorem names_same (registry other : Registry C M) (same : ∀ name, registry.lookup name = other.lookup name) :
    registry.names = other.names := by
  refine List.Pairwise.eq_of_mem_iff registry.names_ordered other.names_ordered fun name => ?_
  rw [mem_names, mem_names, same]

theorem holds_lists (registry : Registry C M) (earlier : List (String × Method C M)) (holds : registry.Holds earlier) :
    Lists registry.names earlier := by
  refine ⟨registry.names_ordered.imp (Text.bytes_lt_iff _ _).mpr, fun name => ?_⟩
  rw [mem_names, holds, lookup_some_iff]
  simp

theorem holds_nothing (registry : Registry C M) (earlier : List (String × Method C M))
    (holds : registry.Holds earlier) : registry.isEmpty = true ↔ earlier = [] := by
  have lists := registry.holds_lists earlier holds
  simp [is_empty_iff, List.eq_nil_iff_forall_not_mem, lists.listed]

theorem holds_new (registry : Registry C M) (earlier : List (String × Method C M)) (holds : registry.Holds earlier)
    (name : String) (method : Method C M) :
    (registry.register name method).1 = true ↔ ∀ entry ∈ earlier, entry.1 ≠ name := by
  rw [register_new, holds, lookup_none_iff, ← List.forall_mem_ne', List.forall_mem_map]

namespace Call

theorem run_holds (call : Call C M) (registry : Registry C M) (earlier : List (String × Method C M))
    (holds : registry.Holds earlier) : (call.run registry).2.Holds (earlier ++ call.registration?.toList) := by
  cases call with
  | register name method =>
      intro other
      have found := registry.lookup_register name other method
      rw [holds] at found
      by_cases same : other = name
      · simpa [run, registration?, List.lookup_append, same] using found
      · simpa [run, registration?, List.lookup_append, lookup_past, same] using found
  | _ => simpa [run, registration?] using holds

theorem run_answers (call : Call C M) (registry : Registry C M) (earlier : List (String × Method C M))
    (holds : registry.Holds earlier) : call.Answers earlier (call.run registry).1 := by
  cases call with
  | register name method => exact .register name method _ (registry.holds_new earlier holds name method)
  | lookup name =>
      rw [run, holds]
      exact .lookup name
  | contains name =>
      refine .contains name _ ?_
      rw [contains_iff, holds]
  | names => exact .names _ (registry.holds_lists earlier holds)
  | size =>
      rw [run, size_names]
      exact .size _ (registry.holds_lists earlier holds)
  | isEmpty => exact .isEmpty _ (registry.holds_nothing earlier holds)

theorem run_size (call : Call C M) (registry : Registry C M) :
    (call.run registry).2.size = registry.size + if (call.run registry).1.isAddition then 1 else 0 := by
  cases call with
  | register name method => exact registry.register_size name method
  | _ => rfl

theorem run_question (call : Call C M) (registry : Registry C M) (question : call.registration? = none) :
    (call.run registry).2 = registry := by
  cases call with
  | register name method => cases question
  | _ => rfl

theorem run_same (call : Call C M) (registry other : Registry C M)
    (same : ∀ name, registry.lookup name = other.lookup name) :
    (call.run registry).1 = (call.run other).1 ∧
      ∀ name, (call.run registry).2.lookup name = (call.run other).2.lookup name := by
  have names := registry.names_same other same
  cases call with
  | register name method =>
      have new : (registry.register name method).1 = (other.register name method).1 := by
        rw [Bool.eq_iff_iff, register_new, register_new, same]
      refine ⟨congrArg Reply.added new, fun wanted => ?_⟩
      simp only [run, lookup_register, same]
  | lookup name => exact ⟨congrArg Reply.found (same name), same⟩
  | contains name => exact ⟨congrArg (fun found : Option (Method C M) => Reply.holds found.isSome) (same name), same⟩
  | names => exact ⟨congrArg Reply.listed names, same⟩
  | size =>
      have size : registry.size = other.size := by rw [size_names, size_names, names]
      exact ⟨congrArg Reply.counted size, same⟩
  | isEmpty =>
      have isEmpty : registry.isEmpty = other.isEmpty := by
        rw [Bool.eq_iff_iff, is_empty_iff, is_empty_iff, names]
      exact ⟨congrArg Reply.holds isEmpty, same⟩

end Call

theorem calls_append (made later : List (Call C M)) (registry : Registry C M) :
    calls (made ++ later) registry =
      let earlier := calls made registry
      let after := calls later earlier.2
      (earlier.1 ++ after.1, after.2) := by
  induction made generalizing registry with
  | nil => rfl
  | cons call rest ih => simp [calls, ih]

theorem calls_length (made : List (Call C M)) (registry : Registry C M) :
    (calls made registry).1.length = made.length := by
  induction made generalizing registry with
  | nil => rfl
  | cons call rest ih => simp [calls, ih]

theorem calls_hold (made : List (Call C M)) (registry : Registry C M) (earlier : List (String × Method C M))
    (holds : registry.Holds earlier) : (calls made registry).2.Holds (earlier ++ registrations made) := by
  induction made generalizing registry earlier with
  | nil => simpa [calls, registrations] using holds
  | cons call rest ih =>
      have split : registrations (call :: rest) = call.registration?.toList ++ registrations rest := by
        cases call <;> rfl
      rw [split, ← List.append_assoc]
      exact ih _ _ (call.run_holds registry earlier holds)

theorem calls_size (made : List (Call C M)) (registry : Registry C M) :
    (calls made registry).2.size = registry.size + (calls made registry).1.countP Call.Reply.isAddition := by
  induction made generalizing registry with
  | nil => rfl
  | cons call rest ih =>
      simp only [calls, ih, call.run_size, List.countP_cons]
      omega

theorem calls_same (made : List (Call C M)) (registry other : Registry C M)
    (same : ∀ name, registry.lookup name = other.lookup name) : (calls made registry).1 = (calls made other).1 := by
  induction made generalizing registry other with
  | nil => rfl
  | cons call rest ih =>
      obtain ⟨reply, after⟩ := call.run_same registry other same
      simp only [calls, reply, ih _ _ after]

theorem empty_holds : (empty : Registry C M).Holds [] := fun _ => rfl

/-- Each call is answered by the registrations before it alone: a name is new if none of them has it, what is
found is what was first registered, and the names are listed in order, each once. There are as many as were new,
and questions change nothing. Where the same was registered first under each name, whatever is called later is
answered the same. -/
theorem answered_by_first_registrations (made : List (Call C M)) :
    let (replies, registry) := calls made empty
    replies.length = made.length ∧
      (∀ before call after, made = before ++ call :: after →
        ∃ reply, replies[before.length]? = some reply ∧ call.Answers (registrations before) reply) ∧
      registry.size = replies.countP Call.Reply.isAddition ∧
      (∀ call : Call C M, call.registration? = none → (call.run registry).2 = registry) ∧
      ∀ others, (∀ name, (registrations made).lookup name = (registrations others).lookup name) →
        ∀ later, (calls later registry).1 = (calls later (calls others empty).2).1 := by
  have held (made : List (Call C M)) : (calls made empty).2.Holds (registrations made) :=
    calls_hold made empty [] empty_holds
  refine ⟨calls_length made empty, ?_, ?_, fun call => call.run_question _, ?_⟩
  · rintro before call after rfl
    refine ⟨(call.run (calls before empty).2).1, ?_, call.run_answers _ _ (held before)⟩
    rw [calls_append, List.getElem?_append_right (calls_length before empty).le, calls_length, Nat.sub_self]
    rfl
  · simpa [empty, size] using calls_size made empty
  · intro others same later
    refine calls_same later _ _ fun name => ?_
    rw [held made, held others, same]

theorem repeated_name_forgotten :
    let first : Method Unit Unit := .plain [] fun _ => .succeed .null
    let second : Method Unit Unit := .plain [] fun _ => .succeed (.bool true)
    let made : List (Call Unit Unit) := [.register "b" first, .register "a" second, .register "b" second]
    let others : List (Call Unit Unit) := [.register "a" second, .names, .register "b" first]
    (calls made empty).1[2]? = some (.added false) ∧
      ∀ later, (calls later (calls made empty).2).1 = (calls later (calls others empty).2).1 := by
  intro first second made others
  obtain ⟨_, _, _, _, alike⟩ := answered_by_first_registrations made
  refine ⟨rfl, alike others fun name => ?_⟩
  have registered : registrations made = [("b", first), ("a", second), ("b", second)] := rfl
  have otherwise : registrations others = [("a", second), ("b", first)] := rfl
  rw [registered, otherwise]
  by_cases b : name = "b"
  · subst b
    rfl
  · by_cases a : name = "a" <;> simp [lookup_past, a, b]

end JsonRpc.Registry
