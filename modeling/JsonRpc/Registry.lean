import JsonRpc.Handler

set_option autoImplicit false

namespace JsonRpc

structure Registry (C M : Type) where
  entries : List (String × Method C M)
  distinct : (entries.map Prod.fst).Nodup

namespace Registry

variable {C M : Type}

def empty : Registry C M := ⟨[], List.nodup_nil⟩

def lookup (registry : Registry C M) (name : String) : Option (Method C M) := registry.entries.lookup name

def contains (registry : Registry C M) (name : String) : Bool := (registry.lookup name).isSome

theorem lookup_none_iff (entries : List (String × Method C M)) (name : String) :
    entries.lookup name = none ↔ name ∉ entries.map Prod.fst := by
  induction entries with
  | nil => simp
  | cons entry rest ih =>
      obtain ⟨other, method⟩ := entry
      by_cases same : name = other
      · simp [same]
      · simp [lookup_past, same, ih]

theorem distinct_append (registry : Registry C M) (name : String) (method : Method C M)
    (fresh : registry.contains name = false) :
    ((registry.entries ++ [(name, method)]).map Prod.fst).Nodup := by
  have absent : name ∉ registry.entries.map Prod.fst := by
    rw [← lookup_none_iff]
    simpa [contains, lookup] using fresh
  rw [List.map_append, List.nodup_append]
  refine ⟨registry.distinct, by simp, ?_⟩
  intro a known b new
  simp at new
  subst new
  exact fun same => absent (same ▸ known)

def register (registry : Registry C M) (name : String) (method : Method C M) : Bool × Registry C M :=
  if fresh : registry.contains name = false then
    (true, ⟨registry.entries ++ [(name, method)], registry.distinct_append name method fresh⟩)
  else (false, registry)

def names (registry : Registry C M) : List String :=
  (registry.entries.map Prod.fst).mergeSort fun a b => decide (a ≤ b)

def size (registry : Registry C M) : Nat := registry.entries.length

def isEmpty (registry : Registry C M) : Bool := registry.entries.isEmpty

def debug (registry : Registry C M) : String :=
  "MethodRegistry \x7b methods: " ++ Text.quoteAll registry.names ++ " \x7d"

end Registry

end JsonRpc
