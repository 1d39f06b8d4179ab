import JsonRpc.Registry

set_option autoImplicit false

namespace JsonRpc.Registry

variable {C M : Type}

theorem contains_iff (registry : Registry C M) (name : String) :
    registry.contains name = true ↔ ∃ method, registry.lookup name = some method := by
  simp [contains, Option.isSome_iff_exists]

theorem register_taken (registry : Registry C M) (name : String) (method : Method C M)
    (taken : registry.contains name = true) : registry.register name method = (false, registry) := by
  simp [register, taken]

theorem lookup_register (registry : Registry C M) (name other : String) (method : Method C M) :
    (registry.register name method).2.lookup other =
      (registry.lookup other).or (if other = name then some method else none) := by
  by_cases fresh : registry.contains name = false
  · have added : (registry.register name method).2.entries = registry.entries ++ [(name, method)] := by
      simp [register, fresh]
    by_cases same : other = name
    · simp [lookup, added, List.lookup_append, same]
    · simp [lookup, added, List.lookup_append, lookup_past, same]
  · have taken : registry.contains name = true := by simpa using fresh
    rw [register_taken registry name method taken]
    by_cases same : other = name
    · obtain ⟨first, present⟩ := (contains_iff registry name).mp taken
      simp [same, present]
    · simp [same]

theorem registered_from (registry : Registry C M) (name other : String) (method found : Method C M)
    (registered : (registry.register name method).2.lookup other = some found) :
    registry.lookup other = some found ∨ found = method := by
  rw [lookup_register] at registered
  rcases Option.or_eq_some_iff.mp registered with known | ⟨_, added⟩
  · exact .inl known
  · split at added
    · exact .inr (Option.some.inj added).symm
    · contradiction

end JsonRpc.Registry
