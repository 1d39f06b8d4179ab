import JsonRpc.Proofs.Run

set_option autoImplicit false

namespace JsonRpc

variable {C M H : Type}

structure Body (C : Type) where
  method : String
  context : Option (Context C)
  arguments : List Json

namespace Entry

def hookCall? (entry : Entry C H) : Option (H × HookCall C) :=
  match entry.event with
  | .hook observer call => some (observer, call)
  | _ => none

def body? (entry : Entry C H) : Option (Body C) :=
  match entry.event with
  | .entered method context arguments => some ⟨method, context, arguments⟩
  | _ => none

@[simp] theorem within_hook_call (sequence : UInt64) (entry : Entry C H) :
    (entry.within sequence).hookCall? = entry.hookCall? := rfl

@[simp] theorem within_body (sequence : UInt64) (entry : Entry C H) : (entry.within sequence).body? = entry.body? := rfl

end Entry

namespace Trace

def hookCalls (trace : List (Entry C H)) : List (H × HookCall C) := trace.filterMap Entry.hookCall?

def bodies (trace : List (Entry C H)) : List (Body C) := trace.filterMap Entry.body?

def atDepth (depth : Nat) (trace : List (Entry C H)) : List (Entry C H) :=
  trace.filter fun entry => entry.spans.length == depth

def ofNotices (notices : List Notice) : List (Entry C H) := notices.map fun notice => ⟨[], .notice notice⟩

@[simp] theorem hook_calls_nil : hookCalls ([] : List (Entry C H)) = [] := rfl

@[simp] theorem bodies_nil : bodies ([] : List (Entry C H)) = [] := rfl

@[simp] theorem hook_calls_append (first second : List (Entry C H)) :
    hookCalls (first ++ second) = hookCalls first ++ hookCalls second := List.filterMap_append

@[simp] theorem bodies_append (first second : List (Entry C H)) :
    bodies (first ++ second) = bodies first ++ bodies second := List.filterMap_append

@[simp] theorem at_depth_append (depth : Nat) (first second : List (Entry C H)) :
    atDepth depth (first ++ second) = atDepth depth first ++ atDepth depth second := List.filter_append ..

@[simp] theorem hook_calls_within (sequence : UInt64) (trace : List (Entry C H)) :
    hookCalls (trace.map (Entry.within sequence)) = hookCalls trace := by
  simp [hookCalls, List.filterMap_map, Function.comp_def]

@[simp] theorem bodies_within (sequence : UInt64) (trace : List (Entry C H)) :
    bodies (trace.map (Entry.within sequence)) = bodies trace := by
  simp [bodies, List.filterMap_map, Function.comp_def]

@[simp] theorem at_depth_within (depth : Nat) (sequence : UInt64) (trace : List (Entry C H)) :
    atDepth (depth + 1) (trace.map (Entry.within sequence)) = (atDepth depth trace).map (Entry.within sequence) := by
  simp [atDepth, List.filter_map, Function.comp_def, Entry.within]

theorem hook_calls_flat_map {ι : Type} (items : List ι) (part : ι → List (Entry C H)) :
    hookCalls (items.flatMap part) = items.flatMap fun item => hookCalls (part item) := by
  simp [hookCalls, List.filterMap_flatMap]

theorem bodies_flat_map {ι : Type} (items : List ι) (part : ι → List (Entry C H)) :
    bodies (items.flatMap part) = items.flatMap fun item => bodies (part item) := by
  simp [bodies, List.filterMap_flatMap]

theorem at_depth_flat_map {ι : Type} (depth : Nat) (items : List ι) (part : ι → List (Entry C H)) :
    atDepth depth (items.flatMap part) = items.flatMap fun item => atDepth depth (part item) := by
  simp [atDepth, List.filter_flatMap]

def told : Option H → List (HookCall C) → List (H × HookCall C)
  | some observer, calls => calls.map fun call => (observer, call)
  | none, _ => []

@[simp] theorem told_nil (observer : Option H) : told observer ([] : List (HookCall C)) = [] := by
  cases observer <;> rfl

theorem told_append (observer : Option H) (first second : List (HookCall C)) :
    told observer (first ++ second) = told observer first ++ told observer second := by
  cases observer <;> simp [told]

@[simp] theorem hook_calls_report (dispatcher : Dispatcher C M H) (call : HookCall C) :
    hookCalls (dispatcher.report call) = told dispatcher.observer [call] := by
  cases present : dispatcher.observer <;> simp [Dispatcher.report, present, hookCalls, Entry.hookCall?, told]

@[simp] theorem bodies_report (dispatcher : Dispatcher C M H) (call : HookCall C) :
    bodies (dispatcher.report call) = [] := by
  cases present : dispatcher.observer <;> simp [Dispatcher.report, present, bodies, Entry.body?]

@[simp] theorem at_depth_report (dispatcher : Dispatcher C M H) (call : HookCall C) :
    atDepth 0 (dispatcher.report call) = dispatcher.report call := by
  cases present : dispatcher.observer <;> simp [Dispatcher.report, present, atDepth]

@[simp] theorem hook_calls_notices (notices : List Notice) :
    hookCalls (ofNotices notices : List (Entry C H)) = [] := by
  simp [ofNotices, hookCalls, Entry.hookCall?]

@[simp] theorem bodies_notices (notices : List Notice) : bodies (ofNotices notices : List (Entry C H)) = [] := by
  simp [ofNotices, bodies, Entry.body?]

@[simp] theorem at_depth_notices (notices : List Notice) :
    atDepth 0 (ofNotices notices : List (Entry C H)) = ofNotices notices := by
  simp [ofNotices, atDepth]

@[simp] theorem at_depth_notices_deep (depth : Nat) (notices : List Notice) :
    atDepth (depth + 1) (ofNotices notices : List (Entry C H)) = [] := by
  simp [ofNotices, atDepth]

@[simp] theorem hook_calls_entered (method : String) (context : Option (Context C)) (arguments : List Json)
    (rest : List (Entry C H)) : hookCalls (⟨[], .entered method context arguments⟩ :: rest) = hookCalls rest := rfl

@[simp] theorem bodies_entered (method : String) (context : Option (Context C)) (arguments : List Json)
    (rest : List (Entry C H)) :
    bodies (⟨[], .entered method context arguments⟩ :: rest) = ⟨method, context, arguments⟩ :: bodies rest := rfl

@[simp] theorem at_depth_bare (event : Event C H) (rest : List (Entry C H)) :
    atDepth 0 (⟨[], event⟩ :: rest) = ⟨[], event⟩ :: atDepth 0 rest := by
  simp [atDepth]

@[simp] theorem at_depth_nil (depth : Nat) : atDepth depth ([] : List (Entry C H)) = [] := rfl

def Sheltered (trace : List (Entry C H)) : Prop := hookCalls (atDepth 0 trace) = [] ∧ bodies (atDepth 0 trace) = []

theorem sheltered_append (first second : List (Entry C H)) (one : Sheltered first) (other : Sheltered second) :
    Sheltered (first ++ second) := by
  simp [Sheltered, one.1, one.2, other.1, other.2]

theorem sheltered_within (sequence : UInt64) (trace : List (Entry C H)) :
    Sheltered (trace.map (Entry.within sequence)) := by
  have deep : atDepth 0 (trace.map (Entry.within sequence)) = [] := by
    simp [atDepth, List.filter_map, Function.comp_def, Entry.within]
  simp [Sheltered, deep]

theorem sheltered_notices (notices : List Notice) : Sheltered (ofNotices notices : List (Entry C H)) := by
  simp [Sheltered]

end Trace

end JsonRpc
