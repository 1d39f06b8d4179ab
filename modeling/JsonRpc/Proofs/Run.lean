import JsonRpc.Dispatcher

set_option autoImplicit false

namespace JsonRpc

variable {C M H α β ι : Type}

namespace Dispatcher

def report (dispatcher : Dispatcher C M H) (call : HookCall C) : List (Entry C H) :=
  dispatcher.observer.toList.map fun observer => ⟨[], .hook observer call⟩

def counted (dispatcher : Dispatcher C M H) : Dispatcher C M H :=
  { dispatcher with sequence := dispatcher.sequence + 1 }

@[simp] theorem counted_registry (dispatcher : Dispatcher C M H) :
    dispatcher.counted.registry = dispatcher.registry := rfl

@[simp] theorem counted_observer (dispatcher : Dispatcher C M H) :
    dispatcher.counted.observer = dispatcher.observer := rfl

@[simp] theorem counted_memory (dispatcher : Dispatcher C M H) : dispatcher.counted.memory = dispatcher.memory := rfl

end Dispatcher

namespace Run

@[simp] theorem pure_apply (value : α) (dispatcher : Dispatcher C M H) :
    (pure value : Run C M H α) dispatcher = ⟨value, dispatcher, []⟩ := rfl

@[simp] theorem bind_apply (first : Run C M H α) (second : α → Run C M H β) (dispatcher : Dispatcher C M H) :
    (first >>= second) dispatcher =
      ⟨(second (first dispatcher).value (first dispatcher).dispatcher).value,
        (second (first dispatcher).value (first dispatcher).dispatcher).dispatcher,
        (first dispatcher).trace ++ (second (first dispatcher).value (first dispatcher).dispatcher).trace⟩ := rfl

@[simp] theorem map_apply (change : α → β) (run : Run C M H α) (dispatcher : Dispatcher C M H) :
    Run.map change run dispatcher =
      ⟨change (run dispatcher).value, (run dispatcher).dispatcher, (run dispatcher).trace⟩ := rfl

@[simp] theorem emit_apply (event : Event C H) (dispatcher : Dispatcher C M H) :
    (Run.emit event : Run C M H Unit) dispatcher = ⟨(), dispatcher, [⟨[], event⟩]⟩ := rfl

@[simp] theorem notify_apply (call : HookCall C) (dispatcher : Dispatcher C M H) :
    Run.notify call dispatcher = ⟨(), dispatcher, dispatcher.report call⟩ := by
  cases present : dispatcher.observer <;> simp [Run.notify, Dispatcher.report, present, Run.emit, Run.pure]

@[simp] theorem lookup_apply (name : String) (dispatcher : Dispatcher C M H) :
    Run.lookup name dispatcher = ⟨dispatcher.registry.lookup name, dispatcher, []⟩ := rfl

@[simp] theorem in_span_apply (body : Run C M H α) (dispatcher : Dispatcher C M H) :
    Run.inSpan body dispatcher =
      ⟨(body dispatcher.counted).value, (body dispatcher.counted).dispatcher,
        (body dispatcher.counted).trace.map (Entry.within dispatcher.sequence)⟩ := rfl

end Run

structure Turn (ι C M H α : Type) where
  item : ι
  start : Dispatcher C M H
  step : Step C M H α

def Run.turns (handle : ι → Run C M H α) : List ι → Dispatcher C M H → List (Turn ι C M H α)
  | [], _ => []
  | item :: rest, dispatcher =>
      ⟨item, dispatcher, handle item dispatcher⟩ :: Run.turns handle rest (handle item dispatcher).dispatcher

namespace Turn

def last (turns : List (Turn ι C M H α)) (dispatcher : Dispatcher C M H) : Dispatcher C M H :=
  turns.foldl (fun _ turn => turn.step.dispatcher) dispatcher

end Turn

namespace Run

theorem turns_items (handle : ι → Run C M H α) (items : List ι) (dispatcher : Dispatcher C M H) :
    (turns handle items dispatcher).map Turn.item = items := by
  induction items generalizing dispatcher with
  | nil => rfl
  | cons item rest ih => simp [turns, ih]

theorem turns_step (handle : ι → Run C M H α) (items : List ι) (dispatcher : Dispatcher C M H)
    (turn : Turn ι C M H α) (taken : turn ∈ turns handle items dispatcher) :
    turn.step = handle turn.item turn.start := by
  induction items generalizing dispatcher with
  | nil => simp [turns] at taken
  | cons item rest ih =>
      rcases List.mem_cons.mp taken with first | later
      · rw [first]
      · exact ih _ later

theorem turns_append (handle : ι → Run C M H α) (first second : List ι) (dispatcher : Dispatcher C M H) :
    turns handle (first ++ second) dispatcher =
      turns handle first dispatcher ++ turns handle second (Turn.last (turns handle first dispatcher) dispatcher) := by
  induction first generalizing dispatcher with
  | nil => rfl
  | cons item rest ih => simp [turns, ih, Turn.last]

theorem turns_invariant (handle : ι → Run C M H α) (holds : Dispatcher C M H → Prop) (items : List ι)
    (dispatcher : Dispatcher C M H)
    (kept : ∀ item ∈ items, ∀ dispatcher, holds dispatcher → holds (handle item dispatcher).dispatcher)
    (initially : holds dispatcher) :
    (∀ turn ∈ turns handle items dispatcher, holds turn.start) ∧
      holds (Turn.last (turns handle items dispatcher) dispatcher) := by
  induction items generalizing dispatcher with
  | nil => exact ⟨by simp [turns], initially⟩
  | cons item rest ih =>
      have next := kept item (by simp) dispatcher initially
      obtain ⟨starts, final⟩ := ih _ (fun other member => kept other (by simp [member])) next
      exact ⟨by simpa [turns] using ⟨initially, starts⟩, by simpa [turns, Turn.last] using final⟩

end Run

end JsonRpc
