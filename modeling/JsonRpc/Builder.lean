import JsonRpc.Dispatcher

set_option autoImplicit false

namespace JsonRpc

-- What has been asked for so far. Registrations take effect, and are logged, at once.
structure Builder (C M H : Type) where
  registry : Registry C M
  observer : Option H
  notices : List Notice

namespace Builder

variable {C M H : Type}

def start : Builder C M H := { registry := .empty, observer := none, notices := [] }

def method (builder : Builder C M H) (name : String) (method : Method C M) : Builder C M H :=
  let (added, registry) := builder.registry.register name method
  { builder with registry, notices := builder.notices ++ [.ofRegistration name added] }

def hooks (builder : Builder C M H) (observer : Option H) : Builder C M H := { builder with observer }

def build (builder : Builder C M H) (memory : M) : Dispatcher C M H :=
  { registry := builder.registry, observer := builder.observer, sequence := 0, memory }

end Builder

end JsonRpc
