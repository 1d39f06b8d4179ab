import JsonRpc.Json.Basic

set_option autoImplicit false

namespace JsonRpc

-- The caller's own value and the request's members that the protocol does not know. There are none
-- of these before the request has been validated.
structure Context (C : Type) where
  data : C
  extra : Members

namespace Context

def ofCaller {C : Type} (data : C) : Context C := { data, extra := [] }

def extraField? {C : Type} (context : Context C) (name : String) : Option Json := context.extra.lookup name

end Context

end JsonRpc
