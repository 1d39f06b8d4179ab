import JsonRpc.Pattern.CharacterClass
import JsonRpc.Text.Alphanumeric

set_option autoImplicit false

namespace JsonRpc.Pattern

-- A group that is being read, or the whole pattern: the depths of its finished branches and of the
-- parts of the last one. A part without a depth is a setting of flags. Behind the group the mode from
-- before it holds again.
structure Group where
  branches : List Nat
  parts : List (Option Nat)
  outside : Mode

namespace Group

def branch (group : Group) : Nat := together (group.parts.map (·.getD 0))

def depth (group : Group) : Nat := together (group.branch :: group.branches)

def add (group : Group) (part : Option Nat) : Group := { group with parts := part :: group.parts }

def fork (group : Group) : Group := { group with branches := group.branch :: group.branches, parts := [] }

def repeated? (group : Group) : Option Group :=
  match group.parts with
  | some depth :: parts => some { group with parts := some (depth + 1) :: parts }
  | _ => none

end Group

structure State where
  mode : Mode
  names : List String
  group : Group
  enclosing : List Group

namespace State

def initial : State := ⟨.initial, [], ⟨[], [], .initial⟩, []⟩

def add (state : State) (part : Option Nat) : State := { state with group := state.group.add part }

def enter (state : State) (mode : Mode) : State :=
  { state with mode, group := ⟨[], [], state.mode⟩, enclosing := state.group :: state.enclosing }

def leave? (state : State) : Option State :=
  match state.enclosing with
  | [] => none
  | outer :: enclosing =>
      some { state with
        mode := state.group.outside, group := outer.add (some (1 + state.group.depth)), enclosing }

end State

def isNameFirst (c : Char) : Bool := c == '_' || Text.isAlphabetic c

def isNameChar (c : Char) : Bool := ['_', '.', '[', ']'].contains c || Text.isAlphanumeric c

def readName (found : List Char) : List Char → Option (String × List Char)
  | [] => none
  | c :: rest =>
      if c = '>' then if found.isEmpty then none else some (.ofList found.reverse, rest)
      else if if found.isEmpty then isNameFirst c else isNameChar c then readName (c :: found) rest
      else none

def openNamed (state : State) (text : List Char) : Option (State × List Char) := do
  let (name, rest) ← readName [] text
  if state.names.contains name then none
  else some ({ state.enter state.mode with names := name :: state.names }, rest)

-- Flags before a colon hold in a group, those before a parenthesis in what follows.
def openFlags (state : State) (text : List Char) : Option (State × List Char) := do
  let (flags, stop, rest) ← readFlags [] text
  let mode := state.mode.setAll true flags
  if stop = ':' then some (state.enter mode, rest)
  else if flags.isEmpty then none
  else some ({ state.add none with mode }, rest)

-- Behind an opening parenthesis. A pattern cannot look ahead or behind.
def openGroup (state : State) (text : List Char) : Option (State × List Char) :=
  match state.mode.skip text with
  | '?' :: 'P' :: '<' :: rest => openNamed state rest
  | '?' :: '<' :: '=' :: _ => none
  | '?' :: '<' :: '!' :: _ => none
  | '?' :: '<' :: rest => openNamed state rest
  | '?' :: rest => openFlags state rest
  | rest => some (state.enter state.mode, rest)

def readAtom (mode : Mode) : List Char → Option (Atom × List Char)
  | [] => none
  | '\\' :: rest => readEscape mode rest
  | '.' :: rest => some (.any, rest)
  | '^' :: rest => some (.edge, rest)
  | '$' :: rest => some (.edge, rest)
  | c :: rest => some (.character c false, rest)

def addAtom (state : State) (text : List Char) : Option (State × List Char) := do
  let (atom, rest) ← readAtom state.mode text
  if atom.isAllowed state.mode then some (state.add (some 0), rest) else none

def addClass (state : State) (text : List Char) : Option (State × List Char) := do
  let (level, rest) ← openClass state.mode text
  let (depth, rest) ← readClass state.mode (rest.length + 1) [] level rest
  some (state.add (some depth), rest)

def addRepetition (state : State) (text : List Char) : Option (State × List Char) := do
  let group ← state.group.repeated?
  some ({ state with group }, if text.head? = some '?' then text.drop 1 else text)

def step (state : State) : List Char → Option (State × List Char)
  | '(' :: rest => openGroup state rest
  | ')' :: rest => state.leave?.map fun state => (state, rest)
  | '|' :: rest => some ({ state with group := state.group.fork }, rest)
  | '[' :: rest => addClass state rest
  | '*' :: rest => addRepetition state rest
  | '+' :: rest => addRepetition state rest
  | '?' :: rest => addRepetition state rest
  | '\x7b' :: _ => none
  | text => addAtom state text

def read : Nat → State → List Char → Option Nat
  | 0, _, _ => none
  | fuel + 1, state, text =>
      match state.mode.skip text with
      | [] => if state.enclosing.isEmpty then some state.group.depth else none
      | text => do
          let (state, rest) ← step state text
          read fuel state rest

def maxDepth : Nat := 250

def isWellFormed (text : String) : Bool :=
  match read (text.length + 1) .initial text.toList with
  | some depth => depth ≤ maxDepth
  | none => false

end JsonRpc.Pattern
