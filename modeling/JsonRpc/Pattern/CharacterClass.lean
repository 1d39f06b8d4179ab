import JsonRpc.Pattern.Escape

set_option autoImplicit false

namespace JsonRpc.Pattern

def together : List Nat → Nat
  | [] => 0
  | [depth] => depth
  | depths => 1 + depths.foldl max 0

structure OpenClass where
  negated : Bool
  left : Option Nat
  items : List Nat

namespace OpenClass

def depth (level : OpenClass) : Nat :=
  match level.left with
  | none => together level.items
  | some left => 1 + max left (together level.items)

def add (level : OpenClass) (depth : Nat) : OpenClass := { level with items := depth :: level.items }

def join (level : OpenClass) : OpenClass := { level with left := some level.depth, items := [] }

end OpenClass

def className? (name : List Char) : Bool :=
  ["alnum", "alpha", "ascii", "blank", "cntrl", "digit", "graph", "lower", "print", "punct", "space",
    "upper", "word", "xdigit"].contains (String.ofList name)

def namedClass? : List Char → Option (Bool × List Char)
  | ':' :: text =>
      let negated := text.head? == some '^'
      let body := if negated then text.drop 1 else text
      let name := body.takeWhile (· != ':')
      match body.drop name.length with
      | ':' :: ']' :: rest => if className? name then some (negated, rest) else none
      | _ => none
  | _ => none

def addCharacter (mode : Mode) (level : OpenClass) (c : Char) : Option OpenClass :=
  if mode.allowsInClass c then some (level.add 0) else none

-- Dashes at the beginning of a class stand for themselves.
def readDashes (mode : Mode) : Nat → OpenClass → List Char → Option (OpenClass × List Char)
  | 0, _, _ => none
  | fuel + 1, level, text =>
      match mode.skip text with
      | [] => none
      | '-' :: rest => do
          let level ← addCharacter mode level '-'
          readDashes mode fuel level rest
      | text => some (level, text)

-- Behind `[`. A closing bracket stands for itself if it comes first.
def openClass (mode : Mode) (text : List Char) : Option (OpenClass × List Char) := do
  let text := mode.skip text
  let negated := text.head? == some '^'
  let text := if negated then text.drop 1 else text
  let (level, text) ← readDashes mode (text.length + 1) ⟨negated, none, []⟩ text
  match text with
  | ']' :: rest =>
      if level.items.isEmpty then do
        let level ← addCharacter mode level ']'
        if (mode.skip rest).isEmpty then none else some (level, rest)
      else some (level, text)
  | _ => some (level, text)

def readItem (mode : Mode) : List Char → Option (Atom × List Char)
  | [] => none
  | '\\' :: rest => readEscape mode rest
  | c :: rest => some (.character c false, rest)

def addItem (mode : Mode) (level : OpenClass) : Atom → Option OpenClass
  | .character c _ => addCharacter mode level c
  | .shorthand negated => if mode.allowsShorthand negated then some (level.add 0) else none
  | _ => none

def addRange (mode : Mode) (level : OpenClass) : Atom → Atom → Option OpenClass
  | .character low _, .character high _ =>
      if low ≤ high && mode.allowsInClass low && mode.allowsInClass high then some (level.add 0) else none
  | _, _ => none

def readRange (mode : Mode) (level : OpenClass) (text : List Char) : Option (OpenClass × List Char) := do
  let (low, rest) ← readItem mode text
  match mode.skip rest with
  | [] => none
  | '-' :: rest =>
      let next := mode.peek rest
      if next = some ']' ∨ next = some '-' then do
        let level ← addItem mode level low
        some (level, '-' :: rest)
      else do
        let (high, rest) ← readItem mode (mode.skip rest)
        let level ← addRange mode level low high
        some (level, rest)
  | rest => do
      let level ← addItem mode level low
      some (level, rest)

-- Reads to the end of the outermost class. Also says how deeply it is nested. What is left of bytes
-- by a negation is never text.
def readClass (mode : Mode) : Nat → List OpenClass → OpenClass → List Char → Option (Nat × List Char)
  | 0, _, _, _ => none
  | fuel + 1, outer, level, text =>
      match mode.skip text with
      | [] => none
      | '[' :: rest =>
          match namedClass? rest with
          | some (negated, rest) =>
              if mode.allowsNamed negated then readClass mode fuel outer (level.add 0) rest else none
          | none => do
              let (inner, rest) ← openClass mode rest
              readClass mode fuel (level :: outer) inner rest
      | ']' :: rest =>
          if level.negated && !mode.unicode then none
          else
            match outer with
            | [] => some (1 + level.depth, rest)
            | next :: outer => readClass mode fuel outer (next.add (1 + level.depth)) rest
      | '&' :: '&' :: rest => readClass mode fuel outer level.join rest
      | '-' :: '-' :: rest => readClass mode fuel outer level.join rest
      | '~' :: '~' :: rest => readClass mode fuel outer level.join rest
      | text => do
          let (level, rest) ← readRange mode level text
          readClass mode fuel outer level rest

end JsonRpc.Pattern
