import JsonRpc.Pattern.Mode
import JsonRpc.Text.Hex

set_option autoImplicit false

namespace JsonRpc.Pattern

inductive Atom where
  | character (c : Char) (byte : Bool)
  | any
  | shorthand (negated : Bool)
  | edge
  | wordEdge

def readHex (mode : Mode) (value : Nat) : Nat → List Char → Option (Nat × List Char)
  | 0, text => some (value, text)
  | digits + 1, text =>
      match mode.skip text with
      | [] => none
      | c :: rest => (Text.hexValue? c).bind fun digit => readHex mode (value * 16 + digit) digits rest

def readCode (mode : Mode) (digits : Nat) (byte : Bool) (text : List Char) : Option (Atom × List Char) :=
  (readHex mode 0 digits text).bind fun (value, rest) =>
    if value.isValidChar then some (.character (.ofNat value) byte, rest) else none

def controlEscapes : List (Char × Char) :=
  [('a', '\x07'), ('f', '\x0c'), ('t', '\t'), ('n', '\n'), ('r', '\r'), ('v', '\x0b')]

def isPlainEscape (c : Char) : Bool := c.toNat < 0x80 && !c.isAlphanum && c != '<' && c != '>'

def namedEscape? (c : Char) : Option Atom :=
  if c = 'A' ∨ c = 'z' then some .edge
  else if ['b', 'B', '<', '>'].contains c then some .wordEdge
  else if ['d', 's', 'w'].contains c then some (.shorthand false)
  else if ['D', 'S', 'W'].contains c then some (.shorthand true)
  else (controlEscapes.lookup c).map fun meant => .character meant false

-- What follows a backslash. There are no references to groups and no Unicode properties.
def readEscape (mode : Mode) : List Char → Option (Atom × List Char)
  | [] => none
  | 'x' :: rest => readCode mode 2 true rest
  | 'u' :: rest => readCode mode 4 false rest
  | 'U' :: rest => readCode mode 8 false rest
  | c :: rest =>
      if isPlainEscape c then some (.character c false, rest)
      else (namedEscape? c).map fun atom => (atom, rest)

def Atom.isAllowed (mode : Mode) : Atom → Bool
  | .character c byte => mode.allows c byte
  | .any => mode.unicode
  | .shorthand negated => mode.allowsShorthand negated
  | .edge => true
  | .wordEdge => !mode.unicode

end JsonRpc.Pattern
