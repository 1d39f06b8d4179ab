import JsonRpc.Text.Blank

set_option autoImplicit false

/- Patterns are regular expressions. A mode says how the rest of a pattern is read; it is changed by
flags such as `(?x)`. There are no tables of letters: where characters count as Unicode, neither case
nor the classes of digits, spaces and words can be asked for. -/

namespace JsonRpc.Pattern

-- `spaced` lets blank space and comments stand between the parts, `caseless` makes letters stand for
-- either case, and without `unicode` a pattern is about bytes.
structure Mode where
  spaced : Bool
  caseless : Bool
  unicode : Bool

def skipSpace (comment : Bool) : List Char → List Char
  | [] => []
  | c :: rest =>
      if comment then skipSpace (c != '\n') rest
      else if Text.isBlank c then skipSpace false rest
      else if c = '#' then skipSpace true rest
      else c :: rest

namespace Mode

def initial : Mode := ⟨false, false, true⟩

def skip (mode : Mode) (text : List Char) : List Char := if mode.spaced then skipSpace false text else text

def peek (mode : Mode) (text : List Char) : Option Char :=
  if mode.spaced then
    match text.dropWhile Text.isBlank with
    | '#' :: rest => (rest.dropWhile Text.isBlank).head?
    | rest => rest.head?
  else text.head?

-- `byte` holds for a character given as two hexadecimal digits. Bytes beyond ASCII are no text.
def allows (mode : Mode) (c : Char) (byte : Bool) : Bool :=
  if mode.unicode then !mode.caseless else !byte || c.toNat < 0x80

def allowsInClass (mode : Mode) (c : Char) : Bool :=
  if mode.unicode then !mode.caseless else c.toNat < 0x80

def allowsNamed (mode : Mode) (negated : Bool) : Bool := if mode.unicode then !mode.caseless else !negated

def allowsShorthand (mode : Mode) (negated : Bool) : Bool := !mode.unicode && !negated

def set (mode : Mode) (flag : Char) (on : Bool) : Mode :=
  match flag with
  | 'x' => { mode with spaced := on }
  | 'i' => { mode with caseless := on }
  | 'u' => { mode with unicode := on }
  | _ => mode

def setAll (on : Bool) (mode : Mode) : List Char → Mode
  | [] => mode
  | '-' :: rest => setAll false mode rest
  | flag :: rest => setAll on (mode.set flag on) rest

end Mode

def isFlag (c : Char) : Bool := ['i', 'm', 's', 'U', 'u', 'R', 'x', '-'].contains c

-- Flags up to a colon or a closing parenthesis, each once and none missing behind a dash.
def readFlags (found : List Char) : List Char → Option (List Char × Char × List Char)
  | [] => none
  | c :: rest =>
      if c = ':' ∨ c = ')' then if found.head? = some '-' then none else some (found.reverse, c, rest)
      else if isFlag c && !found.contains c then readFlags (c :: found) rest
      else none

end JsonRpc.Pattern
