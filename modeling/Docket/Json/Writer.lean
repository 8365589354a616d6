import Docket.Json
import Docket.Double.Shortest

/-!
# The text of a value

The compact text of a JSON value: no spaces, the fields of an object in the order of their names,
texts with the short escapes and `\u00xx` for the other controls, integers in decimal and
floating-point numbers by their shortest numeral.
-/

namespace Docket

namespace Json

def hexDigit (n : Nat) : Char := (Nat.digitChar n)

/-- A character between the quotes of a text. -/
def escapeChar (c : Char) : List Char :=
  if c = '"' then ['\\', '"']
  else if c = '\\' then ['\\', '\\']
  else if c = '\n' then ['\\', 'n']
  else if c = '\r' then ['\\', 'r']
  else if c = '\t' then ['\\', 't']
  else if c = '\x08' then ['\\', 'b']
  else if c = '\x0c' then ['\\', 'f']
  else if c.toNat < 0x20 then
    ['\\', 'u', '0', '0', hexDigit (c.toNat / 16), hexDigit (c.toNat % 16)]
  else [c]

def quote (s : String) : String := String.ofList ('"' :: (s.toList.flatMap escapeChar ++ ['"']))

end Json

def Number.write : Number → String
  | .int i => toString i
  | .float x => Double.Layout.json.write x

namespace Json

mutual

/-- The compact text of a value. -/
def write : Json → String
  | .null => "null"
  | .bool true => "true"
  | .bool false => "false"
  | .num n => n.write
  | .str s => quote s
  | .arr items => "[" ++ writeItems items ++ "]"
  | .obj fields => "\x7b" ++ writeFields fields ++ "\x7d"

def writeItems : List Json → String
  | [] => ""
  | [x] => write x
  | x :: rest => write x ++ "," ++ writeItems rest

def writeFields : Fields → String
  | [] => ""
  | [(k, v)] => quote k ++ ":" ++ write v
  | (k, v) :: rest => quote k ++ ":" ++ write v ++ "," ++ writeFields rest

end

end Json
end Docket
