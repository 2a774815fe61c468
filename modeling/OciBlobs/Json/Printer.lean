/-
# `Json.Printer` — documents as text

`Value.compact` writes without any blanks.  `Value.pretty` puts every item
and member on a line of its own, two blanks deeper than what holds it.
-/
import OciBlobs.Bytes
import OciBlobs.Json.Double
import OciBlobs.Json.Value

namespace OciBlobs.Json

def escapeChar (c : Char) : List Char :=
  if c = '"' then ['\\', '"']
  else if c = '\\' then ['\\', '\\']
  else if c.toNat = 8 then ['\\', 'b']
  else if c.toNat = 9 then ['\\', 't']
  else if c.toNat = 10 then ['\\', 'n']
  else if c.toNat = 12 then ['\\', 'f']
  else if c.toNat = 13 then ['\\', 'r']
  else if c.toNat < 32 then
    ['\\', 'u', '0', '0', Bytes.hexDigit (c.toNat / 16), Bytes.hexDigit (c.toNat % 16)]
  else [c]

def quoted (text : String) : List Char :=
  '"' :: (text.toList.flatMap escapeChar ++ ['"'])

def Number.render : Number → List Char
  | .natural n => (toString n).toList
  | .negative n => '-' :: (toString n).toList
  | .double x => Double.render x

mutual

/-- A document without blanks. -/
def Value.compact : Value → List Char
  | .null => ['n', 'u', 'l', 'l']
  | .boolean true => ['t', 'r', 'u', 'e']
  | .boolean false => ['f', 'a', 'l', 's', 'e']
  | .number n => n.render
  | .text s => quoted s
  | .list items => '[' :: (compactItems items ++ [']'])
  | .object members => '\x7b' :: (compactMembers members ++ ['\x7d'])

def compactItems : List Value → List Char
  | [] => []
  | [item] => item.compact
  | item :: rest => item.compact ++ ',' :: compactItems rest

def compactMembers : List (String × Value) → List Char
  | [] => []
  | [(key, value)] => quoted key ++ ':' :: value.compact
  | (key, value) :: rest => quoted key ++ ':' :: (value.compact ++ ',' :: compactMembers rest)

end

def newline (depth : Nat) : List Char :=
  '\n' :: List.replicate (2 * depth) ' '

mutual

/-- A document with a line for every item and member. -/
def Value.prettyAt (depth : Nat) : Value → List Char
  | .list [] => ['[', ']']
  | .list (item :: rest) =>
    '[' :: (prettyItems (depth + 1) (item :: rest) ++ newline depth ++ [']'])
  | .object [] => ['\x7b', '\x7d']
  | .object (member :: rest) =>
    '\x7b' :: (prettyMembers (depth + 1) (member :: rest) ++ newline depth ++ ['\x7d'])
  | .null => ['n', 'u', 'l', 'l']
  | .boolean true => ['t', 'r', 'u', 'e']
  | .boolean false => ['f', 'a', 'l', 's', 'e']
  | .number n => n.render
  | .text s => quoted s

def prettyItems (depth : Nat) : List Value → List Char
  | [] => []
  | [item] => newline depth ++ item.prettyAt depth
  | item :: rest => newline depth ++ item.prettyAt depth ++ ',' :: prettyItems depth rest

def prettyMembers (depth : Nat) : List (String × Value) → List Char
  | [] => []
  | [(key, value)] => newline depth ++ quoted key ++ ':' :: ' ' :: value.prettyAt depth
  | (key, value) :: rest =>
    newline depth ++ quoted key ++ ':' :: ' ' :: (value.prettyAt depth
      ++ ',' :: prettyMembers depth rest)

end

/-- A document with a line for every item and member, from the margin. -/
def Value.pretty (value : Value) : List Char :=
  value.prettyAt 0

end OciBlobs.Json
