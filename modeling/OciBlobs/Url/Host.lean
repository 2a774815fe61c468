/-
# `Url.Host` — what a URL points to

Hosts of special schemes are domains or addresses.  They are decoded, and a
domain, in whatever characters it is written, comes down to one name in ASCII: each
character is replaced by those that it stands for, all of them are put in their
composed form, and labels beyond ASCII are written with `xn--` (`toAscii?`).  There
are no rules for hyphens and no limits for the length of a name in all, and what is
left in ASCII is checked only against the characters that no domain has.  Hosts of
other schemes are kept as they are written.
-/
import OciBlobs.Url.Host.Direction
import OciBlobs.Url.Host.Ipv6
import OciBlobs.Url.Host.Label
import OciBlobs.Url.Host.Mapping

namespace OciBlobs.Url

inductive Host
  /-- A domain of a special scheme. -/
  | domain (name : List Char)
  | ipv4 (address : Nat)
  | ipv6 (pieces : List Nat)
  /-- A host of another scheme, encoded and otherwise as written. -/
  | verbatim (text : List Char)
deriving DecidableEq, Repr

namespace Host

def render : Host → List Char
  | .domain name => name
  | .ipv4 address => Ipv4.render address
  | .ipv6 pieces => '[' :: (Ipv6.render pieces ++ [']'])
  | .verbatim text => text

/-- Characters that no domain has. -/
def forbiddenInDomain (c : Char) : Bool :=
  c.toNat ≤ 0x20 || 0x7F ≤ c.toNat || ['%', '#', '/', ':', '<', '>', '?', '@', '[', '\\', ']',
    '^', '|'].contains c

/-- Characters that no host has as it is. -/
def forbiddenVerbatim (c : Char) : Bool :=
  [Char.ofNat 0, '\t', '\n', '\r', ' ', '#', '/', ':', '<', '>', '?', '@', '[', '\\', ']', '^',
    '|'].contains c

/-- Whether the labels of a domain can be read and go together. -/
def isInternational (name : List Char) : Bool :=
  ((Text.cutAt '.' name).mapM Label.read?).any Direction.agree

/-- The name of a domain in ASCII, if it is one. -/
def toAscii? (text : List Char) : Option (List Char) := do
  let name := Composed.compose (← text.mapM Mapping.of?).flatten
  if isInternational name then
    some (List.intercalate ['.'] ((Text.cutAt '.' name).map Label.written))
  else none

def bracketed (text : List Char) : Except Fault Host :=
  if text.getLast? = some ']' then
    match Ipv6.parse? (text.drop 1).dropLast with
    | some pieces => .ok (.ipv6 pieces)
    | none => .error .invalidIpv6
  else .error .invalidIpv6

/-- The host that a name in ASCII is of. -/
def ofName (name : List Char) : Except Fault Host :=
  if name.any forbiddenInDomain then .error .invalidDomain
  else if name.isEmpty then .error .emptyHost
  else if Ipv4.endsInNumber name then
    match Ipv4.parse? name with
    | some address => .ok (.ipv4 address)
    | none => .error .invalidIpv4
  else .ok (.domain name)

/-- The host of a special scheme. -/
def parse (text : List Char) : Except Fault Host :=
  if text.head? = some '[' then bracketed text
  else
    match (Utf8.decode? (decode text)).bind toAscii? with
    | none => .error .invalidDomain
    | some name => ofName name

/-- The host of another scheme; an empty one is none. -/
def parseVerbatim (text : List Char) : Except Fault (Option Host) :=
  if text.isEmpty then .ok none
  else if text.head? = some '[' then some <$> bracketed text
  else if text.any forbiddenVerbatim then .error .invalidHostCharacter
  else .ok (some (.verbatim (encode isControl text)))

end Host

end OciBlobs.Url
