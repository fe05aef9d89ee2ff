import CobolCompanion.Uri.Address
import CobolCompanion.Uri.Domain.Name
import CobolCompanion.Uri.Encoding

namespace CobolCompanion.Uri

inductive Fault where
  /-- It has no scheme. -/
  | relative
  | emptyHost
  /-- Its host is no name of a domain. -/
  | badDomain
  /-- Its host has a character that no host may have. -/
  | badHost
  | badShortAddress
  | badLongAddress
  | badService
  deriving DecidableEq

def Fault.message : Fault → String
  | relative => "relative URL without a base"
  | emptyHost => "empty host"
  | badDomain => "invalid international domain name"
  | badHost => "invalid domain character"
  | badShortAddress => "invalid IPv4 address"
  | badLongAddress => "invalid IPv6 address"
  | badService => "invalid port number"

inductive Host where
  | name (text : List Char)
  | short (address : Nat)
  | long (groups : List Nat)
  deriving DecidableEq

namespace Host

def text : Host → List Char
  | name text => text
  | short address => Address.shortText address
  | long groups => ['['] ++ Address.longText groups ++ [']']

def bracketed (text : List Char) : Except Fault Host :=
  if text.getLast? = some ']' then
    (Address.long? text.dropLast).elim (.error .badLongAddress) fun groups => .ok (long groups)
  else .error .badLongAddress

def known : List Char → Except Fault Host
  | '[' :: rest => bracketed rest
  | text =>
    match (decoded? text).bind Domain.name? with
    | none => .error .badDomain
    | some domain =>
      if domain.isEmpty then .error .emptyHost
      else if Address.endsInNumber domain then
        (Address.short? domain).elim (.error .badShortAddress) fun address =>
          .ok (short address)
      else .ok (name domain)

def isForbidden (c : Char) : Bool :=
  ['\x00', '\t', '\n', '\r', ' ', '#', '/', ':', '<', '>', '?', '@', '[', '\\', ']',
    '^', '|'].contains
    c

/-- The host of any other scheme. It is kept as it is, and it may be empty. -/
def other : List Char → Except Fault Host
  | '[' :: rest => bracketed rest
  | text => if text.any isForbidden then .error .badHost else .ok (name (encode isControl text))

end Host

end CobolCompanion.Uri
