import SmsGateway.Url.Host

namespace SmsGateway.Startup

def isNumber (s : List Char) : Bool :=
  s != [] && s.all Char.isDigit

/-- Whether a text is eight groups, which may have the number of a zone behind them. -/
def isZonedGroups (s : List Char) : Bool :=
  let groups := s.takeWhile (· != '%')
  let zone := s.drop groups.length
  Url.isEightGroups groups &&
    (zone == [] || (isNumber zone.tail && decide ((Url.valueIn? 10 zone.tail).getD 0 < 4294967296)))

def isHost (s : List Char) : Bool :=
  match s with
  | '[' :: rest => rest.getLast? == some ']' && isZonedGroups rest.dropLast
  | _ => Url.isTrailingOctets s

def address? (host : String) (port : UInt16) : Option String :=
  if isHost host.toList then some s!"{host}:{port}" else none

end SmsGateway.Startup
