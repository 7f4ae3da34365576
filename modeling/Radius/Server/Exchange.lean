-- SUMMARY: Datagrams as lines of text: an endpoint and octets in hexadecimal.
import Radius.Address.Printer
import Radius.Address.Reader

/-!
# Datagrams as text

A server that is not tied to a network exchanges datagrams as lines: the endpoint at
the other side, a space, and the octets in hexadecimal.
-/

namespace Radius.Exchange

/-- The line of a datagram. -/
def line (remote : Endpoint) (datagram : Bytes) : String :=
  s!"{remote.toText} {Hex.encode datagram}"

/-- The datagram of a line. -/
def parse? (line : String) : Option (Endpoint × Bytes) :=
  let chars := line.toList
  match Endpoint.parse? (String.ofList (chars.takeWhile (· ≠ ' '))),
      Hex.decode? (String.ofList ((chars.dropWhile (· ≠ ' ')).drop 1)) with
  | some remote, some datagram => some (remote, datagram)
  | _,           _             => none

end Radius.Exchange
