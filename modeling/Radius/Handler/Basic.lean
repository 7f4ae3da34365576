-- SUMMARY: Responses to requests, and how handling a request can fail.
import Radius.Packet.Message

/-!
# Handling requests

A handler turns a decoded request into an unsigned response, into no response, or into
an error. A response has the identifier of its request and begins with the
Proxy-State attributes of the request, unchanged and in order.
-/

namespace Radius

inductive HandlerError where
  | packet (error : PacketError)
  /-- A failure of the system underneath, in its own words. -/
  | io (reason : String)
  | missingAttribute (name : String)
deriving DecidableEq, Repr

def HandlerError.message : HandlerError → String
  | .packet error          => s!"Packet error: {error.message}"
  | .io reason             => s!"IO error: {reason}"
  | .missingAttribute name => s!"Missing attribute: {name}"

/-- What handling a request comes to; without a message nothing is sent back. -/
abbrev Handled := Except HandlerError (Option Message)

/-- A response to a packet with the proxy state it must carry. -/
def Packet.responseTo (request : Packet) (code : Code) : Packet :=
  (request.attributesOfType AttributeType.proxyState).foldl Packet.addAttribute
    (Packet.new code request.identifier)

end Radius
