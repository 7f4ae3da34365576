-- SUMMARY: The built-in dictionary: the standard attributes and those of three vendors.
import Radius.Dictionary.Load

/-!
# The built-in dictionary

Two embedded resources, of which the first includes the second. They define the
standard attributes and labels of access, accounting and IPv6, and the attributes of
three vendors.
-/

namespace Radius.Builtin

/-! ## The resources -/

/-- The resource `radius.dict`, line by line. -/
def standardLines : List String :=
  [
    "#",
    "# Standard RADIUS attributes (RFC 2865, RFC 2866, RFC 2869, RFC 3162)",
    "#",
    "# Format:",
    "#   ATTRIBUTE  <name>  <code>  <type>",
    "#   VALUE      <attribute>  <label>  <integer>",
    "#   $INCLUDE   <relative resource>",
    "#",
    "# Types: string, integer, date, ipaddr, ipv6addr, ipv6prefix, octets",
    "#",
    "",
    "ATTRIBUTE\tUser-Name\t\t1\tstring",
    "ATTRIBUTE\tUser-Password\t\t2\toctets",
    "ATTRIBUTE\tCHAP-Password\t\t3\toctets",
    "ATTRIBUTE\tNAS-IP-Address\t\t4\tipaddr",
    "ATTRIBUTE\tNAS-Port\t\t5\tinteger",
    "ATTRIBUTE\tService-Type\t\t6\tinteger",
    "ATTRIBUTE\tFramed-Protocol\t\t7\tinteger",
    "ATTRIBUTE\tFramed-IP-Address\t8\tipaddr",
    "ATTRIBUTE\tFramed-IP-Netmask\t9\tipaddr",
    "ATTRIBUTE\tFramed-Routing\t\t10\tinteger",
    "ATTRIBUTE\tFilter-Id\t\t11\tstring",
    "ATTRIBUTE\tFramed-MTU\t\t12\tinteger",
    "ATTRIBUTE\tFramed-Compression\t13\tinteger",
    "ATTRIBUTE\tLogin-IP-Host\t\t14\tipaddr",
    "ATTRIBUTE\tLogin-Service\t\t15\tinteger",
    "ATTRIBUTE\tLogin-TCP-Port\t\t16\tinteger",
    "ATTRIBUTE\tReply-Message\t\t18\tstring",
    "ATTRIBUTE\tCallback-Number\t\t19\tstring",
    "ATTRIBUTE\tCallback-Id\t\t20\tstring",
    "ATTRIBUTE\tFramed-Route\t\t22\tstring",
    "ATTRIBUTE\tFramed-IPX-Network\t23\tipaddr",
    "ATTRIBUTE\tState\t\t\t24\toctets",
    "ATTRIBUTE\tClass\t\t\t25\toctets",
    "ATTRIBUTE\tVendor-Specific\t\t26\toctets",
    "ATTRIBUTE\tSession-Timeout\t\t27\tinteger",
    "ATTRIBUTE\tIdle-Timeout\t\t28\tinteger",
    "ATTRIBUTE\tTermination-Action\t29\tinteger",
    "ATTRIBUTE\tCalled-Station-Id\t30\tstring",
    "ATTRIBUTE\tCalling-Station-Id\t31\tstring",
    "ATTRIBUTE\tNAS-Identifier\t\t32\tstring",
    "ATTRIBUTE\tProxy-State\t\t33\toctets",
    "ATTRIBUTE\tLogin-LAT-Service\t34\tstring",
    "ATTRIBUTE\tLogin-LAT-Node\t\t35\tstring",
    "ATTRIBUTE\tLogin-LAT-Group\t\t36\toctets",
    "ATTRIBUTE\tFramed-AppleTalk-Link\t37\tinteger",
    "ATTRIBUTE\tFramed-AppleTalk-Network 38\tinteger",
    "ATTRIBUTE\tFramed-AppleTalk-Zone\t39\tstring",
    "",
    "ATTRIBUTE\tAcct-Status-Type\t40\tinteger",
    "ATTRIBUTE\tAcct-Delay-Time\t\t41\tinteger",
    "ATTRIBUTE\tAcct-Input-Octets\t42\tinteger",
    "ATTRIBUTE\tAcct-Output-Octets\t43\tinteger",
    "ATTRIBUTE\tAcct-Session-Id\t\t44\tstring",
    "ATTRIBUTE\tAcct-Authentic\t\t45\tinteger",
    "ATTRIBUTE\tAcct-Session-Time\t46\tinteger",
    "ATTRIBUTE\tAcct-Input-Packets\t47\tinteger",
    "ATTRIBUTE\tAcct-Output-Packets\t48\tinteger",
    "ATTRIBUTE\tAcct-Terminate-Cause\t49\tinteger",
    "ATTRIBUTE\tAcct-Multi-Session-Id\t50\tstring",
    "ATTRIBUTE\tAcct-Link-Count\t\t51\tinteger",
    "ATTRIBUTE\tAcct-Input-Gigawords\t52\tinteger",
    "ATTRIBUTE\tAcct-Output-Gigawords\t53\tinteger",
    "ATTRIBUTE\tEvent-Timestamp\t\t55\tdate",
    "",
    "ATTRIBUTE\tCHAP-Challenge\t\t60\toctets",
    "ATTRIBUTE\tNAS-Port-Type\t\t61\tinteger",
    "ATTRIBUTE\tPort-Limit\t\t62\tinteger",
    "ATTRIBUTE\tLogin-LAT-Port\t\t63\tstring",
    "ATTRIBUTE\tConnect-Info\t\t77\tstring",
    "ATTRIBUTE\tEAP-Message\t\t79\toctets",
    "ATTRIBUTE\tMessage-Authenticator\t80\toctets",
    "ATTRIBUTE\tNAS-Port-Id\t\t87\tstring",
    "",
    "ATTRIBUTE\tNAS-IPv6-Address\t95\tipv6addr",
    "ATTRIBUTE\tFramed-Interface-Id\t96\toctets",
    "ATTRIBUTE\tFramed-IPv6-Prefix\t97\tipv6prefix",
    "ATTRIBUTE\tLogin-IPv6-Host\t\t98\tipv6addr",
    "ATTRIBUTE\tFramed-IPv6-Route\t99\tstring",
    "ATTRIBUTE\tFramed-IPv6-Pool\t100\tstring",
    "",
    "VALUE\tService-Type\t\tLogin-User\t\t1",
    "VALUE\tService-Type\t\tFramed-User\t\t2",
    "VALUE\tService-Type\t\tCallback-Login-User\t3",
    "VALUE\tService-Type\t\tCallback-Framed-User\t4",
    "VALUE\tService-Type\t\tOutbound-User\t\t5",
    "VALUE\tService-Type\t\tAdministrative-User\t6",
    "VALUE\tService-Type\t\tNAS-Prompt-User\t\t7",
    "VALUE\tService-Type\t\tAuthenticate-Only\t8",
    "VALUE\tService-Type\t\tCall-Check\t\t10",
    "",
    "VALUE\tFramed-Protocol\t\tPPP\t\t\t1",
    "VALUE\tFramed-Protocol\t\tSLIP\t\t\t2",
    "",
    "VALUE\tTermination-Action\tDefault\t\t\t0",
    "VALUE\tTermination-Action\tRADIUS-Request\t\t1",
    "",
    "VALUE\tAcct-Status-Type\tStart\t\t\t1",
    "VALUE\tAcct-Status-Type\tStop\t\t\t2",
    "VALUE\tAcct-Status-Type\tInterim-Update\t\t3",
    "VALUE\tAcct-Status-Type\tAccounting-On\t\t7",
    "VALUE\tAcct-Status-Type\tAccounting-Off\t\t8",
    "",
    "VALUE\tAcct-Authentic\t\tRADIUS\t\t\t1",
    "VALUE\tAcct-Authentic\t\tLocal\t\t\t2",
    "VALUE\tAcct-Authentic\t\tRemote\t\t\t3",
    "",
    "VALUE\tAcct-Terminate-Cause\tUser-Request\t\t1",
    "VALUE\tAcct-Terminate-Cause\tLost-Carrier\t\t2",
    "VALUE\tAcct-Terminate-Cause\tLost-Service\t\t3",
    "VALUE\tAcct-Terminate-Cause\tIdle-Timeout\t\t4",
    "VALUE\tAcct-Terminate-Cause\tSession-Timeout\t\t5",
    "VALUE\tAcct-Terminate-Cause\tAdmin-Reset\t\t6",
    "VALUE\tAcct-Terminate-Cause\tAdmin-Reboot\t\t7",
    "VALUE\tAcct-Terminate-Cause\tPort-Error\t\t8",
    "VALUE\tAcct-Terminate-Cause\tNAS-Error\t\t9",
    "VALUE\tAcct-Terminate-Cause\tNAS-Request\t\t10",
    "",
    "VALUE\tNAS-Port-Type\t\tAsync\t\t\t0",
    "VALUE\tNAS-Port-Type\t\tSync\t\t\t1",
    "VALUE\tNAS-Port-Type\t\tISDN\t\t\t2",
    "VALUE\tNAS-Port-Type\t\tVirtual\t\t\t5",
    "VALUE\tNAS-Port-Type\t\tEthernet\t\t15",
    "VALUE\tNAS-Port-Type\t\tWireless-802.11\t\t19",
    "",
    "$INCLUDE vendors.dict" ]

/-- The resource `vendors.dict`, line by line. -/
def vendorLines : List String :=
  [
    "#",
    "# Vendor-specific attributes",
    "#",
    "# Format:",
    "#   VENDOR      <vendor id>  <name>",
    "#   VENDORATTR  <vendor id>  <name>  <code>  <type>",
    "#",
    "",
    "VENDOR\t\t9\tCisco",
    "VENDORATTR\t9\tCisco-AVPair\t\t\t1\tstring",
    "VENDORATTR\t9\tCisco-NAS-Port\t\t\t2\tstring",
    "",
    "VENDOR\t\t311\tMicrosoft",
    "VENDORATTR\t311\tMS-CHAP-Response\t\t1\toctets",
    "VENDORATTR\t311\tMS-CHAP-Error\t\t\t2\tstring",
    "VENDORATTR\t311\tMS-CHAP-Domain\t\t\t10\tstring",
    "VENDORATTR\t311\tMS-CHAP-Challenge\t\t11\toctets",
    "VENDORATTR\t311\tMS-MPPE-Send-Key\t\t16\toctets",
    "VENDORATTR\t311\tMS-MPPE-Recv-Key\t\t17\toctets",
    "VENDORATTR\t311\tMS-Primary-DNS-Server\t\t28\tipaddr",
    "VENDORATTR\t311\tMS-Secondary-DNS-Server\t\t29\tipaddr",
    "",
    "VENDOR\t\t14122\tWISPr",
    "VENDORATTR\t14122\tWISPr-Location-ID\t\t1\tstring",
    "VENDORATTR\t14122\tWISPr-Location-Name\t\t2\tstring",
    "VENDORATTR\t14122\tWISPr-Logoff-URL\t\t3\tstring",
    "VENDORATTR\t14122\tWISPr-Redirection-URL\t\t4\tstring",
    "VENDORATTR\t14122\tWISPr-Bandwidth-Min-Up\t\t5\tinteger",
    "VENDORATTR\t14122\tWISPr-Bandwidth-Min-Down\t6\tinteger",
    "VENDORATTR\t14122\tWISPr-Bandwidth-Max-Up\t\t7\tinteger",
    "VENDORATTR\t14122\tWISPr-Bandwidth-Max-Down\t8\tinteger",
    "VENDORATTR\t14122\tWISPr-Session-Terminate-Time\t9\tstring" ]

/-- Lines, each with its line feed. -/
def textOf (lines : List String) : String := String.join (lines.map (· ++ "\n"))

/-- The embedded resources of the built-in dictionary. -/
def resources : Resources :=
  Table.ofList [("radius.dict", textOf standardLines), ("vendors.dict", textOf vendorLines)]

/-- The resource to read first. -/
def entry : String := "radius.dict"

end Radius.Builtin

namespace Radius

/-- Loading the built-in resources. -/
def Loading.builtin : Loading :=
  match Dictionary.empty.load Builtin.resources.source Builtin.entry with
  | .ok loading => loading
  | .error _    => ⟨Dictionary.empty, []⟩

/-- The dictionary that the built-in resources make. -/
def Dictionary.builtin : Dictionary := Loading.builtin.dictionary

end Radius
