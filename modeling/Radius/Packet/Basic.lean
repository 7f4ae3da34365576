-- SUMMARY: Packets and their attributes: appending, removing and finding them, by type and by dictionary name.
import Radius.Attribute.Basic
import Radius.Dictionary.Basic
import Radius.Packet.Code

/-!
# Packets

A packet is a code, an identifier, an authenticator once it has one, and attributes in
order. Vendor attributes that are added share containers: each joins the last container
of its vendor that has room for it, and a new container starts only when none has.
-/

namespace Radius

structure Packet where
  code : Code
  identifier : UInt8
  /-- None until the packet is encoded for sending; a packet off the wire has one. -/
  authenticator : Option Block
  attributes : List PacketAttribute
deriving DecidableEq, Repr

namespace Packet

def new (code : Code) (identifier : UInt8) : Packet := ⟨code, identifier, none, []⟩

def withAuthenticator (packet : Packet) (authenticator : Block) : Packet :=
  { packet with authenticator := some authenticator }

/-! ## Adding and removing -/

/-- Put a vendor's attribute into the last container that is the vendor's and has room. -/
def joinContainer (vendor : UInt32) (attr : Attribute) :
    List PacketAttribute → Option (List PacketAttribute)
  | [] => none
  | first :: later =>
      match joinContainer vendor attr later with
      | some later' => some (first :: later')
      | none =>
          match first with
          | .standard _ => none
          | .container group =>
              if group.vendor = vendor ∧ group.hasRoom attr.encodedLength then
                some (.container (group.add attr) :: later)
              else none

/-- An attribute list with one attribute more. -/
def insertAttribute (attr : Attribute) (attributes : List PacketAttribute) :
    List PacketAttribute :=
  match attr.vendor with
  | none => attributes ++ [.standard attr]
  | some vendor =>
      (joinContainer vendor attr attributes).getD (attributes ++ [PacketAttribute.ofAttribute attr])

def addAttribute (packet : Packet) (attr : Attribute) : Packet :=
  { packet with attributes := insertAttribute attr packet.attributes }

/-- Append a container as it is. -/
def addContainer (packet : Packet) (container : Container) : Packet :=
  { packet with attributes := packet.attributes ++ [.container container] }

/-- Remove the attributes of a type; containers have the type of containers. -/
def removeAttributes (packet : Packet) (type : UInt8) : Packet :=
  { packet with attributes := packet.attributes.filter (·.type ≠ type) }

/-! ## Finding -/

/-- The standard attributes of a type, in order. -/
def attributesOfType (packet : Packet) (type : UInt8) : List Attribute :=
  packet.attributes.filterMap (fun
    | .standard attr => if attr.type = type then some attr else none
    | .container _   => none)

/-- The attributes of a vendor from all its containers, in order. -/
def vendorAttributes (packet : Packet) (vendor : UInt32) : List Attribute :=
  packet.attributes.flatMap (fun
    | .standard _      => []
    | .container group => if group.vendor = vendor then group.attributes else [])

/-- The first standard attribute of a type. -/
def attribute? (packet : Packet) (type : UInt8) : Option Attribute :=
  (packet.attributesOfType type).head?

/-- The first attribute of a vendor, or the first standard one, with a type. -/
def find? (packet : Packet) (vendor : Option UInt32) (type : UInt8) : Option Attribute :=
  match vendor with
  | none        => packet.attribute? type
  | some vendor => (packet.vendorAttributes vendor).find? (·.type = type)

/-- The text of the first standard attribute of a type, if it is UTF-8. -/
def text? (packet : Packet) (type : UInt8) : Option String :=
  (packet.attribute? type).bind (fun attr => (Kind.decodeText attr.value).toOption)

def userName? (packet : Packet) : Option String := packet.text? AttributeType.userName

/-! ## By name -/

/-- Append an attribute that a dictionary names, with the value that a text writes. -/
def addNamed (dictionary : Dictionary) (packet : Packet) (name value : String) :
    Except PacketError Packet :=
  match dictionary.byName? name with
  | none => .error (.unknownAttribute name)
  | some definition =>
      if definition.kind = .vendorSpecific then .error (.invalidValue (.container name))
      else
        (definition.parseValue value).map (fun bytes =>
          packet.addAttribute ⟨definition.vendor, definition.code, bytes⟩)

/-- The first attribute with a dictionary name. -/
def named? (dictionary : Dictionary) (packet : Packet) (name : String) : Option Attribute :=
  (dictionary.byName? name).bind (fun definition => packet.find? definition.vendor definition.code)

/-- The text of the first attribute with a dictionary name. -/
def valueOf? (dictionary : Dictionary) (packet : Packet) (name : String) : Option String :=
  (dictionary.byName? name).bind (fun definition =>
    (packet.find? definition.vendor definition.code).map (fun attr =>
      definition.formatValue attr.value))

end Packet

/-! ## Attributes read through a dictionary -/

namespace Attribute

/-- The definition of the attribute. -/
def definition? (dictionary : Dictionary) (attr : Attribute) : Option AttributeDefinition :=
  dictionary.byCode? attr.vendor attr.type

/-- The typed value; an attribute without a definition holds octets. -/
def valueIn (dictionary : Dictionary) (attr : Attribute) : Except PacketError Value :=
  match attr.definition? dictionary with
  | some definition => definition.kind.decode attr.value
  | none            => .ok (.octets attr.value)

end Attribute
end Radius
