-- SUMMARY: What a response carries: the proxy state of its request in front, then what the handler adds, which the wire can carry.
import Radius.Handler.Users
import Radius.Proofs.Dictionary.Built
import Radius.Proofs.Packet.Access
import Radius.Proofs.Packet.Grouping

/-!
# Responses

A handler starts a response with the proxy state of the request and adds attributes behind
it. Attributes of vendors join containers, and never reach into the proxy state, which
holds none. So every response is an `answer`: the proxy state unchanged, and what was added.
What a dictionary names can be added to a canonical list, up to its length, as long as the
type of containers is reserved in it.
-/

namespace Radius

/-! ## Adding to a list -/

namespace Packet

section

variable {vendor : UInt32} {attr : Attribute}

/-- Standard attributes in front are passed over in the search for a container. -/
theorem joinContainer_append (standards : List Attribute) (later : List PacketAttribute) :
    joinContainer vendor attr (standards.map .standard ++ later) =
      (joinContainer vendor attr later).map (standards.map .standard ++ ·) := by
  induction standards with
  | nil => simp
  | cons first standards ih =>
      rw [List.map_cons, List.cons_append, joinContainer, ih]
      cases joinContainer vendor attr later <;> rfl

/-- Standard attributes in front stay as they are. -/
theorem insertAttribute_append (standards : List Attribute) (later : List PacketAttribute) :
    insertAttribute attr (standards.map .standard ++ later) =
      standards.map .standard ++ insertAttribute attr later := by
  unfold insertAttribute
  cases attr.vendor with
  | none => simp
  | some vendor =>
      simp only [joinContainer_append]
      cases joinContainer vendor attr later <;> simp

end

/-- Standard attributes that are added stand one behind the other. -/
theorem foldl_addAttribute {attrs : List Attribute} (h : ∀ attr ∈ attrs, attr.vendor = none)
    (packet : Packet) :
    attrs.foldl addAttribute packet =
      { packet with attributes := packet.attributes ++ attrs.map .standard } := by
  induction attrs generalizing packet with
  | nil => simp
  | cons attr attrs ih =>
      rw [List.foldl_cons, ih (fun later hlater => h later (by simp [hlater]))]
      have hadded : insertAttribute attr packet.attributes =
          packet.attributes ++ [.standard attr] := by
        simp [insertAttribute, h attr (by simp)]
      simp [addAttribute, hadded]

end Packet

/-! ## What the wire can carry, but for its length -/

/-- An attribute that the wire can carry if it is not too long. -/
def PacketAttribute.WellFormed : PacketAttribute → Prop
  | .standard attr   => attr.vendor = none ∧ attr.type ≠ AttributeType.vendorSpecific
  | .container group => ∀ attr ∈ group.attributes, attr.vendor = some group.vendor

namespace PacketAttribute

theorem WellFormed.canonical {attr : PacketAttribute} (h : attr.WellFormed)
    (hlength : attr.encodedLength ≤ 255) : attr.Canonical := by
  cases attr with
  | standard attr =>
      have hvalue : 2 + attr.value.length ≤ 255 := hlength
      exact ⟨h.1, h.2, by omega⟩
  | container group => exact ⟨h, hlength⟩

theorem Canonical.wellFormed {attr : PacketAttribute} (h : attr.Canonical) : attr.WellFormed := by
  cases attr with
  | standard attr => exact ⟨h.1, h.2.1⟩
  | container group => exact h.1

end PacketAttribute

namespace Packet

/-- An attribute of a vendor, or of a type other than that of containers, can be added. -/
theorem insertAttribute_wellFormed {attr : Attribute} {attributes : List PacketAttribute}
    (h : ∀ present ∈ attributes, present.WellFormed)
    (hattr : attr.vendor = none → attr.type ≠ AttributeType.vendorSpecific) :
    ∀ present ∈ insertAttribute attr attributes, present.WellFormed := by
  have hadded := added_insertAttribute attr attributes
  generalize insertAttribute attr attributes = after at hadded
  cases hadded with
  | standard hvendor =>
      rw [List.forall_mem_append, List.forall_mem_singleton]
      exact ⟨h, hvendor, hattr hvendor⟩
  | opened hvendor hfull =>
      rw [List.forall_mem_append, List.forall_mem_singleton]
      refine ⟨h, fun sub hsub => ?_⟩
      rw [List.mem_singleton.mp hsub, hvendor]
  | joined htakes hfull =>
      rw [List.forall_mem_append, List.forall_mem_cons] at h ⊢
      obtain ⟨hfront, hgroup, hback⟩ := h
      refine ⟨hfront, fun sub hsub => ?_, hback⟩
      -- An attribute that joins a container becomes one of its vendor.
      rcases List.mem_append.mp hsub with hold | hnew
      · exact hgroup sub hold
      · rw [List.mem_singleton.mp hnew]
        rfl

/-! ## Answers -/

/-- The proxy state of a packet. -/
def proxyState (request : Packet) : List Attribute :=
  request.attributesOfType AttributeType.proxyState

/-- The response with this code that has these attributes behind the proxy state. -/
def answer (request : Packet) (code : Code) (added : List PacketAttribute) : Packet :=
  ⟨code, request.identifier, none, request.proxyState.map .standard ++ added⟩

section

variable {request : Packet}

theorem addAttribute_answer (code : Code) (added : List PacketAttribute) (attr : Attribute) :
    (request.answer code added).addAttribute attr =
      request.answer code (insertAttribute attr added) := by
  simp only [addAttribute, answer, insertAttribute_append]

variable (hcanonical : request.Canonical)
include hcanonical

theorem responseTo_eq (code : Code) : request.responseTo code = request.answer code [] := by
  have hstandard : ∀ attr ∈ request.proxyState, attr.vendor = none := fun attr hattr =>
    (hcanonical _ (mem_attributesOfType_iff.mp hattr).1).1
  rw [responseTo]
  refine (foldl_addAttribute hstandard _).trans ?_
  simp [answer, Packet.new]

theorem answer_canonical {code : Code} {added : List PacketAttribute}
    (hadded : ∀ attr ∈ added, attr.WellFormed) (hfits : (request.answer code added).Fits) :
    (request.answer code added).Canonical := by
  intro attr hattr
  refine PacketAttribute.WellFormed.canonical ?_ (hfits.2 attr hattr)
  rcases List.mem_append.mp hattr with hproxy | hmem
  · obtain ⟨state, hstate, rfl⟩ := List.mem_map.mp hproxy
    exact (hcanonical _ (mem_attributesOfType_iff.mp hstate).1).wellFormed
  · exact hadded attr hmem

end

end Packet

/-! ## What a handler adds -/

namespace Packet

/-- An attribute that a dictionary names is added as one that can be. -/
theorem addNamed_answer {dictionary : Dictionary} {request extended : Packet} {code : Code}
    {added : List PacketAttribute} {name value : String}
    (h : (request.answer code added).addNamed dictionary name value = .ok extended) :
    ∃ attr, extended = request.answer code (insertAttribute attr added) ∧
      (dictionary.ReservesContainer →
        attr.vendor = none → attr.type ≠ AttributeType.vendorSpecific) := by
  unfold addNamed at h
  split at h
  · cases h
  rename_i definition hdefinition
  split at h
  · cases h
  rename_i hkind
  obtain ⟨bytes, -, rfl⟩ := Except.map_eq_ok_iff.mp h
  refine ⟨_, addAttribute_answer code added _, fun hreserves hvendor htype => ?_⟩
  exact hkind (hreserves.byName? hdefinition hvendor htype)

end Packet

namespace Users

/-- The one attribute that a rejection adds. -/
def rejectionMessage : Attribute :=
  Attribute.ofText AttributeType.replyMessage "Authentication failed"

theorem rejection_eq {request : Packet} (hcanonical : request.Canonical) :
    rejection request = request.answer .accessReject [.standard rejectionMessage] := by
  rw [rejection, Packet.responseTo_eq hcanonical]
  exact Packet.addAttribute_answer .accessReject [] _

/-- Reply attributes are added behind what is there; with containers reserved, the wire can carry
them up to their length. -/
theorem addReplies_answer (dictionary : Dictionary) (userName : String) (request : Packet)
    (code : Code) (replies : List (String × String)) (added : List PacketAttribute) :
    ∃ added', (addReplies dictionary userName replies (request.answer code added)).1 =
        request.answer code added' ∧
      (dictionary.ReservesContainer → (∀ attr ∈ added, attr.WellFormed) →
        ∀ attr ∈ added', attr.WellFormed) := by
  induction replies generalizing added with
  | nil => exact ⟨added, rfl, fun _ h => h⟩
  | cons reply later ih =>
      obtain ⟨name, value⟩ := reply
      rw [addReplies]
      cases hadded : (request.answer code added).addNamed dictionary name value with
      | error fault => exact ih added
      | ok extended =>
          obtain ⟨attr, rfl, hattr⟩ := Packet.addNamed_answer hadded
          obtain ⟨added', heq, hadded'⟩ := ih (Packet.insertAttribute attr added)
          refine ⟨added', heq, fun hreserves hwell => hadded' hreserves ?_⟩
          exact Packet.insertAttribute_wellFormed hwell (hattr hreserves)

/-! ## What handling comes to -/

section

variable {hash : Hash} {users : Users} (dictionary : Dictionary) (remote : Endpoint)

theorem handle_of_unnamed {request : AccessRequest} (hname : request.packet.userName? = none) :
    (users.handle hash dictionary remote (.access request)).1 =
      .error (.missingAttribute "User-Name") := by
  simp only [handle, handleAccess, hname]

theorem handle_of_unproven {request : AccessRequest} (hcanonical : request.packet.Canonical)
    {userName : String} (hname : request.packet.userName? = some userName)
    (huser : users.authenticated? hash request userName = none) :
    (users.handle hash dictionary remote (.access request)).1 =
      .ok (some (.ofPacket
        (request.packet.answer .accessReject [.standard rejectionMessage]))) := by
  simp only [handle, handleAccess, hname, huser, rejection_eq hcanonical]

theorem handle_of_proven {request : AccessRequest} (hcanonical : request.packet.Canonical)
    {userName : String} (hname : request.packet.userName? = some userName) {user : User}
    (huser : users.authenticated? hash request userName = some user) :
    ∃ added, (users.handle hash dictionary remote (.access request)).1 =
        .ok (some (.ofPacket (request.packet.answer .accessAccept added))) ∧
      (dictionary.ReservesContainer → ∀ attr ∈ added, attr.WellFormed) := by
  obtain ⟨added, hadded, hwell⟩ :=
    addReplies_answer dictionary userName request.packet .accessAccept user.reply []
  refine ⟨added, ?_, fun hreserves => hwell hreserves (by simp)⟩
  simp only [handle, handleAccess, hname, huser, Packet.responseTo_eq hcanonical, hadded]

theorem handle_accounting {packet : Packet} (hcanonical : packet.Canonical) :
    (users.handle hash dictionary remote (.accounting packet)).1 =
      .ok (some (.ofPacket (packet.answer .accountingResponse []))) := by
  simp only [handle, Packet.responseTo_eq hcanonical]

end

end Users
end Radius
