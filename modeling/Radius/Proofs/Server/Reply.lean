-- SUMMARY: Every reply that a server sends verifies at its client, and says what the handler made of the request.
import Radius.Proofs.Dedup.History
import Radius.Proofs.Handler.Users
import Radius.Server.Run

/-!
# Replies

A server concludes a datagram unless it remembers a request with the same key. What it
concludes depends on the request in the datagram alone: the handler builds a response to it,
and the response is sent unless it is too long for the wire. The handler answers the requests
that are `Answerable`, and whatever reply attributes it adds, the client that sent the request
accepts the reply and reads back what the handler built. In a run, every reply that is sent
concludes a datagram that came in.
-/

namespace Radius

/-! ## Receiving -/

theorem Frame.ofBytes_take_maxLength {datagram : Bytes} {frame : Frame}
    (h : Frame.ofBytes datagram = .ok frame) :
    Frame.ofBytes (datagram.take Packet.maxLength) = .ok frame := by
  rw [ofBytes_eq_ok_iff] at h ⊢
  obtain ⟨hcanonical, hlength, hbytes, hstarts⟩ := h
  refine ⟨hcanonical, hlength, hbytes, ?_⟩
  rw [List.prefix_take_iff, hbytes, Packet.length_octets]
  exact ⟨hbytes ▸ hstarts, hlength⟩

/-- No request reaches behind the part of a datagram that is read. -/
theorem Message.ofRequestDatagram_take {hash : Hash} {datagram secret : Bytes} {request : Message} :
    ofRequestDatagram hash (datagram.take Server.readLength) secret = .ok request ↔
      ofRequestDatagram hash datagram secret = .ok request := by
  rw [ofRequestDatagram_eq_ok_iff, ofRequestDatagram_eq_ok_iff]
  constructor
  · rintro ⟨frame, hframe, haccepted⟩
    have hwhole := Frame.ofBytes_append hframe (datagram.drop Server.readLength)
    rw [List.take_append_drop] at hwhole
    exact ⟨frame, hwhole, haccepted⟩
  · rintro ⟨frame, hframe, haccepted⟩
    exact ⟨frame, Frame.ofBytes_take_maxLength hframe, haccepted⟩

/-- A server receives the requests that decode under the secret of their sender. -/
theorem Server.receive_eq_ok_iff {hash : Hash} {server : Server} {remote : Endpoint}
    {datagram : Bytes} {received : Received} :
    server.receive hash remote datagram = .ok received ↔
      server.secretOf? remote.ip = some received.secret ∧
        Message.ofRequestDatagram hash datagram received.secret = .ok received.request ∧
        received.remote = remote := by
  rw [← Message.ofRequestDatagram_take]
  unfold receive
  cases server.secretOf? remote.ip with
  | none => simp
  | some secret =>
      simp only [Option.some.injEq]
      cases received with
      | mk remote' secret' request' =>
          constructor
          · intro h
            split at h
            · rename_i hrequest
              cases h
              exact ⟨rfl, hrequest, rfl⟩
            · cases h
          · rintro ⟨rfl, hrequest, rfl⟩
            simp only [hrequest]

/-! ## Answering -/

/-- The frame holds a request that gets a response: an Access-Request whose first User-Name is
text, or an Accounting-Request. -/
def Frame.Answerable (frame : Frame) : Prop :=
  frame.code = 1 ∧ (∃ name, frame.packet.HasText AttributeType.userName name) ∨ frame.code = 4

/-- What a response to the request in a frame carries: a code that answers that of the request,
its identifier, and its proxy state in front, behind which a rejection has its message only. -/
structure Frame.Answers (frame : Frame) (response : Packet) : Prop where
  access : frame.code = 1 → response.code = .accessAccept ∨ response.code = .accessReject
  accounting : frame.code = 4 → response.code = .accountingResponse
  identifier : response.identifier = frame.identifier
  proxyState : frame.packet.proxyState.map .standard <+: response.attributes
  rejection : response.code = .accessReject → response.attributes =
    frame.packet.proxyState.map .standard ++ [.standard Users.rejectionMessage]

/-- A response that answers the request in a frame, and that the wire can carry if it is not too
long. -/
structure Frame.Response (frame : Frame) (response : Packet) : Prop where
  answers : frame.Answers response
  named : response.code.isNamed
  canonical : response.Fits → response.Canonical

namespace Users

section

variable {hash : Hash} {secret : Bytes} (users : Users) {dictionary : Dictionary}
  (remote : Endpoint) {frame : Frame}

/-- An Access-Request with a readable User-Name is accepted or rejected. -/
theorem handle_access {request : AccessRequest} (hcanonical : frame.packet.Canonical)
    (hreserves : dictionary.ReservesContainer) (hcode : frame.code = 1)
    (hpacket : request.packet = frame.packet) {name : String}
    (hname : request.packet.userName? = some name) :
    ∃ response, (users.handle hash dictionary remote (.access request)).1 =
      .ok (some (.ofPacket response)) ∧ frame.Response response := by
  have hother : frame.code ≠ 4 := by
    rw [hcode]
    decide
  have hrequest : request.packet.Canonical := hpacket ▸ hcanonical
  cases huser : users.authenticated? hash request name with
  | none =>
      refine ⟨_, handle_of_unproven dictionary remote hrequest hname huser, ?_⟩
      rw [hpacket]
      refine ⟨⟨fun _ => .inr rfl, fun h => absurd h hother, rfl, List.prefix_append _ _,
        fun _ => rfl⟩, rfl, Packet.answer_canonical hcanonical ?_⟩
      rw [List.forall_mem_singleton]
      exact ⟨rfl, by decide⟩
  | some user =>
      obtain ⟨added, hanswer, hadded⟩ :=
        handle_of_proven dictionary remote hrequest hname huser
      refine ⟨_, hanswer, ?_⟩
      rw [hpacket]
      exact ⟨⟨fun _ => .inl rfl, fun h => absurd h hother, rfl, List.prefix_append _ _,
        fun h => by cases h⟩, rfl, Packet.answer_canonical hcanonical (hadded hreserves)⟩

/-- What can be answered gets a response. -/
theorem handle_answerable {message : Message} (hcanonical : frame.packet.Canonical)
    (hreserves : dictionary.ReservesContainer)
    (hmessage : Message.ofReceived hash secret frame.packet = .ok message)
    (h : frame.Answerable) :
    ∃ response, (users.handle hash dictionary remote message).1 =
      .ok (some (.ofPacket response)) ∧ frame.Response response := by
  rcases Message.ofReceived_cases hmessage with ⟨hcode, request, -, rfl⟩ |
    ⟨hcode, rfl⟩ | ⟨hone, hfour, rfl⟩
  · have hpacket : request.packet = frame.packet := Message.packet_ofReceived hmessage
    rcases h with ⟨-, name, hname⟩ | haccounting
    · rw [← Packet.text?_eq_some_iff, ← hpacket] at hname
      exact handle_access users remote hcanonical hreserves hcode hpacket hname
    · rw [hcode] at haccounting
      cases haccounting
  · have hother : frame.code ≠ 1 := by
      rw [hcode]
      decide
    refine ⟨_, handle_accounting dictionary remote hcanonical, ?_⟩
    exact ⟨⟨fun h => absurd h hother, fun _ => rfl, rfl, List.prefix_append _ _,
      fun h => by cases h⟩, rfl, Packet.answer_canonical hcanonical (by simp)⟩
  · rcases h with ⟨haccess, -⟩ | haccounting
    · exact absurd haccess hone
    · exact absurd haccounting hfour

/-- Nothing else gets a response. -/
theorem answerable_of_handle {message response : Message}
    (hmessage : Message.ofReceived hash secret frame.packet = .ok message)
    (h : (users.handle hash dictionary remote message).1 = .ok (some response)) :
    frame.Answerable := by
  rcases Message.ofReceived_cases hmessage with ⟨hcode, request, -, rfl⟩ |
    ⟨hcode, rfl⟩ | ⟨hone, hfour, rfl⟩
  · have hpacket : request.packet = frame.packet := Message.packet_ofReceived hmessage
    cases hname : request.packet.userName? with
    | none =>
        rw [handle_of_unnamed dictionary remote hname] at h
        cases h
    | some name =>
        rw [hpacket] at hname
        exact .inl ⟨hcode, name, Packet.text?_eq_some_iff.mp hname⟩
  · exact .inr hcode
  · cases h

end

end Users

/-! ## Sealing -/

/-- A client that sent the request in a frame accepts the reply under the secret, and reads the
response in it. -/
def Frame.VerifiedBy (hash : Hash) (secret : Bytes) (frame : Frame) (response : Packet)
    (reply : Bytes) : Prop :=
  ∀ request : Packet, request.identifier = frame.identifier →
    request.authenticator = some frame.authenticator →
    ∃ message, Message.ofResponseDatagram hash reply secret request = .ok message ∧
      message.packet.identifier = frame.identifier ∧ message.packet.code = response.code ∧
      message.packet.attributes = response.attributes

section

variable {hash : Hash} {secret : Bytes} {frame : Frame} {response : Packet}

theorem Message.sealFor_eq_ok_iff {request : Packet} {authenticator : Block}
    (hrequest : request.authenticator = some authenticator) {reply : Bytes} :
    (ofPacket response).sealFor hash secret request = .ok reply ↔
      response.Fits ∧ reply = response.octets
        (Authenticator.response hash response.header authenticator response.attributeOctets
          secret) := by
  simp only [sealFor, hrequest, encodeResponse, packet_ofPacket, Packet.signResponse,
    Except.bind_eq_ok_iff, Except.map_eq_ok_iff, Packet.sign_eq_ok_iff]
  constructor
  · rintro ⟨_, ⟨signed, ⟨hfits, rfl⟩, rfl⟩, hreply⟩
    rw [toDatagram, packet, Packet.encode_withAuthenticator hfits] at hreply
    cases hreply
    exact ⟨hfits, rfl⟩
  · rintro ⟨hfits, rfl⟩
    exact ⟨_, ⟨_, ⟨hfits, rfl⟩, rfl⟩, Packet.encode_withAuthenticator hfits _⟩

theorem Frame.Response.verifiedBy (h : frame.Response response) {reply : Bytes}
    (hreply : (Message.ofPacket response).sealFor hash secret frame.packet = .ok reply) :
    frame.VerifiedBy hash secret response reply := by
  have hsent : frame.packet.authenticator = some frame.authenticator := rfl
  obtain ⟨hfits, rfl⟩ := (Message.sealFor_eq_ok_iff hsent).mp hreply
  intro request hidentifier hauthenticator
  have hcode : response.code = Code.ofUInt8 response.code.toUInt8 :=
    ((Code.ofUInt8_eq_iff h.named).mpr rfl).symm
  have hsame : request.identifier = response.identifier :=
    hidentifier.trans h.answers.identifier.symm
  refine ⟨_, Message.ofResponseDatagram_octets hcode (h.canonical hfits) hfits hsame hauthenticator
    rfl, ?_⟩
  rw [Message.packet_ofPacket]
  exact ⟨h.answers.identifier, rfl, rfl⟩

end

/-! ## What a server concludes -/

/-- The verdicts on a datagram that is no duplicate: what serving it gives, and what the end of its
call gives in a run. -/
inductive Server.Concludes (hash : Hash) (server : Server) (remote : Endpoint) (datagram : Bytes) :
    Verdict → Prop
  | serve {clock later : DedupClock} {verdict : Verdict} {warnings : List HandlerWarning} :
      server.serve hash clock remote datagram = (verdict, warnings, later) →
      verdict ≠ .duplicate → Concludes hash server remote datagram verdict
  | finish {state later : ServerState} {index : Nat} {received : Received} {generation : UInt64}
      {verdict : Verdict} :
      server.receive hash remote datagram = .ok received →
      state.calls[index]? = some ⟨received, generation, .running⟩ →
      state.step hash server (.finish index) = some (later, some verdict) →
      Concludes hash server remote datagram verdict

/-- A datagram is concluded wherever no request with its key is remembered: at once when it is
served, and in a run by the three steps that follow its arrival. -/
structure Server.Admits (hash : Hash) (server : Server) (remote : Endpoint) (datagram : Bytes)
    (key : RequestKey) : Prop where
  serve : ∀ clock : DedupClock, clock.dedup.generationOf? key = none →
    server.Concludes hash remote datagram (server.serve hash clock remote datagram).1
  run : ∀ state : ServerState, state.dedup.generationOf? key = none →
    ∃ later verdict, state.run hash server [.datagram remote datagram,
        .schedule state.calls.length, .enter state.calls.length, .finish state.calls.length] =
        some (later, [none, none, none, some verdict]) ∧
      server.Concludes hash remote datagram verdict

section

variable {hash : Hash} {server : Server} {remote : Endpoint} {datagram : Bytes}
  {received : Received}

/-- A server concludes what its handler comes to. -/
theorem Server.Concludes.eq_respond {verdict : Verdict}
    (hreceived : server.receive hash remote datagram = .ok received)
    (h : server.Concludes hash remote datagram verdict) :
    verdict = respond hash received (server.handle hash received).1 := by
  cases h with
  | serve hserved hadmitted =>
      simp only [Server.serve, hreceived] at hserved
      split at hserved
      · cases hserved
        exact absurd rfl hadmitted
      · cases hserved
        rfl
  | finish hcall hrunning hfinished =>
      rw [hreceived] at hcall
      cases hcall
      simp only [ServerState.step, hrunning, Option.some.injEq, Prod.mk.injEq] at hfinished
      exact hfinished.2.symm

theorem Server.respond_ne_duplicate (handled : Handled) :
    respond hash received handled ≠ .duplicate := by
  unfold respond
  split
  · simp
  · simp
  · split <;> simp

/-- Nothing but a remembered request keeps a datagram that is received from its conclusion. -/
theorem Server.admits_of_receive (hreceived : server.receive hash remote datagram = .ok received) :
    server.Admits hash remote datagram received.key := by
  constructor
  · intro clock hfree
    obtain ⟨generation, dedup, hclaimed⟩ := Deduplicator.exists_claim hfree
    refine .serve rfl ?_
    simp only [Server.serve, hreceived, DedupClock.receive, Deduplicator.receive, hclaimed]
    exact respond_ne_duplicate _
  · intro state hfree
    obtain ⟨generation, dedup, hclaimed⟩ := Deduplicator.exists_claim hfree
    -- The call comes in behind those under way, and keeps its place until it finishes.
    have harrive : state.step hash server (.datagram remote datagram) =
        some (⟨dedup, state.calls ++ [⟨received, generation, .claimed⟩]⟩, none) := by
      simp [ServerState.step, ServerState.arrive, hreceived, hclaimed]
    have hschedule : ServerState.step hash server
        ⟨dedup, state.calls ++ [⟨received, generation, .claimed⟩]⟩ (.schedule state.calls.length) =
        some (⟨dedup.schedule received.key generation,
          state.calls ++ [⟨received, generation, .scheduled⟩]⟩, none) := by
      simp [ServerState.step]
    have henter : ServerState.step hash server
        ⟨dedup.schedule received.key generation,
          state.calls ++ [⟨received, generation, .scheduled⟩]⟩ (.enter state.calls.length) =
        some (⟨dedup.schedule received.key generation,
          state.calls ++ [⟨received, generation, .running⟩]⟩, none) := by
      simp [ServerState.step]
    have hcall : (state.calls ++ [⟨received, generation, .running⟩])[state.calls.length]? =
        some ⟨received, generation, .running⟩ := by
      simp
    obtain ⟨later, hfinish⟩ : ∃ later, ServerState.step hash server
        ⟨dedup.schedule received.key generation,
          state.calls ++ [⟨received, generation, .running⟩]⟩ (.finish state.calls.length) =
        some (later, some (respond hash received (server.handle hash received).1)) := by
      simp [ServerState.step]
    refine ⟨later, _, ?_, .finish hreceived hcall hfinish⟩
    simp only [ServerState.run, harrive, hschedule, henter, hfinish, Option.map_some]

/-- Nothing is sent but what the handler built. -/
theorem Server.respond_eq_reply_iff {handled : Handled} {reply : Bytes} :
    Server.respond hash received handled = .reply reply ↔
      ∃ response, handled = .ok (some response) ∧
        response.sealFor hash received.secret received.request.packet = .ok reply := by
  unfold respond
  split
  · simp
  · simp
  · rename_i response
    split <;> simp_all

end

/-! ## Runs -/

namespace ServerState

section

variable {hash : Hash} {server : Server}

/-- Every call is for a datagram among the events. -/
def CallsAmong (hash : Hash) (server : Server) (events : List ServerEvent) (state : ServerState) :
    Prop :=
  ∀ call ∈ state.calls, ∃ remote datagram, .datagram remote datagram ∈ events ∧
    server.receive hash remote datagram = .ok call.received

/-- What concludes a datagram among the events that was received. -/
def ConcludesAmong (hash : Hash) (server : Server) (events : List ServerEvent)
    (verdict : Verdict) : Prop :=
  ∃ remote datagram received, .datagram remote datagram ∈ events ∧
    server.receive hash remote datagram = .ok received ∧
    server.Concludes hash remote datagram verdict

theorem CallsAmong.mono {events more : List ServerEvent} {state : ServerState}
    (h : CallsAmong hash server events state) (hsub : events ⊆ more) :
    CallsAmong hash server more state := by
  intro call hcall
  obtain ⟨remote, datagram, hevent, hreceived⟩ := h call hcall
  exact ⟨remote, datagram, hsub hevent, hreceived⟩

variable {past : List ServerEvent} {state later : ServerState} {verdict : Option Verdict}
  (hcalls : CallsAmong hash server past state)
include hcalls

/-- A call that is added is for the datagram that arrives, and nothing is sent yet. -/
theorem callsAmong_arrive {remote : Endpoint} {datagram : Bytes}
    (h : state.arrive hash server remote datagram = (later, verdict)) :
    CallsAmong hash server (past ++ [.datagram remote datagram]) later ∧
      ∀ reply, verdict ≠ some (.reply reply) := by
  have hkept := hcalls.mono (List.subset_append_left past [.datagram remote datagram])
  unfold arrive at h
  split at h
  · cases h
    exact ⟨hkept, by simp⟩
  rename_i received hreceived
  split at h
  · cases h
    exact ⟨hkept, by simp⟩
  cases h
  refine ⟨fun call hcall => ?_, by simp⟩
  rcases List.mem_append.mp hcall with hold | hnew
  · exact hkept call hold
  · rw [List.mem_singleton.mp hnew]
    exact ⟨remote, datagram, by simp, hreceived⟩

omit hcalls in
/-- A call that goes on is still for its datagram. -/
theorem callsAmong_set {events : List ServerEvent} {dedup : Deduplicator} {index : Nat}
    {received : Received} {generation : UInt64} {stage : CallStage}
    (h : CallsAmong hash server events state)
    (hcall : state.calls[index]? = some ⟨received, generation, stage⟩) (next : CallStage) :
    CallsAmong hash server events ⟨dedup, state.calls.set index ⟨received, generation, next⟩⟩ := by
  intro call hmem
  rcases List.mem_or_eq_of_mem_set hmem with hold | rfl
  · exact h call hold
  · exact h ⟨received, generation, stage⟩ (List.mem_of_getElem? hcall)

theorem callsAmong_step {event : ServerEvent}
    (h : state.step hash server event = some (later, verdict)) :
    CallsAmong hash server (past ++ [event]) later ∧
      ∀ reply, verdict = some (.reply reply) →
        ConcludesAmong hash server (past ++ [event]) (.reply reply) := by
  have hkept := hcalls.mono (List.subset_append_left past [event])
  cases event with
  | datagram remote datagram =>
      obtain ⟨hlater, hnone⟩ := callsAmong_arrive hcalls (Option.some.inj h)
      exact ⟨hlater, fun reply hreply => absurd hreply (hnone reply)⟩
  | schedule index =>
      simp only [step] at h
      split at h
      · rename_i received generation hcall
        cases h
        exact ⟨callsAmong_set hkept hcall .scheduled, by simp⟩
      · cases h
  | enter index =>
      simp only [step] at h
      split at h
      · rename_i received generation hcall
        cases h
        exact ⟨callsAmong_set hkept hcall .running, by simp⟩
      · cases h
  | finish index =>
      have hstep := h
      simp only [step] at h
      split at h
      · rename_i received generation hcall
        cases h
        refine ⟨fun call hmem => hkept call (List.mem_of_mem_eraseIdx hmem), ?_⟩
        intro reply hreply
        obtain ⟨remote, datagram, hevent, hreceived⟩ :=
          hkept ⟨received, generation, .running⟩ (List.mem_of_getElem? hcall)
        rw [hreply] at hstep
        exact ⟨remote, datagram, received, hevent, hreceived, .finish hreceived hcall hstep⟩
      · cases h
  | fire index =>
      obtain ⟨dedup, -, heq⟩ := Option.map_eq_some_iff.mp h
      cases heq
      exact ⟨hkept, by simp⟩
  | clear =>
      cases h
      exact ⟨hkept, by simp⟩

/-- Every reply in a run concludes a datagram of the run. -/
theorem concludes_run {events : List ServerEvent} {verdicts : List (Option Verdict)}
    (h : state.run hash server events = some (later, verdicts)) (reply : Bytes)
    (hreply : some (.reply reply) ∈ verdicts) :
    ConcludesAmong hash server (past ++ events) (.reply reply) := by
  induction events generalizing past state verdicts with
  | nil =>
      cases h
      cases hreply
  | cons event events ih =>
      unfold run at h
      split at h
      · cases h
      rename_i next verdict hstep
      obtain ⟨⟨final, verdicts'⟩, hrun, heq⟩ := Option.map_eq_some_iff.mp h
      cases heq
      obtain ⟨hnext, hsent⟩ := callsAmong_step hcalls hstep
      rw [List.append_cons]
      rcases List.mem_cons.mp hreply with hfirst | hlater
      · obtain ⟨remote, datagram, received, hevent, hconcluded⟩ := hsent reply hfirst.symm
        exact ⟨remote, datagram, received, List.mem_append_left events hevent, hconcluded⟩
      · exact ih hnext hrun hlater

end

end ServerState

/-! ## Replies verify -/

section

variable {hash : Hash} {server : Server} (received : Received) {frame : Frame}

/-- What can be answered gets a response, and a reply if the response fits. -/
theorem Server.respond_answerable (hreserves : server.dictionary.ReservesContainer)
    (hcanonical : frame.packet.Canonical)
    (hmessage : Message.ofReceived hash received.secret frame.packet = .ok received.request)
    (h : frame.Answerable) :
    ∃ response, (server.handle hash received).1 = .ok (some (.ofPacket response)) ∧
      frame.Response response ∧
      ∀ reply, respond hash received (server.handle hash received).1 = .reply reply ↔
        (Message.ofPacket response).sealFor hash received.secret frame.packet = .ok reply := by
  obtain ⟨response, hhandled, hresponse⟩ :=
    Users.handle_answerable server.users received.remote hcanonical hreserves hmessage h
  have hbuilt : (server.handle hash received).1 = .ok (some (.ofPacket response)) := hhandled
  refine ⟨response, hbuilt, hresponse, fun reply => ?_⟩
  rw [respond_eq_reply_iff, hbuilt, Message.packet_ofReceived hmessage]
  simp

end

/-- With a dictionary that was built, a server concludes every datagram that decodes unless it
remembers a request with the key, and replies exactly when the datagram holds a request that can be
answered and the response fits the wire. The handler does build a response to such a request, which
carries what it must, and the client that sent the request accepts the reply and reads the response
in it. In a run, every reply concludes a datagram that came in from an address with a secret and
decodes. -/
theorem replies_verify (hash : Hash) (server : Server) (hbuilt : server.dictionary.Built) :
    (∀ (remote : Endpoint) (datagram secret : Bytes) (request : Message),
      server.secretOf? remote.ip = some secret →
      Message.ofRequestDatagram hash datagram secret = .ok request →
      server.Admits hash remote datagram ⟨remote, request.packet.identifier⟩ ∧
      ∀ verdict, server.Concludes hash remote datagram verdict →
      ∃ frame handled, Frame.ofBytes datagram = .ok frame ∧
        (server.handle hash ⟨remote, secret, request⟩).1 = handled ∧
        ((∃ reply, verdict = .reply reply) ↔ frame.Answerable ∧
          ∃ response, handled = .ok (some response) ∧ response.packet.encodedLength ≤ 4096 ∧
            ∀ attr ∈ response.packet.attributes, attr.encodedLength ≤ 255) ∧
        (frame.Answerable → ∃ response, handled = .ok (some response)) ∧
        ∀ response, handled = .ok (some response) →
          frame.Answers response.packet ∧
          ∀ reply, verdict = .reply reply → frame.VerifiedBy hash secret response.packet reply) ∧
    ∀ (events : List ServerEvent) (state : ServerState) (verdicts : List (Option Verdict)),
      ServerState.empty.run hash server events = some (state, verdicts) →
      ∀ reply, some (.reply reply) ∈ verdicts →
        ∃ remote datagram secret request, .datagram remote datagram ∈ events ∧
          server.secretOf? remote.ip = some secret ∧
          Message.ofRequestDatagram hash datagram secret = .ok request ∧
          server.Concludes hash remote datagram (.reply reply) := by
  constructor
  · intro remote datagram secret request hsecret hrequest
    have hreceived : server.receive hash remote datagram = .ok ⟨remote, secret, request⟩ :=
      Server.receive_eq_ok_iff.mpr ⟨hsecret, hrequest, rfl⟩
    refine ⟨Server.admits_of_receive hreceived, fun verdict hconcludes => ?_⟩
    have hverdict := hconcludes.eq_respond hreceived
    obtain ⟨frame, hframe, -, hmessage⟩ := Message.ofRequestDatagram_eq_ok_iff.mp hrequest
    have hcanonical := (Frame.octets_of_ofBytes hframe).1
    refine ⟨frame, _, hframe, rfl, ?_⟩
    by_cases hanswerable : frame.Answerable
    · obtain ⟨response, hhandled, hresponse, hreply⟩ :=
        Server.respond_answerable ⟨remote, secret, request⟩ hbuilt.reservesContainer hcanonical
          hmessage hanswerable
      have hsent : frame.packet.authenticator = some frame.authenticator := rfl
      have hsendable : (∃ reply, verdict = .reply reply) ↔ response.Fits := by
        simp [hverdict, hreply, Message.sealFor_eq_ok_iff hsent]
      rw [hsendable, hhandled]
      refine ⟨?_, fun _ => ⟨_, rfl⟩, ?_⟩
      · simp only [hanswerable, true_and, Except.ok.injEq, Option.some.injEq, exists_eq_left',
          Message.packet_ofPacket]
        exact Iff.rfl
      · intro built hsame
        cases hsame
        rw [Message.packet_ofPacket]
        refine ⟨hresponse.answers, fun reply hsealed => ?_⟩
        exact hresponse.verifiedBy ((hreply reply).mp (hverdict.symm.trans hsealed))
    · have hnone : ∀ response, (server.handle hash ⟨remote, secret, request⟩).1 ≠
          .ok (some response) := fun response hhandled =>
        hanswerable (Users.answerable_of_handle server.users remote hmessage hhandled)
      simp [hverdict, Server.respond_eq_reply_iff, hanswerable, hnone]
  · intro events state verdicts hrun reply hreply
    have hempty : ServerState.CallsAmong hash server [] ServerState.empty := by
      intro call hcall
      cases hcall
    obtain ⟨remote, datagram, received, hevent, hreceived, hconcludes⟩ :=
      ServerState.concludes_run hempty hrun reply hreply
    obtain ⟨hsecret, hrequest, -⟩ := Server.receive_eq_ok_iff.mp hreceived
    exact ⟨remote, datagram, received.secret, received.request, hevent, hsecret, hrequest,
      hconcludes⟩

/-! ## A sample run

The user nemo asks through two proxies, and is accepted with a standard attribute and one of a
vendor, under a dictionary that a resource makes. -/

namespace Server

namespace Sample

open Message.Sample (secret authenticator)

def resources : Resources :=
  Table.ofList [("sample.dict",
    "ATTRIBUTE Session-Timeout 27 integer\nVENDORATTR 9 Cisco-AVPair 1 string\n")]

def dictionary : Dictionary where
  definitions := [.new 27 "Session-Timeout" .integer, .ofVendor 9 1 "Cisco-AVPair" .string]
  byCode := ⟨[((none, 27), 0), ((some 9, 1), 1)]⟩
  byName := ⟨[("Session-Timeout", 0), ("Cisco-AVPair", 1)]⟩
  vendors := Table.empty

def edits : List UserEdit :=
  [.user "nemo" "arctangent", .reply "nemo" "Session-Timeout" "3600",
    .reply "nemo" "Cisco-AVPair" "shell:priv-lvl=15"]

def server : Server where
  endpoint := ⟨.v4 ⟨⟨[0, 0, 0, 0], rfl⟩⟩, 1812⟩
  dictionary := dictionary
  users := Users.ofEdits edits
  secretOf? _ := some secret
  dedupSeconds := Deduplicator.defaultSeconds

def datagram : Bytes :=
  [0x01, 0x00, 0x00, 0x33] ++ authenticator.bytes ++
    [0x01, 0x06, 0x6e, 0x65, 0x6d, 0x6f,
      0x21, 0x04, 0xb0, 0xb1,
      0x02, 0x12, 0x0d, 0xbe, 0x70, 0x8d, 0x93, 0xd4, 0x13, 0xce, 0x31, 0x96, 0xe4, 0x3f, 0x78, 0x2a,
      0x0a, 0xee,
      0x21, 0x03, 0xb2]

def events : List ServerEvent :=
  [.datagram Users.Sample.remote datagram, .schedule 0, .enter 0, .finish 0]

def reply : Bytes :=
  [0x02, 0x00, 0x00, 0x3a,
    0x8d, 0x83, 0x63, 0xb6, 0xf5, 0x59, 0x66, 0xbf, 0x3d, 0x2d, 0xa8, 0xdf, 0x32, 0xe2, 0x0f, 0xc7,
    0x21, 0x04, 0xb0, 0xb1, 0x21, 0x03, 0xb2, 0x1b, 0x06, 0x00, 0x00, 0x0e, 0x10,
    0x1a, 0x19, 0x00, 0x00, 0x00, 0x09, 0x01, 0x13, 0x73, 0x68, 0x65, 0x6c, 0x6c, 0x3a, 0x70, 0x72,
    0x69, 0x76, 0x2d, 0x6c, 0x76, 0x6c, 0x3d, 0x31, 0x35]

end Sample

theorem sample_reply_verifies :
    Sample.server.dictionary.Built ∧
    (ServerState.empty.run Md5.digest Sample.server Sample.events).map (·.2) =
      some [none, none, none, some (.reply Sample.reply)] ∧
    ∃ frame response, Frame.ofBytes Sample.datagram = .ok frame ∧ frame.Answerable ∧
      frame.Answers response ∧
      frame.VerifiedBy Md5.digest Message.Sample.secret response Sample.reply := by
  have hloaded : Dictionary.empty.load Sample.resources.source "sample.dict" =
      .ok ⟨Sample.dictionary, [.finished "sample.dict" 2]⟩ := by decide +kernel
  have hbuilt : Sample.server.dictionary.Built := .load .empty hloaded
  have hverdicts : (ServerState.empty.run Md5.digest Sample.server Sample.events).map (·.2) =
      some [none, none, none, some (.reply Sample.reply)] := by decide +kernel
  obtain ⟨⟨state, verdicts⟩, hrun, hsent⟩ := Option.map_eq_some_iff.mp hverdicts
  have hmem : some (.reply Sample.reply) ∈ verdicts := by
    rw [show verdicts = _ from hsent]
    simp
  have hverify := replies_verify Md5.digest Sample.server hbuilt
  obtain ⟨remote, datagram, secret, request, hevent, hsecret, hrequest, hconcludes⟩ :=
    hverify.2 Sample.events state verdicts hrun Sample.reply hmem
  obtain ⟨frame, handled, hframe, -, hsendable, hbuilds, hanswers⟩ :=
    (hverify.1 remote datagram secret request hsecret hrequest).2 (.reply Sample.reply) hconcludes
  have hanswerable := (hsendable.mp ⟨_, rfl⟩).1
  obtain ⟨response, hresponse⟩ := hbuilds hanswerable
  obtain ⟨hcarries, hverified⟩ := hanswers response hresponse
  -- The datagram that the reply concludes can only be the one that came in.
  simp only [Sample.events, List.mem_cons, ServerEvent.datagram.injEq, reduceCtorEq,
    List.not_mem_nil, or_false] at hevent
  obtain ⟨rfl, rfl⟩ := hevent
  cases hsecret
  exact ⟨hbuilt, hverdicts, frame, response.packet, hframe, hanswerable, hcarries,
    hverified _ rfl⟩

end Server
end Radius
