-- SUMMARY: Who is accepted: a request is, exactly when its credentials prove the password that its user was given last.
import Radius.Proofs.Handler.Response
import Radius.Proofs.Packet.Challenge
import Radius.Proofs.Value.Forms
import Radius.Server.Basic

/-!
# Who is accepted

The verdict on an Access-Request is read off the frame of its datagram and the changes that
made the table of users. The frame names a user if its first User-Name is text. It proves a
password either by a hidden User-Password, which then counts alone, or by the answer to a
challenge. The table holds what a name was given last.
-/

namespace Radius

/-! ## Tables of users -/

/-- A change to a table of users. -/
inductive UserEdit where
  | user (name password : String)
  | reply (userName name value : String)
deriving DecidableEq, Repr

namespace UserEdit

/-- The name and value that are added to the replies to a user. -/
def replyTo? (userName : String) : UserEdit → Option (String × String)
  | .user _ _              => none
  | .reply name attr value => if name = userName then some (attr, value) else none

/-- The last edit that gives the name a password gives it that of this user, and the edits behind
it give it the user's replies. -/
def LastEntry (edits : List UserEdit) (name : String) (user : User) : Prop :=
  ∃ earlier later, edits = earlier ++ .user name user.password :: later ∧
    (∀ password, .user name password ∉ later) ∧ user.reply = later.filterMap (replyTo? name)

end UserEdit

namespace Users

def edit (users : Users) : UserEdit → Users
  | .user name password        => users.addUser name password
  | .reply userName name value => (users.addReply userName name value).1

/-- The table that changes one after the other make. -/
def ofEdits (edits : List UserEdit) : Users := edits.foldl edit Table.empty

section

variable {name : String}

/-- An edit that gives the name no password adds its reply to the user, if it is one to it. -/
theorem find?_edit (users : Users) {edit : UserEdit} (h : ∀ password, edit ≠ .user name password) :
    (users.edit edit).find? name = (users.find? name).map (fun user =>
      { user with reply := user.reply ++ (edit.replyTo? name).toList }) := by
  cases edit with
  | user other password =>
      have hne : name ≠ other := by
        rintro rfl
        exact h password rfl
      simp [Users.edit, addUser, Table.find?_insert_of_ne _ _ hne, UserEdit.replyTo?]
  | reply other attr value =>
      simp only [Users.edit, addReply, Table.find?_modify, UserEdit.replyTo?]
      by_cases hname : name = other
      · simp [hname]
      · simp [hname, Ne.symm hname]

theorem find?_foldl_edit {edits : List UserEdit} (h : ∀ password, .user name password ∉ edits)
    (users : Users) :
    (edits.foldl edit users).find? name = (users.find? name).map (fun user =>
      { user with reply := user.reply ++ edits.filterMap (UserEdit.replyTo? name) }) := by
  induction edits generalizing users with
  | nil => simp
  | cons first later ih =>
      have hfirst : ∀ password, first ≠ .user name password := by
        rintro password rfl
        exact h password (by simp)
      have hlater : ∀ password, .user name password ∉ later := fun password hmem =>
        h password (by simp [hmem])
      rw [List.foldl_cons, ih hlater, find?_edit users hfirst, Option.map_map]
      simp [Function.comp_def, List.filterMap_eq_flatMap_toList]

/-- A name was never given a password, or there was a last time. -/
theorem none_or_lastEntry (edits : List UserEdit) (name : String) :
    (∀ password, .user name password ∉ edits) ∨ ∃ user, UserEdit.LastEntry edits name user := by
  induction edits with
  | nil => simp
  | cons first later ih =>
      rcases ih with hnone | ⟨user, earlier, after, rfl, hlast, hreply⟩
      · by_cases hfirst : ∃ password, first = .user name password
        · obtain ⟨password, rfl⟩ := hfirst
          exact .inr ⟨⟨password, _⟩, [], later, rfl, hnone, rfl⟩
        · refine .inl fun password hmem => ?_
          rcases List.mem_cons.mp hmem with rfl | hmem
          · exact hfirst ⟨password, rfl⟩
          · exact hnone password hmem
      · exact .inr ⟨user, first :: earlier, after, rfl, hlast, hreply⟩

theorem find?_of_lastEntry {edits : List UserEdit} {user : User}
    (h : UserEdit.LastEntry edits name user) : (ofEdits edits).find? name = some user := by
  obtain ⟨earlier, later, rfl, hlast, hreply⟩ := h
  rw [ofEdits, List.foldl_append, List.foldl_cons, find?_foldl_edit hlast]
  simp [edit, addUser, ← hreply]

/-- The table holds for each name what it was given last. -/
theorem find?_ofEdits_eq_some_iff {edits : List UserEdit} {user : User} :
    (ofEdits edits).find? name = some user ↔ UserEdit.LastEntry edits name user := by
  constructor
  · intro h
    rcases none_or_lastEntry edits name with hnone | ⟨last, hlast⟩
    · have hmissing : (ofEdits edits).find? name = none := find?_foldl_edit hnone Table.empty
      rw [hmissing] at h
      cases h
    · rw [find?_of_lastEntry hlast] at h
      cases h
      exact hlast
  · exact find?_of_lastEntry

end

end Users

/-! ## What a frame says -/

/-- The first attribute of this type is this text. -/
def Packet.HasText (packet : Packet) (type : UInt8) (text : String) : Prop :=
  ∃ attr, packet.attribute? type = some attr ∧ attr.value = Utf8.encode text

theorem Packet.text?_eq_some_iff {packet : Packet} {type : UInt8} {text : String} :
    packet.text? type = some text ↔ packet.HasText type text := by
  unfold text? HasText
  cases packet.attribute? type with
  | none => simp
  | some attr =>
      simp only [Option.bind_some, Option.some.injEq, exists_eq_left', ← Kind.decodeText_eq_ok_iff]
      cases Kind.decodeText attr.value <;> simp [Except.toOption]

/-- The credentials in a frame are those of a password: its first User-Password hides it, or there
is none and its first CHAP-Password answers the challenge with it. -/
def Frame.Proves (hash : Hash) (secret : Bytes) (frame : Frame) (password : Bytes) : Prop :=
  (∃ hidden, frame.packet.attribute? AttributeType.userPassword = some hidden ∧
    Password.reveal hash hidden.value secret frame.authenticator = .ok password) ∨
  frame.packet.attribute? AttributeType.userPassword = none ∧
    ∃ answer identifier response,
      frame.packet.attribute? AttributeType.chapPassword = some answer ∧
      answer.value = identifier :: response ∧
      (hash (identifier :: password ++
        AccessRequest.challengeOf frame.packet frame.authenticator)).bytes = response

namespace AccessRequest

section

variable {hash : Hash} {secret : Bytes} {frame : Frame} {request : AccessRequest}

/-- A candidate passes for a request off the wire when the frame proves it. -/
theorem verifyPassword_iff_proves (h : ofReceived hash secret frame.packet = .ok request)
    (candidate : Bytes) :
    request.verifyPassword hash candidate ↔ frame.Proves hash secret candidate := by
  have hauthenticator : frame.packet.authenticator = some frame.authenticator := rfl
  unfold ofReceived at h
  unfold Frame.Proves
  cases hhidden : frame.packet.attribute? AttributeType.userPassword with
  | some hidden =>
      simp only [hauthenticator, hhidden] at h
      obtain ⟨password, hreveal, rfl⟩ := Except.map_eq_ok_iff.mp h
      rw [verifyPassword_of_known rfl rfl]
      simp [hreveal, eq_comm]
  | none =>
      cases hfound : frame.packet.attribute? AttributeType.chapPassword with
      | none =>
          simp only [hauthenticator, hhidden, hfound] at h
          cases h
          simp [verifyPassword, ofPacket]
      | some found =>
          simp only [hauthenticator, hhidden, hfound] at h
          obtain ⟨answer, hanswer, rfl⟩ := Except.map_eq_ok_iff.mp h
          obtain ⟨hvalue, hgiven⟩ := ChapAnswer.ofValue_eq_ok_iff.mp hanswer
          have hchallenge : answer.challenge = challengeOf frame.packet frame.authenticator := by
            rw [hgiven, challengeOf]
            cases frame.packet.attribute? AttributeType.chapChallenge <;> rfl
          rw [verifyPassword_of_answer rfl, ChapAnswer.accepts_iff, Octets.ext_iff, hchallenge]
          simp [hvalue, ChapAnswer.toValue, eq_comm]

end

end AccessRequest

/-! ## The verdict -/

namespace Users

/-- Handling a request came to a response with this code. -/
def Answers (handled : Handled) (code : Code) : Prop :=
  ∃ response, handled = .ok (some response) ∧ response.packet.code = code

theorem answers_iff {packet : Packet} {code : Code} :
    Answers (.ok (some (.ofPacket packet))) code ↔ packet.code = code := by
  simp [Answers]

theorem not_answers_error (fault : HandlerError) (code : Code) : ¬ Answers (.error fault) code := by
  simp [Answers]

section

variable {hash : Hash} {secret : Bytes} {edits : List UserEdit} {frame : Frame}
  {request : AccessRequest}

/-- A request proves to be a user by what its frame proves of the user's last entry. -/
theorem authenticated?_eq_some_iff
    (h : AccessRequest.ofReceived hash secret frame.packet = .ok request) {name : String}
    {user : User} :
    (ofEdits edits).authenticated? hash request name = some user ↔
      UserEdit.LastEntry edits name user ∧
        frame.Proves hash secret (Utf8.encode user.password) := by
  rw [authenticated?, Option.filter_eq_some_iff, find?_ofEdits_eq_some_iff,
    AccessRequest.verifyPassword_iff_proves h]

end

/-- An Access-Request is accepted exactly when its first User-Name is text that names a user and
its credentials prove the password that the user was given last. Any other request whose first
User-Name is text is rejected. The rest fail, and nothing is sent. -/
theorem acceptance_is_proven (hash : Hash) (dictionary : Dictionary) (edits : List UserEdit)
    (remote : Endpoint) (datagram secret : Bytes) (request : AccessRequest) (handled : Handled)
    (hdatagram : Message.ofRequestDatagram hash datagram secret = .ok (.access request))
    (hhandled : ((ofEdits edits).handle hash dictionary remote (.access request)).1 = handled) :
    ∃ frame, Frame.ofBytes datagram = .ok frame ∧
      (Answers handled .accessAccept ↔
        ∃ name user, frame.packet.HasText AttributeType.userName name ∧
          UserEdit.LastEntry edits name user ∧
          frame.Proves hash secret (Utf8.encode user.password)) ∧
      ((∃ name, frame.packet.HasText AttributeType.userName name) →
        ¬ Answers handled .accessAccept → Answers handled .accessReject) ∧
      ((¬ ∃ name, frame.packet.HasText AttributeType.userName name) →
        handled = .error (.missingAttribute "User-Name") ∧
          Server.respond hash ⟨remote, secret, .access request⟩ handled =
            .failed (.handler (.missingAttribute "User-Name"))) := by
  obtain ⟨frame, hframe, -, hreceived⟩ := Message.ofRequestDatagram_eq_ok_iff.mp hdatagram
  have haccess : AccessRequest.ofReceived hash secret frame.packet = .ok request := by
    rcases Message.ofReceived_cases hreceived with ⟨-, received, haccess, heq⟩ | ⟨-, heq⟩ |
      ⟨-, -, heq⟩
    · cases heq
      exact haccess
    · cases heq
    · cases heq
  have hpacket := AccessRequest.packet_ofReceived haccess
  have hcanonical : request.packet.Canonical := hpacket ▸ (Frame.octets_of_ofBytes hframe).1
  have hnames : ∀ name, frame.packet.HasText AttributeType.userName name ↔
      request.packet.userName? = some name := by
    intro name
    rw [hpacket]
    exact Packet.text?_eq_some_iff.symm
  refine ⟨frame, hframe, ?_⟩
  simp only [hnames, ← authenticated?_eq_some_iff haccess]
  cases hname : request.packet.userName? with
  | none =>
      rw [handle_of_unnamed dictionary remote hname] at hhandled
      subst hhandled
      simp [not_answers_error, Server.respond]
  | some name =>
      cases huser : (ofEdits edits).authenticated? hash request name with
      | none =>
          rw [handle_of_unproven dictionary remote hcanonical hname huser] at hhandled
          subst hhandled
          simp [answers_iff, Packet.answer, huser]
      | some user =>
          obtain ⟨added, hanswer, -⟩ :=
            handle_of_proven dictionary remote hcanonical hname huser
          rw [hanswer] at hhandled
          subst hhandled
          simp [answers_iff, Packet.answer, huser]

/-! ## A sample user

The user nemo is given a second password, and with it loses the reply attribute that came with the
first. -/

namespace Sample

def edits : List UserEdit :=
  [.user "nemo" "flounder", .reply "nemo" "Filter-Id" "std.ppp", .user "nemo" "arctangent"]

def remote : Endpoint := ⟨.v4 ⟨⟨[192, 168, 1, 16], rfl⟩⟩, 1812⟩

def acceptance : Message := .generic ⟨.accessAccept, 0, none, []⟩

end Sample

theorem sample_acceptance_is_proven :
    (Message.ofRequestDatagram Md5.digest Message.Sample.requestDatagram Message.Sample.secret =
        .ok (.access Message.Sample.request) ∧
      ((ofEdits Sample.edits).handle Md5.digest Dictionary.empty Sample.remote
        (.access Message.Sample.request)).1 = .ok (some Sample.acceptance)) ∧
    ∃ frame, Frame.ofBytes Message.Sample.requestDatagram = .ok frame ∧
      ∃ name user, frame.packet.HasText AttributeType.userName name ∧
        UserEdit.LastEntry Sample.edits name user ∧
        frame.Proves Md5.digest Message.Sample.secret (Utf8.encode user.password) := by
  have hdatagram : Message.ofRequestDatagram Md5.digest Message.Sample.requestDatagram
      Message.Sample.secret = .ok (.access Message.Sample.request) := by decide +kernel
  have hhandled : ((ofEdits Sample.edits).handle Md5.digest Dictionary.empty Sample.remote
      (.access Message.Sample.request)).1 = .ok (some Sample.acceptance) := by decide +kernel
  obtain ⟨frame, hframe, haccepted, -⟩ :=
    acceptance_is_proven Md5.digest Dictionary.empty Sample.edits Sample.remote
      Message.Sample.requestDatagram Message.Sample.secret Message.Sample.request
      (.ok (some Sample.acceptance)) hdatagram hhandled
  have hanswers : Answers (.ok (some Sample.acceptance)) .accessAccept := ⟨_, rfl, rfl⟩
  exact ⟨⟨hdatagram, hhandled⟩, frame, hframe, haccepted.mp hanswers⟩

end Users
end Radius
