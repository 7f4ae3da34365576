-- SUMMARY: No datagram, secret, password, value, text or dictionary traps a program that takes it apart by bare indices.
import Radius.Digest.Md5
import Radius.Proofs.Dictionary.InPlace
import Radius.Proofs.Raw.Loading
import Radius.Proofs.Raw.Message
import Radius.Proofs.Raw.Value

/-!
# No input is trapped

Every program here takes its input apart with operations that are trapped outside of what there
is, and none of them ever is: the length that an operation relies on has been checked, or is kept
by whatever made the value, before the program comes to it. What the programs come to, faults
included, is what the functions of this library come to.
-/

namespace Radius.Raw

/-- A program that comes to an outcome and is not trapped on the way to it. -/
def ComesTo {ε α : Type} (program : Raw ε α) (outcome : Except ε α) : Prop :=
  (∀ trap, program ≠ .trapped trap) ∧ program = ofExcept outcome

theorem comesTo_of_eq {ε α : Type} {program : Raw ε α} {outcome : Except ε α}
    (h : program = ofExcept outcome) : program.ComesTo outcome := by
  refine ⟨fun trap htrapped => ?_, h⟩
  rw [h] at htrapped
  cases outcome <;> cases htrapped

/-- No input is trapped: a datagram that is decoded as a request or as a response, a message whose
authenticator is verified, a password that is hidden or revealed, octets that are read as a value of
any kind and written again, a text that is read, and octets that are formatted. In every dictionary
that adding and loading make, neither lookup is, and more resources can be loaded into it from any
source, whatever their lines say. -/
theorem no_input_is_trapped (hash : Hash) :
    (∀ secret datagram request,
      (requestDatagram hash secret datagram).ComesTo
        (Message.ofRequestDatagram hash datagram secret) ∧
      (responseDatagram hash secret datagram request).ComesTo
        (Message.ofResponseDatagram hash datagram secret request)) ∧
    (∀ secret signed authenticator,
      (verifyResponse hash signed authenticator secret : Raw Empty Bool).ComesTo
        (.ok (Authenticator.verifyResponse hash signed authenticator secret)) ∧
      (verifyAccounting hash signed secret : Raw Empty Bool).ComesTo
        (.ok (Authenticator.verifyAccounting hash signed secret))) ∧
    (∀ secret authenticator bytes,
      (hide hash secret authenticator bytes).ComesTo
        (Password.hide hash bytes secret authenticator) ∧
      (reveal hash secret authenticator bytes).ComesTo
        (Password.reveal hash bytes secret authenticator)) ∧
    (∀ kind bytes text,
      (rewritten kind bytes).ComesTo
        ((kind.decode bytes).map fun value => (value.toBytes, value.toText)) ∧
      (parse kind text).ComesTo (kind.parse text)) ∧
    (∀ definition bytes,
      (formatValue definition bytes : Raw Empty String).ComesTo
        (.ok (definition.formatValue bytes))) ∧
    ∀ dictionary : Dictionary, dictionary.Built →
      (∀ vendor code, (byCode dictionary vendor code : Raw Empty (Option _)).ComesTo
        (.ok (dictionary.byCode? vendor code))) ∧
      (∀ name, (byName dictionary name : Raw Empty (Option _)).ComesTo
        (.ok (dictionary.byName? name))) ∧
      ∀ source resource,
        (load dictionary source resource).ComesTo (dictionary.load source resource) := by
  refine ⟨fun secret datagram request => ⟨?_, ?_⟩, fun secret signed authenticator => ⟨?_, ?_⟩,
    fun secret authenticator bytes => ⟨?_, ?_⟩, fun kind bytes text => ⟨?_, ?_⟩,
    fun definition bytes => ?_, fun dictionary hbuilt => ⟨fun vendor code => ?_, fun name => ?_,
      fun source resource => ?_⟩⟩
  · exact comesTo_of_eq (requestDatagram_eq hash secret datagram)
  · exact comesTo_of_eq (responseDatagram_eq hash secret datagram request)
  · exact comesTo_of_eq (verifyResponse_eq hash signed authenticator secret)
  · exact comesTo_of_eq (verifyAccounting_eq hash signed secret)
  · exact comesTo_of_eq (hide_eq hash secret authenticator bytes)
  · exact comesTo_of_eq (reveal_eq hash secret authenticator bytes)
  · exact comesTo_of_eq (rewritten_eq kind bytes)
  · exact comesTo_of_eq (parse_eq kind text)
  · exact comesTo_of_eq (formatValue_eq definition bytes)
  · exact comesTo_of_eq (byCode_eq hbuilt.indexed vendor code)
  · exact comesTo_of_eq (byName_eq hbuilt.indexed name)
  · exact comesTo_of_eq (load_eq hbuilt.indexed source resource)

/-! ## A sample dictionary and a sample text -/

namespace Sample

def roles : Dictionary := Dictionary.ofCalls [.define (.ofVendor 9 1 "Role" .string)]

/-- A comment, a line that lacks words, a label, and a line of nothing but white space. -/
def lines : Resources := Table.ofList
  [("main", "  # roles\nATTRIBUTE Badge\n\tVALUE Role Door 1\r\n \u00a0 \n")]

end Sample

theorem sample_no_input_is_trapped :
    (∀ trap, load Sample.roles Sample.lines.source "main" ≠ .trapped trap) ∧
      (byName Sample.roles "Role" : Raw Empty (Option AttributeDefinition)) =
        .done (some (.ofVendor 9 1 "Role" .string)) ∧
      requestDatagram Md5.digest [0x73] [1, 2, 3] = .failed (.invalidLength 3) ∧
      rewritten .ipv6Prefix Kind.Sample.loose =
        .done (Kind.Sample.tight, "2001:db8:0:12:3400::/60") ∧
      parse .octets "0xDEad" = .done [0xde, 0xad] := by
  obtain ⟨hdatagrams, -, -, hvalues, -, hdictionaries⟩ := no_input_is_trapped Md5.digest
  obtain ⟨-, hbyName, hload⟩ := hdictionaries Sample.roles (Dictionary.built_ofCalls _)
  have hfound : Sample.roles.byName? "Role" = some (.ofVendor 9 1 "Role" .string) := by
    decide +kernel
  have hrewritten : (Kind.ipv6Prefix.decode Kind.Sample.loose).map
      (fun value => (value.toBytes, value.toText)) =
        .ok (Kind.Sample.tight, "2001:db8:0:12:3400::/60") := by decide +kernel
  have hparsed : Kind.octets.parse "0xDEad" = .ok [0xde, 0xad] := by decide +kernel
  refine ⟨(hload _ _).1, ?_, ?_, ?_, ?_⟩
  · rw [(hbyName "Role").2, hfound]
    rfl
  · exact (hdatagrams [0x73] [1, 2, 3] ⟨.accessRequest, 1, none, []⟩).1.2
  · rw [(hvalues .ipv6Prefix Kind.Sample.loose "").1.2, hrewritten]
    rfl
  · rw [(hvalues .octets [] "0xDEad").2.2, hparsed]
    rfl

end Radius.Raw
