import Radius.Address.Basic
import Radius.Address.Network
import Radius.Address.Printer
import Radius.Address.Reader
import Radius.Attribute.Basic
import Radius.Attribute.Type
import Radius.Attribute.Wire
import Radius.Bytes
import Radius.Command.Arguments
import Radius.Command.Session
import Radius.Config.Basic
import Radius.Config.Client
import Radius.Config.Error
import Radius.Config.Form
import Radius.Dedup.Basic
import Radius.Dedup.Clock
import Radius.Dedup.Run
import Radius.Dictionary.Basic
import Radius.Dictionary.Builtin
import Radius.Dictionary.Error
import Radius.Dictionary.Load
import Radius.Dictionary.Resource
import Radius.Dictionary.Statement
import Radius.Digest.Md5
import Radius.Handler.Basic
import Radius.Handler.Users
import Radius.Json.Basic
import Radius.Json.Printer
import Radius.Json.Reader
import Radius.Json.Text
import Radius.Log.Basic
import Radius.Log.Filter
import Radius.Log.Rule
import Radius.Log.Warning
import Radius.Main
import Radius.Packet.Access
import Radius.Packet.Accounting
import Radius.Packet.Basic
import Radius.Packet.Code
import Radius.Packet.Datagram
import Radius.Packet.Error
import Radius.Packet.Frame
import Radius.Packet.Identifier
import Radius.Packet.Message
import Radius.Pattern.Atom
import Radius.Pattern.CharClass
import Radius.Pattern.Mode
import Radius.Pattern.Reader
import Radius.Proofs.Address.Network
import Radius.Proofs.Address.Reading
import Radius.Proofs.Attribute.Appending
import Radius.Proofs.Attribute.Codec
import Radius.Proofs.Attribute.Octets
import Radius.Proofs.Bytes
import Radius.Proofs.Config.Clients
import Radius.Proofs.Config.Validity
import Radius.Proofs.Dedup.Eviction
import Radius.Proofs.Dedup.History
import Radius.Proofs.Dedup.Separation
import Radius.Proofs.Dedup.Settlement
import Radius.Proofs.Dedup.Window
import Radius.Proofs.Dictionary.Built
import Radius.Proofs.Dictionary.Builtin
import Radius.Proofs.Dictionary.Consistency
import Radius.Proofs.Dictionary.Expansion
import Radius.Proofs.Dictionary.InPlace
import Radius.Proofs.Dictionary.Index
import Radius.Proofs.Dictionary.Inlining
import Radius.Proofs.Dictionary.Labels
import Radius.Proofs.Dictionary.Openings
import Radius.Proofs.Dictionary.Precedence
import Radius.Proofs.Dictionary.Reloading
import Radius.Proofs.Dictionary.Repetition
import Radius.Proofs.Dictionary.ResourceNames
import Radius.Proofs.Dictionary.Restyling
import Radius.Proofs.Dictionary.Skipping
import Radius.Proofs.Handler.Response
import Radius.Proofs.Handler.Users
import Radius.Proofs.Outcome
import Radius.Proofs.Packet.Access
import Radius.Proofs.Packet.Challenge
import Radius.Proofs.Packet.Credentials
import Radius.Proofs.Packet.Decoding
import Radius.Proofs.Packet.Frame
import Radius.Proofs.Packet.Grouping
import Radius.Proofs.Packet.Integrity
import Radius.Proofs.Packet.Lengths
import Radius.Proofs.Packet.Naming
import Radius.Proofs.Packet.Octets
import Radius.Proofs.Packet.Reencoding
import Radius.Proofs.Packet.Refusal
import Radius.Proofs.Packet.Signing
import Radius.Proofs.Packet.VendorOrder
import Radius.Proofs.Packet.Verification
import Radius.Proofs.Raw.Basic
import Radius.Proofs.Raw.Datagram
import Radius.Proofs.Raw.Dictionary
import Radius.Proofs.Raw.Loading
import Radius.Proofs.Raw.Message
import Radius.Proofs.Raw.Password
import Radius.Proofs.Raw.Safety
import Radius.Proofs.Raw.Value
import Radius.Proofs.Secret.Authenticator
import Radius.Proofs.Secret.Chain
import Radius.Proofs.Secret.Password
import Radius.Proofs.Server.Dropped
import Radius.Proofs.Server.Reply
import Radius.Proofs.Text.Digits
import Radius.Proofs.Text.Hexadecimal
import Radius.Proofs.Text.Segments
import Radius.Proofs.Text.Utf8
import Radius.Proofs.Text.Words
import Radius.Proofs.Value.Forms
import Radius.Secret.Authenticator
import Radius.Secret.Password
import Radius.Server.Basic
import Radius.Server.Exchange
import Radius.Server.Run
import Radius.Storage.FileTree
import Radius.Storage.Path
import Radius.Table
import Radius.Text.Alphanumeric
import Radius.Text.CharSet
import Radius.Text.Cut
import Radius.Text.Decimal
import Radius.Text.Hex
import Radius.Text.Layout
import Radius.Text.Quoted
import Radius.Text.Scientific
import Radius.Text.Segments
import Radius.Text.Terminal
import Radius.Text.Unseen
import Radius.Text.Utf8
import Radius.Value.Basic
import Radius.Value.Text
