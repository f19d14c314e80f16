import ErrandHub.Text.Basic
import ErrandHub.Text.Hidden
import ErrandHub.Text.Utf8
import ErrandHub.Number.Binary64
import ErrandHub.Number.Shortest
import ErrandHub.Number.Word
import ErrandHub.Session.Settings
import ErrandHub.Table
import ErrandHub.Credential.Verifier
import ErrandHub.Identity
import ErrandHub.Digest.Sha256
import ErrandHub.Digest.Base64Url
import ErrandHub.Json.Basic
import ErrandHub.Json.Token
import ErrandHub.Json.Tree
import ErrandHub.Json.Meaning
import ErrandHub.Json.Printer
import ErrandHub.Json.Record
import ErrandHub.Room.Id
import ErrandHub.Room.Ref
import ErrandHub.Envelope.Kind
import ErrandHub.Envelope.Inbound
import ErrandHub.Envelope.RoomMember
import ErrandHub.Envelope.Outbound
import ErrandHub.Credential.Token
import ErrandHub.Credential.Handshake
import ErrandHub.Session.Phase
import ErrandHub.Session.State
import ErrandHub.Registry
import ErrandHub.Store.Memory
import ErrandHub.Hub.Board
import ErrandHub.Hub.State
import ErrandHub.Hub.Run
import ErrandHub.Hub.Admin
import ErrandHub.Store.Sql
import ErrandHub.Connection.Frame
import ErrandHub.Connection.RequestHead
import ErrandHub.Connection.Basic
import ErrandHub.Hub.Service
import ErrandHub.Toml.Value
import ErrandHub.Toml.Scalar
import ErrandHub.Toml.Quoted
import ErrandHub.Toml.Document
import ErrandHub.Config.Basic
import ErrandHub.Config.File
import ErrandHub.Config.Environment
import ErrandHub.Address
import ErrandHub.CommandLine
import ErrandHub.Main
import ErrandHub.Proofs.Text.Ascii
import ErrandHub.Proofs.Text.Blank
import ErrandHub.Proofs.Text.Utf8
import ErrandHub.Proofs.Json.Reading
import ErrandHub.Proofs.Json.Value
import ErrandHub.Proofs.Room.Canonical
import ErrandHub.Proofs.Room.Legacy
import ErrandHub.Proofs.Room.Nesting
import ErrandHub.Proofs.Room.Number
import ErrandHub.Proofs.Room.Identifier
import ErrandHub.Proofs.Config.Runnable
import ErrandHub.Proofs.Config.Capacity
import ErrandHub.Proofs.Config.Overrides
import ErrandHub.Proofs.CommandLine.Grammar
import ErrandHub.Proofs.Envelope.Inbound
import ErrandHub.Proofs.Envelope.Members
import ErrandHub.Proofs.Envelope.Outbound
import ErrandHub.Proofs.Envelope.Echo
import ErrandHub.Proofs.Registry.Membership
import ErrandHub.Proofs.Registry.Operation
import ErrandHub.Proofs.Registry.Whereabouts
import ErrandHub.Proofs.Registry.Interleaving
import ErrandHub.Proofs.Hub.Delivery
import ErrandHub.Proofs.Hub.Posting
import ErrandHub.Proofs.Hub.Turn
import ErrandHub.Proofs.Hub.Soundness
import ErrandHub.Proofs.Hub.FanOut
import ErrandHub.Proofs.Hub.Confidentiality
import ErrandHub.Proofs.Hub.CurrentRoom
import ErrandHub.Proofs.Hub.Resolution
import ErrandHub.Proofs.Hub.Authenticity
import ErrandHub.Proofs.Hub.Chat
import ErrandHub.Proofs.Hub.Notices
import ErrandHub.Proofs.Hub.Dropping
import ErrandHub.Proofs.Hub.Refusal
import ErrandHub.Proofs.Hub.History
import ErrandHub.Proofs.Hub.Queue
import ErrandHub.Proofs.Hub.Persistence
import ErrandHub.Proofs.Hub.Publishing
import ErrandHub.Proofs.Hub.Opening
import ErrandHub.Proofs.Digest.Base64Url
import ErrandHub.Proofs.Digest.Hmac
import ErrandHub.Proofs.Credential.Token
import ErrandHub.Proofs.Credential.Verifier
import ErrandHub.Proofs.Credential.Handshake
import ErrandHub.Proofs.Hub.Requests
import ErrandHub.Proofs.Hub.Bearer
import ErrandHub.Proofs.Hub.Absence
import ErrandHub.Proofs.Store.RoomColumns
import ErrandHub.Proofs.Session.Patience
import ErrandHub.Proofs.Session.Silence
