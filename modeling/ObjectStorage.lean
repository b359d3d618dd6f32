import ObjectStorage.Bytes
import ObjectStorage.Checksum
import ObjectStorage.Client.Answer
import ObjectStorage.Client.Basic
import ObjectStorage.Client.Call
import ObjectStorage.Client.Config
import ObjectStorage.Client.Service
import ObjectStorage.Client.Session
import ObjectStorage.Context
import ObjectStorage.Credential.Basic
import ObjectStorage.Credential.Cache
import ObjectStorage.Credential.Provider
import ObjectStorage.Credential.Token
import ObjectStorage.Digest.Crc64
import ObjectStorage.Digest.Hmac
import ObjectStorage.Digest.Sha256
import ObjectStorage.Endpoint
import ObjectStorage.Error
import ObjectStorage.Headers
import ObjectStorage.Json.Decode
import ObjectStorage.Json.Error
import ObjectStorage.Json.Number
import ObjectStorage.Json.Text
import ObjectStorage.Json.Tree
import ObjectStorage.Json.Value
import ObjectStorage.Number.Binary64
import ObjectStorage.Number.Decimal
import ObjectStorage.Number.Shortest
import ObjectStorage.Operation
import ObjectStorage.Policy.Compact
import ObjectStorage.Policy.Dictionary
import ObjectStorage.Policy.Effect
import ObjectStorage.Policy.Principals
import ObjectStorage.Policy.Rules
import ObjectStorage.Policy.Statement
import ObjectStorage.Policy.Warning
import ObjectStorage.Refusal
import ObjectStorage.Request
import ObjectStorage.Response
import ObjectStorage.Signature.Canonical
import ObjectStorage.Signature.Signer
import ObjectStorage.Signature.V4
import ObjectStorage.Status
import ObjectStorage.Task.Basic
import ObjectStorage.Task.Run
import ObjectStorage.Text.Blank
import ObjectStorage.Text.Percent
import ObjectStorage.Text.Quoted
import ObjectStorage.Text.Unprintable
import ObjectStorage.Text.Utf8
import ObjectStorage.Time.Calendar
import ObjectStorage.Time.Duration
import ObjectStorage.Time.Instant
import ObjectStorage.Time.Rfc3339
import ObjectStorage.Transport
import ObjectStorage.Unicode.Composition
import ObjectStorage.Unicode.Direction
import ObjectStorage.Unicode.DomainMapping
import ObjectStorage.Unicode.Joining
import ObjectStorage.Unicode.Mark
import ObjectStorage.Unicode.Table
import ObjectStorage.Url.Basic
import ObjectStorage.Url.Domain
import ObjectStorage.Url.Error
import ObjectStorage.Url.Host
import ObjectStorage.Url.Ipv4
import ObjectStorage.Url.Ipv6
import ObjectStorage.Url.Path
import ObjectStorage.Url.Punycode
import ObjectStorage.Url.Query
import ObjectStorage.Url.Read
import ObjectStorage.Xml.Entity
import ObjectStorage.Xml.Record
import ObjectStorage.Xml.Token
import ObjectStorage.Proofs.Json.Spelling
import ObjectStorage.Proofs.Json.Printing
import ObjectStorage.Proofs.Json.Record
import ObjectStorage.Proofs.Policy.Normal
import ObjectStorage.Proofs.Policy.RoundTrip
import ObjectStorage.Proofs.Text.Joined
import ObjectStorage.Proofs.Signature.Frame
import ObjectStorage.Proofs.Signature.Resigning
import ObjectStorage.Proofs.Signature.Verification
import ObjectStorage.Proofs.Signature.Success
import ObjectStorage.Proofs.Address.DotSegments
import ObjectStorage.Proofs.Address.DomainName
import ObjectStorage.Proofs.Address.EndpointHost
import ObjectStorage.Proofs.Address.HostLabel
import ObjectStorage.Proofs.Address.ServicePath
import ObjectStorage.Proofs.Address.Target
import ObjectStorage.Proofs.Address.Uniqueness
import ObjectStorage.Proofs.Signature.Unambiguous
import ObjectStorage.Proofs.Client.Retry
import ObjectStorage.Credential.Shared
import ObjectStorage.Proofs.Credential.Expiry
import ObjectStorage.Proofs.Credential.Sharing
import ObjectStorage.Proofs.Json.Whole
import ObjectStorage.Proofs.Json.Members
import ObjectStorage.Proofs.Policy.Spelling
import ObjectStorage.Proofs.Policy.StatementList
import ObjectStorage.Proofs.Client.Order
import ObjectStorage.Proofs.Digest.Burst
import ObjectStorage.Proofs.Client.Exchange
import ObjectStorage.Proofs.Client.Transfer
import ObjectStorage.Proofs.Client.Corruption
import ObjectStorage.Proofs.Client.Cancellation
import ObjectStorage.Proofs.Client.Reading
import ObjectStorage.Proofs.Address.SmallLetters
import ObjectStorage.Proofs.Address.Faithful
import ObjectStorage.Proofs.Signature.Parameters
import ObjectStorage.Proofs.Signature.Indifference
import ObjectStorage.Proofs.Client.RequestHeaders
import ObjectStorage.Proofs.Client.Refused
import ObjectStorage.Proofs.Text.WellFormed
import ObjectStorage.Proofs.Json.Leaf
import ObjectStorage.Proofs.Json.Taken
import ObjectStorage.Proofs.Json.Grammar
import ObjectStorage.Proofs.Policy.Lookup
import ObjectStorage.Proofs.Policy.PrincipalsCodec
import ObjectStorage.Proofs.Policy.CanonicalText
import ObjectStorage.Proofs.Json.StringMembers
import ObjectStorage.Proofs.Xml.Children
import ObjectStorage.Proofs.Xml.Writing
import ObjectStorage.Proofs.Refusal.Told
import ObjectStorage.Proofs.Refusal.Acceptance
import ObjectStorage.Proofs.Refusal.Agreement
import ObjectStorage.Client.Assembly
import ObjectStorage.Proofs.Text.Trimmed
import ObjectStorage.Proofs.Json.Encoded
import ObjectStorage.Proofs.Policy.CompactCodec
import ObjectStorage.Proofs.Credential.Search
import ObjectStorage.Proofs.Policy.Accumulation
import ObjectStorage.Proofs.Address.EndpointGrammar
import ObjectStorage.Proofs.Client.Settings
import ObjectStorage.Proofs.Address.EncodedText
