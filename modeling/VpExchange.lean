import VpExchange.Bytes.Basic
import VpExchange.Bytes.Hex
import VpExchange.Bytes.Base64
import VpExchange.Text.Blank
import VpExchange.Text.Split
import VpExchange.Text.Preview
import VpExchange.Text.CodeTable
import VpExchange.Text.Visible
import VpExchange.Text.Quoted
import VpExchange.Decimal.Binary64
import VpExchange.Decimal.Shortest
import VpExchange.Json.Basic
import VpExchange.Json.Printer
import VpExchange.Json.Reader
import VpExchange.Json.Format
import VpExchange.Json.Record
import VpExchange.Url.Percent
import VpExchange.Url.Domain.Punycode
import VpExchange.Url.Domain.Mark
import VpExchange.Url.Domain.Composed
import VpExchange.Url.Domain.Replacement
import VpExchange.Url.Domain.Direction
import VpExchange.Url.Domain.Joining
import VpExchange.Url.Domain
import VpExchange.Url.Host
import VpExchange.Url.Basic
import VpExchange.Url.Parser
import VpExchange.Url.Query
import VpExchange.Crypto.Sha256
import VpExchange.Crypto.Aes
import VpExchange.Crypto.Gcm
import VpExchange.Crypto.P256
import VpExchange.Chain
import VpExchange.Jose.Jwk
import VpExchange.Jose.KeyMaterial
import VpExchange.Jose.ContentKey
import VpExchange.Jose.Token
import VpExchange.Protocol.Profile
import VpExchange.Protocol.Exchange
import VpExchange.Protocol.Refusal
import VpExchange.Audit.Log
import VpExchange.Audit.Telemetry
import VpExchange.Audit.Trace
import VpExchange.Audit.Report
import VpExchange.Trust
import VpExchange.Clock
import VpExchange.Entropy
import VpExchange.Seeds
import VpExchange.Config
import VpExchange.Presentation
import VpExchange.Credential.SdJwt
import VpExchange.Credential.Mdoc
import VpExchange.Request.Basic
import VpExchange.Store
import VpExchange.Request.Plan
import VpExchange.Request.QrCode
import VpExchange.Request.Uri
import VpExchange.Request.Created
import VpExchange.Encryption.Basic
import VpExchange.Encryption.Delivery
import VpExchange.Encryption.Opened
import VpExchange.Answer.Basic
import VpExchange.Answer.SdJwt
import VpExchange.Answer.Mdoc
import VpExchange.Acceptance.Evidence
import VpExchange.Acceptance.Submission
import VpExchange.Acceptance.Basic
import VpExchange.Assembly
import VpExchange.Session.Step
import VpExchange.Session.Run
import VpExchange.Proofs.Base64
import VpExchange.Proofs.Encryption.Opening
import VpExchange.Proofs.Json.Numeral
import VpExchange.Proofs.Json.Quoted
import VpExchange.Proofs.Json.RoundTrip
import VpExchange.Proofs.Acceptance.Completeness
import VpExchange.Proofs.Encryption.Malleability
import VpExchange.Proofs.Crypto.Cofactor
import VpExchange.Proofs.Encryption.Enforcement
import VpExchange.Proofs.Acceptance.Documents
import VpExchange.Proofs.Provenance
import VpExchange.Proofs.Session.Trust
import VpExchange.Proofs.Session.Call
import VpExchange.Proofs.Session.Telemetry
import VpExchange.Proofs.Redaction
import VpExchange.Proofs.Confidentiality
import VpExchange.Proofs.Seeds
import VpExchange.Proofs.Session.Numbering
import VpExchange.Proofs.Entropy
import VpExchange.Proofs.Session.Frame
import VpExchange.Proofs.Session.Randomness
import VpExchange.Proofs.Session.Commuting
import VpExchange.Proofs.Session.Codes
import VpExchange.Proofs.Json.Content
import VpExchange.Proofs.Json.Yields
import VpExchange.Proofs.Json.Settled
import VpExchange.Proofs.Json.SettledRecord
import VpExchange.Proofs.Normalisation
import VpExchange.Proofs.Request.Creation
import VpExchange.Proofs.Url.Query
import VpExchange.Proofs.Url.Delimiters
import VpExchange.Proofs.Request.Uri
import VpExchange.Proofs.Url.Base
import VpExchange.Proofs.Request.ResponseUri
import VpExchange.Proofs.Encryption.Receiver
import VpExchange.Proofs.ByteOrder
import VpExchange.Proofs.Claims
import VpExchange.Proofs.Base64.Lenient
import VpExchange.Proofs.DeviceResponse
import VpExchange.Proofs.Jose.Correspondence
import VpExchange.Proofs.Encryption.KeyHalves
import VpExchange.Proofs.Jose.ContentKey
import VpExchange.Proofs.Trust.Snapshot
import VpExchange.Proofs.Credential.Compact
import VpExchange.Proofs.Credential.Disclosures
import VpExchange.Proofs.Acceptance.Preview
import VpExchange.Proofs.Session.Verbosity
import VpExchange.Proofs.Session.Records
