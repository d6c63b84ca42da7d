import TopicGuard.AccessLevel
import TopicGuard.Config.BackendKind
import TopicGuard.Config.Document
import TopicGuard.Config.Fault
import TopicGuard.Config.Layer
import TopicGuard.Config.Resolve
import TopicGuard.Config.SecretVariable
import TopicGuard.Config.Source
import TopicGuard.Config.Variables
import TopicGuard.Crypto.Der
import TopicGuard.Crypto.Edwards
import TopicGuard.Crypto.Hmac
import TopicGuard.Crypto.Modular
import TopicGuard.Crypto.Pem
import TopicGuard.Crypto.PrimeCurve
import TopicGuard.Crypto.Rsa
import TopicGuard.Crypto.Sha2
import TopicGuard.Engine
import TopicGuard.FileAccess
import TopicGuard.Grant
import TopicGuard.Json.Raw
import TopicGuard.Json.Record
import TopicGuard.Json.Value
import TopicGuard.Main
import TopicGuard.Number.Binary64
import TopicGuard.Number.Decimal
import TopicGuard.Number.Numeral
import TopicGuard.Policy.Consultation
import TopicGuard.Policy.Fault
import TopicGuard.Program
import TopicGuard.Program.Arguments
import TopicGuard.Proofs.Config.Comparison
import TopicGuard.Proofs.Config.Completion
import TopicGuard.Proofs.Config.Denotation
import TopicGuard.Proofs.Config.Environment
import TopicGuard.Proofs.Config.Layering
import TopicGuard.Proofs.Config.Secrecy
import TopicGuard.Proofs.Config.SecretVariable
import TopicGuard.Proofs.Config.Setting
import TopicGuard.Proofs.Config.Variables
import TopicGuard.Proofs.Engine.Building
import TopicGuard.Proofs.Engine.Closing
import TopicGuard.Proofs.Engine.EmptySecret
import TopicGuard.Proofs.Engine.Parity
import TopicGuard.Proofs.Json.Cuts
import TopicGuard.Proofs.Json.Extent
import TopicGuard.Proofs.Json.Grammar
import TopicGuard.Proofs.Json.Members
import TopicGuard.Proofs.Json.Record
import TopicGuard.Proofs.Json.Writing
import TopicGuard.Proofs.Number.Numeral
import TopicGuard.Proofs.Order
import TopicGuard.Proofs.Outcome
import TopicGuard.Proofs.Policy.Directory
import TopicGuard.Proofs.Policy.Question
import TopicGuard.Proofs.Program.Reporting
import TopicGuard.Proofs.Program.Spelling
import TopicGuard.Proofs.Service.Addresses
import TopicGuard.Proofs.Service.Admission
import TopicGuard.Proofs.Service.Directory
import TopicGuard.Proofs.Service.Run
import TopicGuard.Proofs.Service.Verdict
import TopicGuard.Proofs.Service.Wire
import TopicGuard.Proofs.Store.Access
import TopicGuard.Proofs.Store.Asking
import TopicGuard.Proofs.Store.Directory
import TopicGuard.Proofs.Store.Listing
import TopicGuard.Proofs.Store.Refusal
import TopicGuard.Proofs.Store.Skipping
import TopicGuard.Proofs.Store.Subscription
import TopicGuard.Proofs.Text.Base64
import TopicGuard.Proofs.Text.Blank
import TopicGuard.Proofs.Text.Form
import TopicGuard.Proofs.Text.Utf8
import TopicGuard.Proofs.Token.Alphabet
import TopicGuard.Proofs.Token.Claims
import TopicGuard.Proofs.Token.Expectations
import TopicGuard.Proofs.Token.Parts
import TopicGuard.Proofs.Token.Reading
import TopicGuard.Proofs.Token.Signature
import TopicGuard.Proofs.Token.Signing
import TopicGuard.Proofs.Token.Verification
import TopicGuard.Proofs.Token.Window
import TopicGuard.Proofs.Topic.Expansion
import TopicGuard.Proofs.Topic.Level
import TopicGuard.Proofs.Topic.Matching
import TopicGuard.Proofs.Topic.Replacement
import TopicGuard.Proofs.Topic.Widening
import TopicGuard.Proofs.Url.Authority
import TopicGuard.Secret
import TopicGuard.Service
import TopicGuard.Service.Script
import TopicGuard.Service.Settings
import TopicGuard.Service.Wire
import TopicGuard.Store
import TopicGuard.Store.Query
import TopicGuard.Store.Settings
import TopicGuard.Store.Tables
import TopicGuard.Text.Base64
import TopicGuard.Text.Blank
import TopicGuard.Text.Diagnostic
import TopicGuard.Text.Percent
import TopicGuard.Text.Quoted
import TopicGuard.Text.Utf8
import TopicGuard.Text.Visible
import TopicGuard.Time.Instant
import TopicGuard.Time.Span
import TopicGuard.Token.Algorithm
import TopicGuard.Token.Claims
import TopicGuard.Token.Header
import TopicGuard.Token.Payload
import TopicGuard.Token.Rejection
import TopicGuard.Token.Signer
import TopicGuard.Token.Verifier
import TopicGuard.Toml.Quoted
import TopicGuard.Toml.Reader
import TopicGuard.Toml.Scalar
import TopicGuard.Toml.Value
import TopicGuard.Topic.Filter
import TopicGuard.Topic.Level
import TopicGuard.Topic.Placeholder
import TopicGuard.Url
import TopicGuard.Url.Host
import TopicGuard.Url.Path
import TopicGuard.Url.Punycode
