import OperatorDaemon.Api.Description
import OperatorDaemon.Api.Problem
import OperatorDaemon.Api.Router
import OperatorDaemon.Configuration.Basic
import OperatorDaemon.Crypto.Ecdsa
import OperatorDaemon.Daemon.Run
import OperatorDaemon.Daemon.Start
import OperatorDaemon.Daemon.Turn
import OperatorDaemon.Daemon.Watch
import OperatorDaemon.Email
import OperatorDaemon.Ethereum.Address
import OperatorDaemon.Ethereum.Salt
import OperatorDaemon.Json.Reader
import OperatorDaemon.Json.Record
import OperatorDaemon.Main
import OperatorDaemon.Module.Operation
import OperatorDaemon.Net.IpAddress
import OperatorDaemon.Proofs.Api.Gate
import OperatorDaemon.Proofs.Module.Attempts
import OperatorDaemon.Proofs.Module.Members
import OperatorDaemon.Proofs.Service.Exchange
import OperatorDaemon.Proofs.Session.Count
import OperatorDaemon.Proofs.Session.Credential
import OperatorDaemon.Proofs.Session.Law
import OperatorDaemon.Proofs.Session.Order
import OperatorDaemon.Proofs.Session.Rules
import OperatorDaemon.Proofs.Session.Verdict
import OperatorDaemon.Proofs.Text.Blank
import OperatorDaemon.Service.Error
import OperatorDaemon.Service.Message
import OperatorDaemon.Service.Reply
import OperatorDaemon.Service.Wire
import OperatorDaemon.Session.Act
import OperatorDaemon.Session.Gate
import OperatorDaemon.Session.Registration
import OperatorDaemon.Session.Status
import OperatorDaemon.Text.Blank
import OperatorDaemon.Text.Integer
import OperatorDaemon.Text.Percent
import OperatorDaemon.Unicode.Lowercase
import OperatorDaemon.Unicode.Normalization
import OperatorDaemon.Url.Domain
import OperatorDaemon.Url.Path
import OperatorDaemon.Url.Reader
import OperatorDaemon.Wallet.Basic
import OperatorDaemon.Wallet.KeyFile
import OperatorDaemon.Proofs.Daemon.Standstill
import OperatorDaemon.Proofs.Api.Effect
import OperatorDaemon.Proofs.Session.Admission
import OperatorDaemon.Proofs.Daemon.Identity
import OperatorDaemon.Proofs.Daemon.Readiness
import OperatorDaemon.Proofs.Daemon.Refusal
import OperatorDaemon.Proofs.Module.Success
import OperatorDaemon.Proofs.Module.Flags
import OperatorDaemon.Proofs.Service.Likeness
import OperatorDaemon.Proofs.Session.Lockstep
import OperatorDaemon.Proofs.Daemon.Secrecy
import OperatorDaemon.Proofs.Json.Spelling
import OperatorDaemon.Proofs.Json.Writing
import OperatorDaemon.Proofs.Text.Hex
import OperatorDaemon.Proofs.Json.RoundTrip
import OperatorDaemon.Proofs.Service.Wire
import OperatorDaemon.Proofs.Api.Report
import OperatorDaemon.Proofs.Service.Envelope
import OperatorDaemon.Proofs.Daemon.Signature
import OperatorDaemon.Proofs.Ethereum.Checksum
import OperatorDaemon.Proofs.Service.Message
import OperatorDaemon.Proofs.Text.Utf8
import OperatorDaemon.Proofs.Text.Percent
import OperatorDaemon.Proofs.Url.Path
import OperatorDaemon.Proofs.Service.Endpoint
import OperatorDaemon.Proofs.Api.Look
import OperatorDaemon.Proofs.Api.Registration
import OperatorDaemon.Proofs.Session.Waiting
import OperatorDaemon.Proofs.Module.Body
import OperatorDaemon.Proofs.Ethereum.Salt
import OperatorDaemon.Proofs.Api.Salt
import OperatorDaemon.Proofs.Unicode.Table
import OperatorDaemon.Proofs.Unicode.Decomposition
import OperatorDaemon.Proofs.Unicode.Order
import OperatorDaemon.Proofs.Unicode.Composition
import OperatorDaemon.Proofs.Unicode.Lowercase
import OperatorDaemon.Proofs.Email
import OperatorDaemon.Proofs.Text.Digits
import OperatorDaemon.Proofs.Wallet.KeyFile
import OperatorDaemon.Proofs.Result
import OperatorDaemon.Proofs.Configuration
import OperatorDaemon.Proofs.Api.SignatureText
import OperatorDaemon.Proofs.Json.Members
import OperatorDaemon.Proofs.Json.Rearrangement
import OperatorDaemon.Proofs.Service.Rearrangement
import OperatorDaemon.Proofs.Text.Numeral
import OperatorDaemon.Proofs.Url.Punycode
import OperatorDaemon.Proofs.Url.Domain
import OperatorDaemon.Proofs.Url.Host
import OperatorDaemon.Proofs.Url.Reader
import OperatorDaemon.Proofs.Daemon.Start
import OperatorDaemon.Proofs.Daemon.Watch
import OperatorDaemon.Proofs.Daemon.Run
import OperatorDaemon.Proofs.Api.ErrorContext
