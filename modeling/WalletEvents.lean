import WalletEvents.Rehearsal.Execution
import WalletEvents.Shutdown
import WalletEvents.Wallet
import WalletEvents.Proofs.Activity.Crowd
import WalletEvents.Proofs.Webhook.Logbook
import WalletEvents.Proofs.Webhook.Authentic
import WalletEvents.Proofs.Webhook.Stages
import WalletEvents.Proofs.Double.Coarsest
import WalletEvents.Proofs.Double.Shortest
import WalletEvents.Proofs.Json.Numeral
import WalletEvents.Proofs.Text.Utf8
import WalletEvents.Proofs.Json.Spelling
import WalletEvents.Proofs.Json.Tokens
import WalletEvents.Proofs.Json.Compress
import WalletEvents.Proofs.Webhook.Copies
import WalletEvents.Proofs.Text.Hex
import WalletEvents.Proofs.Text.Digits
import WalletEvents.Proofs.Calendar.Notation
import WalletEvents.Proofs.Webhook.Signature
import WalletEvents.Proofs.Webhook.Acceptance
import WalletEvents.Proofs.Webhook.Routes
import WalletEvents.Proofs.Webhook.Authenticity
import WalletEvents.Proofs.Polling.Watch
import WalletEvents.Proofs.Polling.Plan
import WalletEvents.Proofs.Polling.Watermark
import WalletEvents.Proofs.Polling.Log
import WalletEvents.Proofs.Polling.Delivery
import WalletEvents.Proofs.Dispatch.Batch
import WalletEvents.Proofs.Polling.Burst
import WalletEvents.Proofs.Polling.Startup
import WalletEvents.Proofs.Json.Members
import WalletEvents.Proofs.Json.Canonical
import WalletEvents.Proofs.Json.Meaning
import WalletEvents.Proofs.Json.Documents
import WalletEvents.Proofs.Json.Paths
import WalletEvents.Proofs.Payment.Formats
import WalletEvents.Proofs.Webhook.Respelled
import WalletEvents.Proofs.Webhook.Redelivery
import WalletEvents.Proofs.Webhook.SignedFields
import WalletEvents.Proofs.Webhook.Rejected
import WalletEvents.Proofs.Webhook.Tampering
import WalletEvents.Proofs.Webhook.AmountLiteral
import WalletEvents.Proofs.Webhook.BillFields
import WalletEvents.Proofs.Dispatch.Report
import WalletEvents.Proofs.Dispatch.Walk
import WalletEvents.Proofs.Dispatch.Failures
import WalletEvents.Proofs.Dispatch.Chain
import WalletEvents.Proofs.Dispatch.Independence
import WalletEvents.Proofs.Dispatch.Evaluation
import WalletEvents.Proofs.Dispatch.Payments
import WalletEvents.Proofs.Context.LastWrite
import WalletEvents.Proofs.Activity.Guarantee
import WalletEvents.Proofs.Activity.Trace
import WalletEvents.Proofs.Activity.Group
import WalletEvents.Proofs.Activity.Schedule
import WalletEvents.Proofs.Activity.Background
import WalletEvents.Proofs.Executor.Chronicle
import WalletEvents.Proofs.Polling.Loop
import WalletEvents.Proofs.Polling.Pace
import WalletEvents.Proofs.Executor.Calls
import WalletEvents.Proofs.Executor.Phases
import WalletEvents.Proofs.Executor.Teardown
import WalletEvents.Proofs.Executor.Release
import WalletEvents.Proofs.Json.Bounded
import WalletEvents.Proofs.Json.Rewritten
import WalletEvents.Proofs.Json.Restored
import WalletEvents.Proofs.Json.Literal
import WalletEvents.Proofs.Json.Located
import WalletEvents.Proofs.Payment.RoundTrip
import WalletEvents.Proofs.Polling.Repeat
import WalletEvents.Proofs.Polling.Seen
import WalletEvents.Proofs.Network.Senders
import WalletEvents.Proofs.Network.Membership
import WalletEvents.Proofs.Network.AddressText
import WalletEvents.Proofs.Network.NetworkText
import WalletEvents.Proofs.Webhook.Gate
import WalletEvents.Proofs.Webhook.Paths
import WalletEvents.Proofs.Webhook.Keys
import WalletEvents.Proofs.Executor.Setup
import WalletEvents.Proofs.Text.Split
import WalletEvents.Proofs.Url.Form
import WalletEvents.Proofs.Url.Endpoint
import WalletEvents.Proofs.Wallet.Hooks
import WalletEvents.Proofs.Wallet.Binding
import WalletEvents.Proofs.Calendar.Counting
import WalletEvents.Proofs.Calendar.Instants
import WalletEvents.Proofs.Wallet.Requests
import WalletEvents.Proofs.Wallet.History
import WalletEvents.Proofs.Wallet.Conversation
import WalletEvents.Proofs.Wallet.Protocol
import WalletEvents.Proofs.Executor.Parts
import WalletEvents.Proofs.Executor.Diary
import WalletEvents.Proofs.Executor.Startup
import WalletEvents.Proofs.Executor.Unservable
import WalletEvents.Proofs.Shutdown.Waiting
