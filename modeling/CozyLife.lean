import CozyLife.Python.Text
import CozyLife.Python.Json
import CozyLife.Python.Values
import CozyLife.Lib.Effects
import CozyLife.Lib.Delimited
import CozyLife.Lib.Firsts
import CozyLife.Lib.TwoRuns
import CozyLife.Lib.Threads
import CozyLife.Lib.Pieces
import CozyLife.Api.Errors
import CozyLife.Api.Protocol
import CozyLife.Api.Wire
import CozyLife.Api.Local
import CozyLife.Api.Cloud
import CozyLife.Api.Rediscovering
import CozyLife.Api.Discovery
import CozyLife.Api.Account
import CozyLife.Api.Fallback
import CozyLife.Api.Client
import CozyLife.Api.Overlap
import CozyLife.Coordinator
import CozyLife.Entities
import CozyLife.Integration
import CozyLife.ConfigFlow
import CozyLife.Proofs.Loads
import CozyLife.Proofs.Lines
import CozyLife.Proofs.Framing
import CozyLife.Proofs.Exchange
import CozyLife.Proofs.Hangup
import CozyLife.Proofs.Timeouts
import CozyLife.Proofs.Relay
import CozyLife.Proofs.Containment
import CozyLife.Proofs.Fallback
import CozyLife.Proofs.Rediscover
import CozyLife.Proofs.WriteOnce
import CozyLife.Proofs.Ownership
import CozyLife.Proofs.Correlation
import CozyLife.Proofs.Breaker
import CozyLife.Proofs.Coverage
import CozyLife.Proofs.Aftermath
import CozyLife.Proofs.Decisive
import CozyLife.Proofs.Polling
import CozyLife.Proofs.Paths
import CozyLife.Proofs.Requests
import CozyLife.Proofs.Searches
import CozyLife.Proofs.Discovery
import CozyLife.Proofs.Reporting
import CozyLife.Proofs.Rounding
import CozyLife.Proofs.Showing
import CozyLife.Proofs.Texts
import CozyLife.Proofs.Wires
import CozyLife.Proofs.Agreement
import CozyLife.Proofs.Probing
import CozyLife.Proofs.Keeping
import CozyLife.Proofs.Custody
import CozyLife.Proofs.Keys
import CozyLife.Proofs.Secrecy
import CozyLife.Proofs.Destinations
import CozyLife.Proofs.Flows
import CozyLife.Proofs.Credentials
import CozyLife.Proofs.Display
import CozyLife.Proofs.Sharing
import CozyLife.Proofs.Turns
import CozyLife.Proofs.Calls
import CozyLife.Proofs.Overlap
import CozyLife.Proofs.Alone
import CozyLife.Proofs.Sequence
import CozyLife.Proofs.Pieces
