import Datagram.Duration
import Datagram.Address.Ipv6
import Datagram.Text.Quoted
import Datagram.Text.Outline
import Datagram.SlotTable
import Datagram.Buffer.Storage
import Datagram.Buffer.Transmit
import Datagram.Buffer.Receive
import Datagram.Buffer.Stream
import Datagram.Config
import Datagram.Event
import Datagram.Transport
import Datagram.World
import Datagram.Socket
import Datagram.Resolver
import Datagram.Session
import Datagram.Script
import Datagram.PortNames
import Datagram.Dns.Settings
import Datagram.Os
import Datagram.Host
import Datagram.Network
import Datagram.HostSession
import Datagram.Dns.Lookup
import Datagram.Dns.Name
import Datagram.Dns.Resolver
import Datagram.Document
import Datagram.Json.Token
import Datagram.Json.Reader
import Datagram.Json.Writer
import Datagram.Toml.Lexeme
import Datagram.Toml.Scalar
import Datagram.Toml.Tree
import Datagram.Toml.Reader
import Datagram.Toml.Writer
import Datagram.Serialization
import Datagram.Serialization.Runnable
import Datagram.Config.Fields
import Datagram.Config.Reading
import Datagram.Config.Writing
import Datagram.Unicode.Composition
import Datagram.Unicode.Direction
import Datagram.Unicode.Folding
import Datagram.Unicode.Joiner
import Datagram.Unicode.Numeric
import Datagram.Proofs.SlotMarks
import Datagram.Proofs.Calls
import Datagram.Proofs.Operations
import Datagram.Proofs.Sides
import Datagram.Proofs.Runs
import Datagram.Proofs.SlotAccounting
import Datagram.Proofs.SlotBalance
import Datagram.Proofs.SlotHolders
import Datagram.Proofs.Conversation
import Datagram.Proofs.SocketCalls
import Datagram.Proofs.Buffers
import Datagram.Proofs.Capacities
import Datagram.Proofs.CallProtocol
import Datagram.Proofs.Outgoing
import Datagram.Proofs.SentDatagrams
import Datagram.Proofs.Incoming
import Datagram.Proofs.ReceivedPackets
import Datagram.Proofs.BlankSockets
import Datagram.Proofs.Locality
import Datagram.Proofs.UnboundSockets
import Datagram.Proofs.Evolution
import Datagram.Proofs.OpenHandles
import Datagram.Proofs.TidyTables
import Datagram.Proofs.FailedBegin
import Datagram.Proofs.HostTable
import Datagram.Proofs.HostHandles
import Datagram.Proofs.Handover
import Datagram.Proofs.HostInStep
import Datagram.Proofs.SharedHost
import Datagram.Proofs.LawfulNetwork
import Datagram.Proofs.Mailbox
import Datagram.Proofs.Letters
import Datagram.Proofs.Delivery
import Datagram.Proofs.Custody
import Datagram.Proofs.CoveredCalls
import Datagram.Proofs.BindingGate
import Datagram.Proofs.SlotEntries
import Datagram.Proofs.RecordedPorts
import Datagram.Proofs.Interleaving
import Datagram.Proofs.IssuedHandles
import Datagram.Proofs.Reading
import Datagram.Proofs.ParseOutcomes
import Datagram.Proofs.SlotAllocation
import Datagram.Proofs.Decimals
import Datagram.Proofs.Rebinding
import Datagram.Proofs.FailedCalls
import Datagram.Proofs.Literals
import Datagram.Proofs.Durations
import Datagram.Proofs.LookupBudget
import Datagram.Proofs.ReceiveStates
import Datagram.Proofs.JsonTokens
import Datagram.Proofs.JsonGrammar
import Datagram.Proofs.TomlLines
import Datagram.Proofs.TomlTexts
import Datagram.Proofs.SerializationLaws
import Datagram.Proofs.RunnableLibrary
import Datagram.Proofs.PartialConfigs
import Datagram.Proofs.WrittenConfigs
import Datagram.Proofs.BufferBounds
import Datagram.Proofs.ResourceLog
import Datagram.Proofs.UnheededCloses
import Datagram.Proofs.ResourceHistory
