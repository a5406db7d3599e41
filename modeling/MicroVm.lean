import MicroVm.ByteReader
import MicroVm.CommandLine.Choices
import MicroVm.CommandLine.Invocation
import MicroVm.CommandLine.Usage
import MicroVm.CommandLine.Word
import MicroVm.Dhcp.V4.Packet
import MicroVm.Dhcp.V4.Responder
import MicroVm.Dhcp.V4.Wire
import MicroVm.Dhcp.V6.Identity
import MicroVm.Dhcp.V6.Message
import MicroVm.Dhcp.V6.Responder
import MicroVm.Failure
import MicroVm.Host.Commands
import MicroVm.Host.ExitStatus
import MicroVm.Host.Files
import MicroVm.Host.SystemError
import MicroVm.Hypervisor.Api
import MicroVm.Hypervisor.BootConfig
import MicroVm.Hypervisor.Control
import MicroVm.Hypervisor.Escalation
import MicroVm.Hypervisor.HttpStatus
import MicroVm.Hypervisor.LogLine
import MicroVm.Hypervisor.Process
import MicroVm.Hypervisor.ShutdownSignal
import MicroVm.Hypervisor.Supervisor
import MicroVm.Json.Parser
import MicroVm.Json.Printer
import MicroVm.Json.Record
import MicroVm.Json.Value
import MicroVm.Layout
import MicroVm.Machine.Record
import MicroVm.Machine.Store
import MicroVm.Machine.Uid
import MicroVm.Main
import MicroVm.Network.Cidr
import MicroVm.Network.Discovery
import MicroVm.Network.InterfaceMode
import MicroVm.Network.InterfaceName
import MicroVm.Network.Ipv4
import MicroVm.Network.Ipv6
import MicroVm.Network.Lease
import MicroVm.Network.Link
import MicroVm.Network.LinkTools
import MicroVm.Network.Links
import MicroVm.Network.Mac
import MicroVm.Network.PortMapping
import MicroVm.Network.Resolver
import MicroVm.Network.Takeover
import MicroVm.Octets
import MicroVm.Program
import MicroVm.Random.ChaCha
import MicroVm.Random.SipHash
import MicroVm.Rehearsal.Agenda
import MicroVm.Rehearsal.CommandScript
import MicroVm.Rehearsal.ControlServer
import MicroVm.Rehearsal.DeviceTable
import MicroVm.Rehearsal.Faults
import MicroVm.Rehearsal.FileTree
import MicroVm.Rehearsal.HypervisorScript
import MicroVm.Rehearsal.NetworkScript
import MicroVm.Rehearsal.PatientGuest
import MicroVm.Rehearsal.World
import MicroVm.Run.Lifecycle
import MicroVm.Run.Responders
import MicroVm.Run.Sandbox
import MicroVm.Run.Surroundings
import MicroVm.Run.Teardown
import MicroVm.Run.TeardownStep
import MicroVm.Settings
import MicroVm.Storage.Chain
import MicroVm.Storage.Device
import MicroVm.Storage.DeviceTools
import MicroVm.Storage.Devices
import MicroVm.Storage.Lock
import MicroVm.Storage.Overlay
import MicroVm.Storage.Table
import MicroVm.Text.Blank
import MicroVm.Text.Numeral
import MicroVm.Text.Quoted
import MicroVm.Text.Shown
import MicroVm.Text.Slice
import MicroVm.Text.Split
import MicroVm.Text.Utf8
import MicroVm.Time.Duration
import MicroVm.Time.Timestamp
import MicroVm.Proofs.Program.Conduct
import MicroVm.Proofs.Storage.DeviceNames
import MicroVm.Proofs.Text.Occurrence
import MicroVm.Proofs.Storage.HostDevices
import MicroVm.Proofs.Storage.Stacking
import MicroVm.Proofs.Storage.Attachment
import MicroVm.Proofs.Storage.Activation
import MicroVm.Proofs.Storage.Deactivation
import MicroVm.Proofs.Run.HostAccess
import MicroVm.Proofs.Run.ResponderTasks
import MicroVm.Proofs.Run.TeardownRuns
import MicroVm.Proofs.Run.Course
import MicroVm.Proofs.Run.Milestones
import MicroVm.Proofs.Run.SaveProtocol
import MicroVm.Proofs.Run.SavedRecords
import MicroVm.Proofs.Program.Requests
import MicroVm.Proofs.Storage.Requests
import MicroVm.Proofs.Storage.Operations
import MicroVm.Proofs.Storage.Ownership
import MicroVm.Proofs.Storage.Serialisation
import MicroVm.Proofs.Storage.CriticalSections
import MicroVm.Proofs.Storage.ConcurrentActivation
import MicroVm.Proofs.Storage.Release
import MicroVm.Proofs.Storage.Overlay
import MicroVm.Proofs.Run.StorageRelease
import MicroVm.Proofs.Storage.SharedHost
import MicroVm.Proofs.Dhcp.V4.Encoding
import MicroVm.Proofs.Dhcp.V4.Decoding
import MicroVm.Proofs.Dhcp.V4.Answers
import MicroVm.Dhcp.Service
import MicroVm.Proofs.Dhcp.Options
import MicroVm.Proofs.Dhcp.Service
import MicroVm.Proofs.Dhcp.V4.Delivery
import MicroVm.Proofs.Dhcp.V6.MessageFormat
import MicroVm.Proofs.Dhcp.V6.Answers
import MicroVm.Proofs.Dhcp.V6.Addresses
import MicroVm.Proofs.Dhcp.V6.Delivery
import MicroVm.Proofs.Text.Digits
import MicroVm.Proofs.Text.Encoding
import MicroVm.Proofs.Text.Splitting
import MicroVm.Proofs.Json.RoundTrip
import MicroVm.Proofs.Json.Records
import MicroVm.Proofs.Network.AddressText
import MicroVm.Proofs.Time.TimestampText
import MicroVm.Proofs.Machine.RecordFormat
import MicroVm.Proofs.Machine.StoreRequests
import MicroVm.Proofs.Rehearsal.Directory
import MicroVm.Proofs.Rehearsal.FileConduct
import MicroVm.Proofs.Machine.StoreReaders
import MicroVm.Proofs.Machine.SaveSteps
import MicroVm.Proofs.Machine.AtomicSave
import MicroVm.Proofs.Machine.StoreMap
import MicroVm.Proofs.Network.Takeover
import MicroVm.Proofs.Network.Candidates
import MicroVm.Proofs.Run.Handover
import MicroVm.Proofs.Machine.Confinement
import MicroVm.Proofs.Network.InterfaceName
import MicroVm.Proofs.Network.GuestDevices
import MicroVm.Proofs.Hypervisor.SupervisorRuns
import MicroVm.Proofs.Hypervisor.BootProtocol
import MicroVm.Proofs.Hypervisor.SupervisedHost
import MicroVm.Proofs.Time.DurationOrder
import MicroVm.Proofs.Hypervisor.SignalListener
import MicroVm.Proofs.Rehearsal.AgendaRuns
import MicroVm.Proofs.Hypervisor.Escalation
import MicroVm.Proofs.Program.Execution
import MicroVm.Proofs.Network.Classification
import MicroVm.Proofs.Network.PlannedNetwork
import MicroVm.Proofs.Network.CallSequence
import MicroVm.Proofs.Network.TakeoverScript
import MicroVm.Proofs.Network.Rediscovery
import MicroVm.Proofs.Network.Polling
import MicroVm.Proofs.Storage.TableText
import MicroVm.Proofs.Storage.TableMeaning
import MicroVm.Proofs.Storage.FaultlessActivation
import MicroVm.Proofs.Storage.RemovalMessages
import MicroVm.Proofs.Program.Heeding
import MicroVm.Proofs.Storage.BuildSteps
import MicroVm.Proofs.Storage.BestEffort
import MicroVm.Proofs.Storage.LoopDevices
import MicroVm.Proofs.Storage.OverlayRoom
import MicroVm.Proofs.Storage.OverlaySize
import MicroVm.Proofs.Network.Subnet
import MicroVm.Proofs.Dhcp.V4.ServerId
import MicroVm.Proofs.Text.Numerals
import MicroVm.Proofs.Network.AddressNotation
import MicroVm.Proofs.Network.DefaultRoute
import MicroVm.Proofs.Network.NameServers
import MicroVm.Proofs.Run.GuestServers
import MicroVm.Proofs.Text.Items
import MicroVm.Proofs.Network.PortNotation
import MicroVm.Proofs.Hypervisor.LogMessage
