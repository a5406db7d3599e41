import MicroVm.Host.ExitStatus
import MicroVm.Host.SystemError
import MicroVm.Hypervisor.HttpStatus
import MicroVm.Hypervisor.ShutdownSignal
import MicroVm.Machine.Uid
import MicroVm.Network.Ipv4
import MicroVm.Run.TeardownStep
import MicroVm.Text.Numeral
import MicroVm.Text.Quoted
import MicroVm.Time.Duration

/-!
# Failures

A failure is a cause together with what was being done when it arose, the widest activity first.
The message of a failure names them in that order with colons between them.
-/

namespace MicroVm

open MicroVm.Host MicroVm.Hypervisor MicroVm.Machine MicroVm.Run MicroVm.Text

inductive Cause
  /-- In the words of the one who reports it. -/
  | reported (text : String)
  /-- A JSON text is malformed or holds something else than it should. -/
  | malformedJson
  | system (error : SystemError)
  | badNumeral (fault : NumeralFault)
  | badAddress
  | notText
  | lengthOutOfRange
  | badUid (fault : UidFault)
  | noHardwareAddress
  | noAddress
  | noInterfaces (timeout : Duration)
  | commandFailed (command errors : String)
  | noLoopDevice (file : String)
  | checkFailed (device : String) (code : Option Nat) (errors : String)
  | noBlockDevice (path : String)
  | deviceInactive
  | overlayTooSmall (overlaySectors baseSectors : Nat)
  | unknownMachine (id : String)
  | noImage (uid : String)
  | noKernel (uid : String)
  | deadlineElapsed
  | connectionClosed
  | unreachable (error : SystemError)
  | refused (path : String) (status : Nat) (body : String)
  | bodyUnreadable (text : String)
  | endedBeforeSocket (status : ExitStatus)
  | socketMissing (path : String) (waited : Duration)
  | signalBeforeBoot (signal : ShutdownSignal)
  | hypervisorFailed (status : ExitStatus)
  | supervisorCrashed (task text : String)
  /-- Some steps of the teardown failed, each with the message of its failure. -/
  | teardownIncomplete (steps : List (TeardownStep × String))
  deriving DecidableEq

inductive Activity
  | executing (command : String)
  | parsingLinks
  | parsingRoutes
  | parsingGateway (text : String)
  | listingInterfaces
  | readingRoute
  | takingOver (interface : String)
  | redirecting (interface : String)
  | creatingStateDirectory
  | writingRecord
  | restrictingRecord
  | placingRecord
  | readingRecord (uid : String)
  | parsingRecord
  | readingStateDirectory
  | lookingUp (id : String)
  | attachingLoop (file : String)
  | detachingLoop (device : String)
  | creatingMapping (name : String)
  | creating (path : String)
  | openingLock (path : String)
  | locking (path : String)
  | removingStaleBase
  | growing (device : String)
  | removingSnapshot
  | parsingSize (device text : String)
  | spawningMapper
  | readingBaseDevice (path : String)
  | readingBaseImage (path : String)
  | openingOverlay (path : String)
  | readingOverlaySize
  | resizingOverlay (path : String)
  | timingOut (path : String) (limit : Duration)
  | putting (path : String)
  | configuringBootSource
  | configuringMachine
  | attachingRoot
  | attachingCard (device card : String)
  | sendingCtrlAltDel
  | removing (path : String)
  | creatingLogPipe (path : String)
  | openingLogPipe (path : String)
  | spawning (program : String)
  | pollingHypervisor
  | waitingForHypervisor
  | killingHypervisor
  | startingInstance
  | loading (id : String)
  | provisioningNetwork
  | provisioningStorage
  | savingRunning
  | creatingSocket
  | settingSocketOption (name : String)
  | bindingToDevice (device : String)
  | bindingAddress (address device : String)
  | lookingUpIndex (device : String)
  | joiningGroup (group device : String)
  | registeringSocket
  | receiving (protocol : String)
  deriving DecidableEq

inductive Failure
  | cause (cause : Cause)
  | within (activity : Activity) (inner : Failure)
  deriving DecidableEq

def codeText : Option Nat → String
  | some code => s!"Some({code})"
  | none => "None"

def joinSteps : List (TeardownStep × String) → String
  | [] => ""
  | [(step, text)] => s!"{step.text}: {text}"
  | (step, text) :: steps => s!"{step.text}: {text}; " ++ joinSteps steps

def Cause.message : Cause → String
  | .reported text => text
  | .malformedJson => "malformed JSON"
  | .system error => error.message
  | .badNumeral fault => fault.message
  | .badAddress => Network.Ipv4.syntaxFault
  | .notText => "stream did not contain valid UTF-8"
  | .lengthOutOfRange => "out of range integral type conversion attempted"
  | .badUid fault => fault.message
  | .noHardwareAddress => "no hardware address"
  | .noAddress => "no IPv4 address"
  | .noInterfaces timeout =>
    s!"timed out after {timeout.text} waiting for usable network interfaces"
  | .commandFailed command errors => s!"{command} failed: {errors}"
  | .noLoopDevice file => s!"losetup printed no device for {file}"
  | .checkFailed device code errors => s!"e2fsck {device} exited with {codeText code}: {errors}"
  | .noBlockDevice path => s!"block device {path} does not exist"
  | .deviceInactive => "block device is not active"
  | .overlayTooSmall overlaySectors baseSectors =>
    s!"overlay ({overlaySectors} sectors) is smaller than the base image ({baseSectors} sectors)"
  | .unknownMachine id => s!"VM not found: {id}"
  | .noImage uid => s!"VM {uid} has no imported image"
  | .noKernel uid => s!"VM {uid} has no imported kernel"
  | .deadlineElapsed => "deadline has elapsed"
  | .connectionClosed => "connection closed before message completed"
  | .unreachable error => s!"error trying to connect: {error.message}: {error.message}"
  | .refused path status body => s!"PUT {path} returned {statusText status}: {body}"
  | .bodyUnreadable text => s!"error reading a body from connection: {text}: {text}"
  | .endedBeforeSocket status =>
    s!"Firecracker exited before opening its API socket: {status.text}"
  | .socketMissing path waited => s!"Firecracker socket {path} not ready after {waited.text}"
  | .signalBeforeBoot signal => s!"received {signal.text} before the guest booted"
  | .hypervisorFailed status => s!"Firecracker exited with {status.text}"
  | .supervisorCrashed task text =>
    s!"hypervisor supervisor panicked: task {task} panicked with message " ++ quoted text
  | .teardownIncomplete steps => "teardown incomplete: " ++ joinSteps steps

def Activity.text : Activity → String
  | .executing command => s!"executing {command}"
  | .parsingLinks => "parsing ip addr output"
  | .parsingRoutes => "parsing ip route output"
  | .parsingGateway text => s!"invalid gateway address: {text}"
  | .listingInterfaces => "listing interfaces"
  | .readingRoute => "reading default route"
  | .takingOver interface => s!"taking over {interface}"
  | .redirecting interface => s!"redirecting {interface}"
  | .creatingStateDirectory => "creating state directory"
  | .writingRecord => "writing VM record"
  | .restrictingRecord => "restricting VM record permissions"
  | .placingRecord => "renaming VM record into place"
  | .readingRecord uid => s!"reading VM record {uid}"
  | .parsingRecord => "parsing VM record"
  | .readingStateDirectory => "reading state directory"
  | .lookingUp id => s!"looking up VM {id}"
  | .attachingLoop file => s!"attaching {file} to a loop device"
  | .detachingLoop device => s!"detaching {device}"
  | .creatingMapping name => s!"creating device-mapper device {name}"
  | .creating path => s!"creating {path}"
  | .openingLock path => s!"opening lock file {path}"
  | .locking path => s!"locking {path}"
  | .removingStaleBase => "removing stale padded base"
  | .growing device => s!"growing filesystem on {device}"
  | .removingSnapshot => "removing snapshot devices"
  | .parsingSize device text => s!"parsing size of {device}: " ++ quoted text
  | .spawningMapper => "spawning dmsetup create"
  | .readingBaseDevice path => s!"reading base device {path}"
  | .readingBaseImage path => s!"reading base image {path}"
  | .openingOverlay path => s!"opening overlay {path}"
  | .readingOverlaySize => "reading overlay size"
  | .resizingOverlay path => s!"resizing overlay {path}"
  | .timingOut path limit => s!"PUT {path} timed out after {limit.text}"
  | .putting path => s!"PUT {path}"
  | .configuringBootSource => "configuring boot source"
  | .configuringMachine => "configuring machine"
  | .attachingRoot => "attaching root drive"
  | .attachingCard device card => s!"attaching {device} to {card}"
  | .sendingCtrlAltDel => "sending Ctrl+Alt+Del"
  | .removing path => s!"removing {path}"
  | .creatingLogPipe path => s!"creating log fifo {path}"
  | .openingLogPipe path => s!"opening log fifo {path}"
  | .spawning program => s!"spawning {program}"
  | .pollingHypervisor => "polling Firecracker"
  | .waitingForHypervisor => "waiting for Firecracker"
  | .killingHypervisor => "killing Firecracker"
  | .startingInstance => "starting instance"
  | .loading id => s!"loading VM {id}"
  | .provisioningNetwork => "provisioning network"
  | .provisioningStorage => "provisioning storage"
  | .savingRunning => "saving running state"
  | .creatingSocket => "creating UDP socket"
  | .settingSocketOption name => s!"setting {name}"
  | .bindingToDevice device => s!"binding socket to device {device}"
  | .bindingAddress address device => s!"binding {address} on {device}"
  | .lookingUpIndex device => s!"looking up index of {device}"
  | .joiningGroup group device => s!"joining {group} on {device}"
  | .registeringSocket => "registering socket with tokio"
  | .receiving protocol => s!"receiving {protocol}"

namespace Failure

def system (error : SystemError) : Failure := .cause (.system error)

def root : Failure → Cause
  | .cause reason => reason
  | .within _ inner => inner.root

/-- The texts of the activities around the cause, the widest first. -/
def activities : Failure → List String
  | .cause _ => []
  | .within activity inner => activity.text :: inner.activities

def message : Failure → String
  | .cause reason => reason.message
  | .within activity inner => activity.text ++ ": " ++ inner.message

end Failure

end MicroVm
