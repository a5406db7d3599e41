import MicroVm.Layout
import MicroVm.Settings
import MicroVm.Text.Numeral

/-!
# Choices

What a command line and its environment choose. Each choice can be made once on the command line;
the environment fills in what is left, and then come the defaults.
-/

namespace MicroVm.CommandLine

/-- Why there is no invocation. Two reasons are wishes for a text, and the others are faults. -/
inductive Refusal
  | help
  | version
  | unknownArgument
  /-- A value is missing or empty, or is none of those that are possible. -/
  | invalidValue
  | badNumber
  | repeated
  | unneededValue
  | missingMachine
  deriving DecidableEq, Repr

inductive ValueOption
  | baseDirectory
  | hypervisor
  | lockPath
  | resolverPath
  | networkTimeout
  | shutdownTimeout
  deriving DecidableEq, Repr

namespace ValueOption

def name : ValueOption → String
  | .baseDirectory => "base-dir"
  | .hypervisor => "firecracker-bin"
  | .lockPath => "lock-path"
  | .resolverPath => "resolv-conf"
  | .networkTimeout => "network-timeout"
  | .shutdownTimeout => "shutdown-timeout"

def variableName : ValueOption → String
  | .baseDirectory => "FCSPAWN_BASE_DIR"
  | .hypervisor => "FCSPAWN_FIRECRACKER"
  | .lockPath => "FCSPAWN_LOCK_PATH"
  | .resolverPath => "FCSPAWN_RESOLV_CONF"
  | .networkTimeout => "FCSPAWN_NETWORK_TIMEOUT"
  | .shutdownTimeout => "FCSPAWN_SHUTDOWN_TIMEOUT"

/-- All options with a value, in the order in which the environment is asked. -/
def all : List ValueOption :=
  [.baseDirectory, .hypervisor, .lockPath, .resolverPath, .networkTimeout, .shutdownTimeout]

def ofName? (name : String) : Option ValueOption := all.find? fun option ↦ option.name = name

end ValueOption

def dhcpv6Name : String := "dhcpv6"

def dhcpv6Variable : String := "FCSPAWN_DHCPV6"

structure Choices where
  machine : Option String := none
  baseDirectory : Option String := none
  hypervisor : Option String := none
  lockPath : Option String := none
  resolverPath : Option String := none
  /-- In seconds. -/
  networkTimeout : Option Nat := none
  /-- In seconds. -/
  shutdownTimeout : Option Nat := none
  dhcpv6 : Option Bool := none
  deriving DecidableEq, Repr

/-- A path, which must not be empty. -/
def pathValue (text : String) : Except Refusal String :=
  if text = "" then .error .invalidValue else .ok text

def secondsValue (text : String) : Except Refusal Nat :=
  (Text.readWord64 text.toList).mapError fun _ ↦ .badNumber

def truthValue (text : String) : Except Refusal Bool :=
  if text = "true" then .ok true
  else if text = "false" then .ok false
  else .error .invalidValue

namespace Choices

def has (choices : Choices) : ValueOption → Bool
  | .baseDirectory => choices.baseDirectory.isSome
  | .hypervisor => choices.hypervisor.isSome
  | .lockPath => choices.lockPath.isSome
  | .resolverPath => choices.resolverPath.isSome
  | .networkTimeout => choices.networkTimeout.isSome
  | .shutdownTimeout => choices.shutdownTimeout.isSome

def set (choices : Choices) (text : String) : ValueOption → Except Refusal Choices
  | .baseDirectory => do return { choices with baseDirectory := some (← pathValue text) }
  | .hypervisor => do return { choices with hypervisor := some (← pathValue text) }
  | .lockPath => do return { choices with lockPath := some (← pathValue text) }
  | .resolverPath => do return { choices with resolverPath := some (← pathValue text) }
  | .networkTimeout => do return { choices with networkTimeout := some (← secondsValue text) }
  | .shutdownTimeout => do return { choices with shutdownTimeout := some (← secondsValue text) }

/-- Takes the choice for an option out of the environment when there is none yet. -/
def fill (environment : String → Option String) (choices : Choices) (option : ValueOption) :
    Except Refusal Choices :=
  if choices.has option then .ok choices
  else
    match environment option.variableName with
    | some text => choices.set text option
    | none => .ok choices

def fillDhcpv6 (environment : String → Option String) (choices : Choices) :
    Except Refusal Choices :=
  if choices.dhcpv6.isSome then .ok choices
  else
    match environment dhcpv6Variable with
    | some text => do return { choices with dhcpv6 := some (← truthValue text) }
    | none => .ok choices

def fillAll (environment : String → Option String) (choices : Choices) :
    Except Refusal Choices := do
  let choices ← ValueOption.all.foldlM (fill environment) choices
  choices.fillDhcpv6 environment

def settings (choices : Choices) : Settings :=
  let defaults : Settings := {}
  { defaults with
    hypervisor := choices.hypervisor.getD defaults.hypervisor
    lockPath := choices.lockPath.getD defaults.lockPath
    resolverPath := choices.resolverPath.getD defaults.resolverPath
    networkTimeout := (choices.networkTimeout.map .ofSeconds).getD defaults.networkTimeout
    shutdownGrace := (choices.shutdownTimeout.map .ofSeconds).getD defaults.shutdownGrace
    dhcpv6 := choices.dhcpv6.getD defaults.dhcpv6 }

end Choices

end MicroVm.CommandLine
