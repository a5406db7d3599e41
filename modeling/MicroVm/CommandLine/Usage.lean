import MicroVm.CommandLine.Choices

/-!
# Usage

What the program says about itself, and why it refuses a command line.
-/

namespace MicroVm.CommandLine

def programName : String := "fcspawn"

def versionText : String := programName ++ " 0.1.0"

namespace ValueOption

def purpose : ValueOption → String
  | .baseDirectory => "Base directory for VM records, images, kernels and overlays"
  | .hypervisor => "Firecracker binary"
  | .lockPath => "Host-wide lock file serializing device-mapper changes"
  | .resolverPath => "resolv.conf the guest DNS servers are read from"
  | .networkTimeout => "Seconds to wait for container interfaces to appear"
  | .shutdownTimeout => "Seconds between the shutdown request and the forced kill"

def explanation (option : ValueOption) : String :=
  s!"  --{option.name} <VALUE>  {option.purpose} [env: {option.variableName}]"

end ValueOption

def usageText : String :=
  "\n".intercalate <|
    ["Boot and supervise one Firecracker microVM from inside its sandbox container",
      "",
      s!"Usage: {programName} [OPTIONS] <VM_ID>",
      ""] ++
    ValueOption.all.map ValueOption.explanation ++
    [s!"  --{dhcpv6Name}  Also answer DHCPv6 on leased interfaces [env: {dhcpv6Variable}]",
      "  -h, --help  Print help",
      "  -V, --version  Print version"]

def Refusal.message : Refusal → String
  | .help => usageText
  | .version => versionText
  | .unknownArgument => "error: unexpected argument found"
  | .invalidValue => "error: a value is missing or invalid"
  | .badNumber => "error: a value is not a number in range"
  | .repeated => "error: an option cannot be used multiple times"
  | .unneededValue => "error: an option takes no value"
  | .missingMachine => "error: the required argument <VM_ID> was not provided"

def Refusal.isWish (refusal : Refusal) : Bool := refusal == .help || refusal == .version

end MicroVm.CommandLine
