import MicroVm.Octets

/-!
# DHCPv6 messages

A message has a kind, a transaction id of three bytes and a list of options. On the wire an option
is its code, the length of its value and the value, with 16 bits for code and length.
-/

namespace MicroVm.Dhcp.V6

def serverPort : Nat := 547

def clientPort : Nat := 546

inductive Kind
  | solicit
  | advertise
  | request
  | confirm
  | renew
  | rebind
  | reply
  | release
  deriving DecidableEq, Repr

namespace Kind

def code : Kind → UInt8
  | .solicit => 1
  | .advertise => 2
  | .request => 3
  | .confirm => 4
  | .renew => 5
  | .rebind => 6
  | .reply => 7
  | .release => 8

def all : List Kind := [.solicit, .advertise, .request, .confirm, .renew, .rebind, .reply, .release]

def ofCode? (code : UInt8) : Option Kind := all.find? fun kind ↦ kind.code == code

def name : Kind → String
  | .solicit => "Solicit"
  | .advertise => "Advertise"
  | .request => "Request"
  | .confirm => "Confirm"
  | .renew => "Renew"
  | .rebind => "Rebind"
  | .reply => "Reply"
  | .release => "Release"

end Kind

/-! ## Codes of options -/

namespace Code

def clientId : UInt16 := 1

def serverId : UInt16 := 2

def association : UInt16 := 3

def address : UInt16 := 5

def status : UInt16 := 13

def dnsServers : UInt16 := 23

end Code

abbrev Entry := UInt16 × List UInt8

structure Message where
  kindCode : UInt8
  transaction : Octets 3
  options : List Entry
  deriving DecidableEq, Repr

inductive MessageFault
  | tooShort (length : Nat)
  | headerTruncated
  | optionTruncated (code : UInt16)
  deriving DecidableEq, Repr

def MessageFault.message : MessageFault → String
  | .tooShort length => s!"message too short: {length} bytes"
  | .headerTruncated => "option header truncated"
  | .optionTruncated code => s!"option {code.toNat} truncated"

def decodeOptions : List UInt8 → Except MessageFault (List Entry)
  | [] => .ok []
  | c0 :: c1 :: n0 :: n1 :: bytes =>
    let code := word16OfBytes c0 c1
    match _h : takeExactly? (word16OfBytes n0 n1).toNat bytes with
    | none => .error (.optionTruncated code)
    | some (value, rest) => (decodeOptions rest).map ((code, value) :: ·)
  | _ => .error .headerTruncated
  termination_by bytes => bytes.length
  decreasing_by
    have := (takeExactly?_eq_some_iff.1 _h).1
    simp [this]
    omega

/-- The bytes of an option. The length is written in 16 bits, whatever it is. -/
def encodeOption (entry : Entry) : List UInt8 :=
  bytesOfWord16 entry.1 ++ bytesOfWord16 (UInt16.ofNat entry.2.length) ++ entry.2

def encodeOptions (options : List Entry) : List UInt8 := options.flatMap encodeOption

namespace Message

def decode : List UInt8 → Except MessageFault Message
  | kindCode :: t0 :: t1 :: t2 :: bytes =>
    (decodeOptions bytes).map fun options ↦
      { kindCode, transaction := ⟨[t0, t1, t2], rfl⟩, options }
  | bytes => .error (.tooShort bytes.length)

def encode (message : Message) : List UInt8 :=
  message.kindCode :: message.transaction.bytes ++ encodeOptions message.options

def kind? (message : Message) : Option Kind := Kind.ofCode? message.kindCode

def optionsOf (message : Message) (code : UInt16) : List (List UInt8) :=
  (message.options.filter fun entry ↦ entry.1 == code).map Prod.snd

def option? (message : Message) (code : UInt16) : Option (List UInt8) :=
  (message.optionsOf code).head?

end Message

end MicroVm.Dhcp.V6
