import TagConsole.Document.Codec
import TagConsole.Link.Settings
import TagConsole.Uuid
import TagConsole.Wire.Opcode

/-!
The configuration: its sections, their defaults, and how they stand in a document.
-/

namespace TagConsole

namespace Config

open Link (DataBits FlowControl Parity StopBits)

structure LinkSection where
  baudRate : Nat := 115200
  dataBits : DataBits := .eight
  parity : Parity := .none
  stopBits : StopBits := .one
  flowControl : FlowControl := .none
  readTimeout : Nat := 50
  readBuffer : Nat := 1024
  inboundCapacity : Nat := 64
  deriving DecidableEq, Repr

def serialService : Uuid :=
  ⟨[0x00, 0x00, 0x11, 0x01, 0x00, 0x00, 0x10, 0x00, 0x80, 0x00, 0x00, 0x80, 0x5F, 0x9B, 0x34, 0xFB],
    rfl⟩

structure RadioSection where
  nameFilter : String := "chameleon"
  serviceUuid : Uuid := serialService
  deriving DecidableEq, Repr

structure DeviceSection where
  version : Nat := 5000
  scan : Nat := 10000
  set : Nat := 3000
  raw : Nat := 5000
  deriving DecidableEq, Repr

structure TerminalSection where
  prompt : String := "proxmark3> "
  historySize : Nat := 100
  outputLimit : Nat := 1000
  deriving DecidableEq, Repr

inductive LogLayout where
  | pretty
  | compact
  deriving DecidableEq, Repr

def LogLayout.all : List (String × LogLayout) := [("pretty", pretty), ("compact", compact)]

def LogLayout.name : LogLayout → String := Link.nameOf all

structure LoggingSection where
  level : String := "info"
  layout : LogLayout := .pretty
  deriving DecidableEq, Repr

end Config

structure Config where
  link : Config.LinkSection := {}
  radio : Config.RadioSection := {}
  device : Config.DeviceSection := {}
  terminal : Config.TerminalSection := {}
  logging : Config.LoggingSection := {}
  deriving DecidableEq, Repr

namespace Config

def LinkSection.settings (link : LinkSection) : Link.Settings where
  baudRate := link.baudRate
  dataBits := link.dataBits
  flowControl := link.flowControl
  parity := link.parity
  stopBits := link.stopBits
  readTimeout := .ofMillis link.readTimeout

def DeviceSection.deadline (device : DeviceSection) : Wire.Opcode → Nat
  | .getVersion => device.version
  | .scanTag => device.scan
  | .rawExchange => device.raw
  | .setSlot | .getSlot | .setUid | .setSak | .setAtqa | .startEmulation | .stopEmulation => device.set

open Document (Codec Member Form Value)
open Link (DataBits FlowControl Parity StopBits)

def word32 : Codec Nat := .number (UInt32.size - 1)

def word64 : Codec Nat := .number (UInt64.size - 1)

def byteOf? : Value → Option UInt8
  | .integer n => if 0 ≤ n ∧ n < 256 then some (UInt8.ofNat n.toNat) else none
  | _ => none

/-- An identifier is a text, or in a file a list that starts with its bytes. -/
def identifier : Codec Uuid where
  read
    | _, .text s => Uuid.ofText? s
    | .file, .list values => ((values.take 16).mapM byteOf?).bind Uuid.ofBytes?
    | _, _ => none
  write uuid := .text uuid.text

def linkMembers : List (Member LinkSection) :=
  [.of "baud_rate" word32 (·.baudRate) fun link n => { link with baudRate := n },
   .of "data_bits" (.choice DataBits.all DataBits.name) (·.dataBits)
     fun link bits => { link with dataBits := bits },
   .of "parity" (.choice Parity.all Parity.name) (·.parity)
     fun link parity => { link with parity := parity },
   .of "stop_bits" (.choice StopBits.all StopBits.name) (·.stopBits)
     fun link bits => { link with stopBits := bits },
   .of "flow_control" (.choice FlowControl.all FlowControl.name) (·.flowControl)
     fun link control => { link with flowControl := control },
   .of "read_timeout_ms" word64 (·.readTimeout) fun link n => { link with readTimeout := n },
   .of "read_buffer" word64 (·.readBuffer) fun link n => { link with readBuffer := n },
   .of "inbound_capacity" word64 (·.inboundCapacity) fun link n => { link with inboundCapacity := n }]

def radioMembers : List (Member RadioSection) :=
  [.of "name_filter" .string (·.nameFilter) fun radio text => { radio with nameFilter := text },
   .of "service_uuid" identifier (·.serviceUuid) fun radio uuid => { radio with serviceUuid := uuid }]

def deviceMembers : List (Member DeviceSection) :=
  [.of "version_timeout_ms" word64 (·.version) fun device n => { device with version := n },
   .of "scan_timeout_ms" word64 (·.scan) fun device n => { device with scan := n },
   .of "set_timeout_ms" word64 (·.set) fun device n => { device with set := n },
   .of "raw_timeout_ms" word64 (·.raw) fun device n => { device with raw := n }]

def terminalMembers : List (Member TerminalSection) :=
  [.of "prompt" .string (·.prompt) fun terminal text => { terminal with prompt := text },
   .of "history_size" word64 (·.historySize) fun terminal n => { terminal with historySize := n },
   .of "output_limit" word64 (·.outputLimit) fun terminal n => { terminal with outputLimit := n }]

def loggingMembers : List (Member LoggingSection) :=
  [.of "level" .string (·.level) fun logging text => { logging with level := text },
   .of "format" (.choice LogLayout.all LogLayout.name) (·.layout)
     fun logging layout => { logging with layout := layout }]

def linkCodec : Codec LinkSection := .record linkMembers {}

def deviceCodec : Codec DeviceSection := .record deviceMembers {}

def members : List (Member Config) :=
  [.of "link" linkCodec (·.link) fun config link => { config with link := link },
   .of "radio" (.record radioMembers {}) (·.radio) fun config radio => { config with radio := radio },
   .of "device" deviceCodec (·.device) fun config device => { config with device := device },
   .of "terminal" (.record terminalMembers {}) (·.terminal)
     fun config terminal => { config with terminal := terminal },
   .of "logging" (.record loggingMembers {}) (·.logging)
     fun config logging => { config with logging := logging }]

def codec : Codec Config := .record members {}

end Config

end TagConsole
