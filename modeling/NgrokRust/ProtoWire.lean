import NgrokRust.JsonRecords
import NgrokRust.IncomingStreams
import NgrokRust.TrafficPolicies

/-!
# The JSON of the messages

How the messages of the agent and of the server are written as JSON and read again, with
the keys, the defaults and the fields that are left out.  Numbers and Base64 are
parameters.  What is read is what was written, except that a policy is sent as a string and
stays one.
-/

namespace NgrokRust

open JsonTrees

/-- How numbers are written and read, and the Base64 of bytes. A float that is not finite
has no number. -/
structure Formats (Num Float64 : Type) where
  ofInt : Int → Num
  toInt : Num → Option Int
  ofFloat : Float64 → Option Num
  toFloat : Num → Option Float64
  zero : Float64
  isZero : Float64 → Bool
  encode : List UInt8 → String
  decode : String → Option (List UInt8)

def IsI64 (number : Int) : Prop := -2 ^ 63 ≤ number ∧ number < 2 ^ 63

def IsU64 (number : Int) : Prop := 0 ≤ number ∧ number < 2 ^ 64

instance (number : Int) : Decidable (IsI64 number) := inferInstanceAs (Decidable (_ ∧ _))

instance (number : Int) : Decidable (IsU64 number) := inferInstanceAs (Decidable (_ ∧ _))

namespace Formats

variable {Num Float64 : Type} (formats : Formats Num Float64)

/-- Integers and bytes are read as they were written, and the default float is zero. -/
structure Lawful : Prop where
  toInt_ofInt : ∀ number, IsI64 number → formats.toInt (formats.ofInt number) = some number
  decodes : ∀ bytes, formats.decode (formats.encode bytes) = some bytes
  isZero_zero : formats.isZero formats.zero = true

/-- A float is finite and is read as it was written. -/
def ReadsBack (float : Float64) : Prop :=
  ∃ number, formats.ofFloat float = some number ∧ formats.toFloat number = some float

def i64 : Format Num Int where
  write number := .ok (.number (formats.ofInt number))
  read
    | .number number => (formats.toInt number).filter fun number => IsI64 number
    | _ => none

/-- `null` stands for a float that is not finite. -/
def f64 : Format Num Float64 where
  write float := .ok ((formats.ofFloat float).elim .null .number)
  read
    | .number number => formats.toFloat number
    | _ => none

def base64bytes : Format Num (List UInt8) where
  write bytes := .ok (.string (formats.encode bytes))
  read json := (readString json).bind formats.decode

variable {formats}

theorem i64_carries (lawful : formats.Lawful) {number : Int} (i64 : IsI64 number) :
    formats.i64.Carries number number :=
  ⟨_, rfl, by simp [Formats.i64, lawful.toInt_ofInt number i64, i64]⟩

theorem f64_carries {float : Float64} (back : formats.ReadsBack float) :
    formats.f64.Carries float float := by
  obtain ⟨number, written, read⟩ := back
  exact ⟨_, rfl, by simp [f64, written, read]⟩

theorem base64bytes_carries (lawful : formats.Lawful) (bytes : List UInt8) :
    formats.base64bytes.Carries bytes bytes :=
  ⟨_, rfl, by simp [base64bytes, readString, lawful.decodes]⟩

end Formats

namespace Proto

variable {Num Float64 : Type}

def SecretString.format : Format Num SecretString :=
  Format.string.transparent .mk (·.text)

def SecretBytes.format (formats : Formats Num Float64) : Format Num SecretBytes :=
  formats.base64bytes.transparent .mk (·.bytes)

theorem SecretString.carries {secret : SecretString} :
    (SecretString.format : Format Num SecretString).Carries secret secret :=
  Format.string_carries.newtype

theorem SecretBytes.carries {formats : Formats Num Float64} (lawful : formats.Lawful)
    {secret : SecretBytes} : (SecretBytes.format formats).Carries secret secret :=
  (Formats.base64bytes_carries lawful secret.bytes).newtype

theorem strings_carries {strings : List String} :
    (Format.string : Format Num String).array.Carries strings strings :=
  Format.Carries.arrayOf fun _ _ => Format.string_carries

theorem optionString_carries {option : Option String} :
    (Field.optional Format.string : Field Num (Option String)).Carries option option :=
  Field.Carries.optionalOf rfl fun _ _ => Format.string_carries

section Sessions

variable (formats : Formats Num Float64)

def AuthExtra.record : Record Num AuthExtra AuthExtra :=
  Record.start AuthExtra.mk
    |>.field "OS" (·.os) (.required .string)
    |>.field "Arch" (·.arch) (.required .string)
    |>.field "AuthToken" (·.authToken) (.required SecretString.format)
    |>.field "Version" (·.version) (.required .string)
    |>.field "Hostname" (·.hostname) (.required .string)
    |>.field "UserAgent" (·.userAgent) (.required .string)
    |>.field "Metadata" (·.metadata) (.required .string)
    |>.field "Cookie" (·.cookie) (.required SecretString.format)
    |>.field "HeartbeatInterval" (·.heartbeatInterval) (.required formats.i64)
    |>.field "HeartbeatTolerance" (·.heartbeatTolerance) (.required formats.i64)
    |>.field "UpdateUnsupportedError" (·.updateUnsupportedError) (.optional .string)
    |>.field "StopUnsupportedError" (·.stopUnsupportedError) (.optional .string)
    |>.field "RestartUnsupportedError" (·.restartUnsupportedError) (.optional .string)
    |>.field "ProxyType" (·.proxyType) (.required .string)
    |>.field "MutualTLS" (·.mutualTls) (.required .bool)
    |>.field "ServiceRun" (·.serviceRun) (.required .bool)
    |>.field "ConfigVersion" (·.configVersion) (.required .string)
    |>.field "CustomInterface" (·.customInterface) (.required .bool)
    |>.field "CustomCAs" (·.customCas) (.required .bool)
    |>.field "ClientType" (·.clientType) (.required .string)

def Auth.record : Record Num Auth Auth :=
  Record.start Auth.mk
    |>.field "Version" (·.version) (.required (.array .string))
    |>.field "ClientId" (·.clientId) (.required .string)
    |>.field "Extra" (·.extra) (.required (AuthExtra.record formats).format)

structure AuthRespExtra where
  version : Option String
  region : Option String
  cookie : Option SecretString
  accountName : Option String
  sessionDuration : Option Int
  planName : Option String
  banner : Option String

/-- `AuthRespExtra::default`. -/
instance : Inhabited AuthRespExtra := ⟨⟨none, none, none, none, none, none, none⟩⟩

structure AuthResp where
  version : String
  clientId : String
  extra : AuthRespExtra

def AuthRespExtra.record : Record Num AuthRespExtra AuthRespExtra :=
  Record.start AuthRespExtra.mk
    |>.field "Version" (·.version) (.optional .string)
    |>.field "Region" (·.region) (.optional .string)
    |>.field "Cookie" (·.cookie) (.optional SecretString.format)
    |>.field "AccountName" (·.accountName) (.optional .string)
    |>.field "SessionDuration" (·.sessionDuration) (.optional formats.i64)
    |>.field "PlanName" (·.planName) (.optional .string)
    |>.field "Banner" (·.banner) (.optional .string)

def AuthResp.record : Record Num AuthResp AuthResp :=
  Record.start AuthResp.mk
    |>.field "Version" (·.version) (.required .string)
    |>.field "ClientId" (·.clientId) (.required .string)
    |>.field "Extra" (·.extra) (.defaulting default (AuthRespExtra.record formats).format)

/-- The labels are the entries of a `HashMap`. -/
structure StartTunnelWithLabel where
  labels : List (String × String)
  forwardsTo : String
  forwardsProto : String
  metadata : String

structure StartTunnelWithLabelResp where
  id : String

structure Unbind where
  clientId : String

structure UnbindResp where

def StartTunnelWithLabel.record : Record Num StartTunnelWithLabel StartTunnelWithLabel :=
  Record.start StartTunnelWithLabel.mk
    |>.field "Labels" (·.labels) (.required (.map .string))
    |>.field "ForwardsTo" (·.forwardsTo) (.required .string)
    |>.field "ForwardsProto" (·.forwardsProto) (.required .string)
    |>.field "Metadata" (·.metadata) (.required .string)

def StartTunnelWithLabelResp.record :
    Record Num StartTunnelWithLabelResp StartTunnelWithLabelResp :=
  Record.start StartTunnelWithLabelResp.mk
    |>.field "Id" (·.id) (.required .string)

def Unbind.record : Record Num Unbind Unbind :=
  Record.start Unbind.mk
    |>.field "Id" (·.clientId) (.required .string)

def UnbindResp.record : Record Num UnbindResp UnbindResp := Record.start UnbindResp.mk

structure Stop where

structure Restart where

structure Update where
  version : String
  permitMajorVersion : Bool

structure CommandResp where
  error : Option String
deriving DecidableEq

def Stop.record : Record Num Stop Stop := Record.start Stop.mk

def Restart.record : Record Num Restart Restart := Record.start Restart.mk

def Update.record : Record Num Update Update :=
  Record.start Update.mk
    |>.field "Version" (·.version) (.required .string)
    |>.field "PermitMajorVersion" (·.permitMajorVersion) (.required .bool)

/-- No error is no member. -/
def CommandResp.record : Record Num CommandResp CommandResp :=
  Record.start CommandResp.mk
    |>.field "Error" (·.error) (.skipping Option.isNone none (.option .string))

def StopTunnel.record : Record Num Agent.StopTunnel Agent.StopTunnel :=
  Record.start Agent.StopTunnel.mk
    |>.field "Id" (·.clientId) (.required .string)
    |>.field "Message" (·.message) (.required .string)
    |>.field "ErrorCode" (·.errorCode) (.optional .string)

def EdgeType.asStr : Agent.EdgeType → String
  | .undefined => "0"
  | .tcp => "1"
  | .tls => "2"
  | .https => "3"

/-- `EdgeType::from_str`, which never fails. -/
def EdgeType.fromStr (string : String) : Agent.EdgeType :=
  if string = "1" then .tcp
  else if string = "2" then .tls
  else if string = "3" then .https
  else .undefined

def EdgeType.format : Format Num Agent.EdgeType :=
  Format.string.transparent EdgeType.fromStr EdgeType.asStr

def ProxyHeader.record : Record Num Agent.ProxyHeader Agent.ProxyHeader :=
  Record.start Agent.ProxyHeader.mk
    |>.field "Id" (·.id) (.required .string)
    |>.field "ClientAddr" (·.clientAddr) (.required .string)
    |>.field "Proto" (·.proto) (.required .string)
    |>.field "EdgeType" (·.edgeType) (.required EdgeType.format)
    |>.field "PassthroughTLS" (·.passthroughTls) (.required .bool)

end Sessions

section ThereAndBack

variable {formats : Formats Num Float64}

theorem AuthExtra.distinct : (AuthExtra.record formats).keys.Nodup := by
  simp only [AuthExtra.record, Record.keys_field, Record.keys_start, List.nil_append,
    List.cons_append]
  decide

theorem Auth.distinct : (Auth.record formats).keys.Nodup := by
  simp only [Auth.record, Record.keys_field, Record.keys_start, List.nil_append,
    List.cons_append]
  decide

theorem AuthRespExtra.distinct : (AuthRespExtra.record formats).keys.Nodup := by
  simp only [AuthRespExtra.record, Record.keys_field, Record.keys_start, List.nil_append,
    List.cons_append]
  decide

theorem AuthResp.distinct : (AuthResp.record formats).keys.Nodup := by
  simp only [AuthResp.record, Record.keys_field, Record.keys_start, List.nil_append,
    List.cons_append]
  decide

theorem StartTunnelWithLabel.distinct :
    (StartTunnelWithLabel.record : Record Num _ _).keys.Nodup := by
  simp only [StartTunnelWithLabel.record, Record.keys_field, Record.keys_start, List.nil_append,
    List.cons_append]
  decide

theorem Update.distinct : (Update.record : Record Num _ _).keys.Nodup := by
  simp only [Update.record, Record.keys_field, Record.keys_start, List.nil_append,
    List.cons_append]
  decide

theorem StopTunnel.distinct : (StopTunnel.record : Record Num _ _).keys.Nodup := by
  simp only [StopTunnel.record, Record.keys_field, Record.keys_start, List.nil_append,
    List.cons_append]
  decide

theorem ProxyHeader.distinct : (ProxyHeader.record : Record Num _ _).keys.Nodup := by
  simp only [ProxyHeader.record, Record.keys_field, Record.keys_start, List.nil_append,
    List.cons_append]
  decide

theorem AuthExtra.carries (lawful : formats.Lawful) {extra : AuthExtra}
    (interval : IsI64 extra.heartbeatInterval) (tolerance : IsI64 extra.heartbeatTolerance) :
    (AuthExtra.record formats).format.Carries extra extra :=
  Record.Carries.format AuthExtra.distinct <|
    (Record.Carries.start _ _)
      |>.field Format.string_carries.required
      |>.field Format.string_carries.required
      |>.field SecretString.carries.required
      |>.field Format.string_carries.required
      |>.field Format.string_carries.required
      |>.field Format.string_carries.required
      |>.field Format.string_carries.required
      |>.field SecretString.carries.required
      |>.field (Formats.i64_carries lawful interval).required
      |>.field (Formats.i64_carries lawful tolerance).required
      |>.field optionString_carries
      |>.field optionString_carries
      |>.field optionString_carries
      |>.field Format.string_carries.required
      |>.field Format.bool_carries.required
      |>.field Format.bool_carries.required
      |>.field Format.string_carries.required
      |>.field Format.bool_carries.required
      |>.field Format.bool_carries.required
      |>.field Format.string_carries.required

theorem Auth.carries (lawful : formats.Lawful) {auth : Auth}
    (interval : IsI64 auth.extra.heartbeatInterval)
    (tolerance : IsI64 auth.extra.heartbeatTolerance) :
    (Auth.record formats).format.Carries auth auth :=
  Record.Carries.format Auth.distinct <|
    (Record.Carries.start _ _)
      |>.field strings_carries.required
      |>.field Format.string_carries.required
      |>.field (AuthExtra.carries lawful interval tolerance).required

theorem AuthRespExtra.carries (lawful : formats.Lawful) {extra : AuthRespExtra}
    (duration : ∀ seconds ∈ extra.sessionDuration, IsI64 seconds) :
    (AuthRespExtra.record formats).format.Carries extra extra :=
  Record.Carries.format AuthRespExtra.distinct <|
    (Record.Carries.start _ _)
      |>.field optionString_carries
      |>.field optionString_carries
      |>.field (.optionalOf rfl fun _ _ => SecretString.carries)
      |>.field optionString_carries
      |>.field (.optionalOf rfl fun seconds mem =>
        Formats.i64_carries lawful (duration seconds mem))
      |>.field optionString_carries
      |>.field optionString_carries

theorem AuthResp.carries (lawful : formats.Lawful) {resp : AuthResp}
    (duration : ∀ seconds ∈ resp.extra.sessionDuration, IsI64 seconds) :
    (AuthResp.record formats).format.Carries resp resp :=
  Record.Carries.format AuthResp.distinct <|
    (Record.Carries.start _ _)
      |>.field Format.string_carries.required
      |>.field Format.string_carries.required
      |>.field (AuthRespExtra.carries lawful duration).defaulting

theorem StartTunnelWithLabel.carries {req : StartTunnelWithLabel}
    (labels : (req.labels.map Prod.fst).Nodup) :
    (StartTunnelWithLabel.record : Record Num _ _).format.Carries req req :=
  Record.Carries.format StartTunnelWithLabel.distinct <|
    (Record.Carries.start _ _)
      |>.field (Format.map_carries labels fun _ _ => Format.string_carries).required
      |>.field Format.string_carries.required
      |>.field Format.string_carries.required
      |>.field Format.string_carries.required

theorem StartTunnelWithLabelResp.carries {resp : StartTunnelWithLabelResp} :
    (StartTunnelWithLabelResp.record : Record Num _ _).format.Carries resp resp :=
  Record.Carries.format (List.pairwise_singleton _ _) <|
    (Record.Carries.start _ _)
      |>.field Format.string_carries.required

theorem Unbind.carries {req : Unbind} : (Unbind.record : Record Num _ _).format.Carries req req :=
  Record.Carries.format (List.pairwise_singleton _ _) <|
    (Record.Carries.start _ _)
      |>.field Format.string_carries.required

theorem UnbindResp.carries {resp : UnbindResp} :
    (UnbindResp.record : Record Num _ _).format.Carries resp resp :=
  Record.Carries.format List.Pairwise.nil (Record.Carries.start _ _)

theorem Stop.carries {req : Stop} : (Stop.record : Record Num _ _).format.Carries req req :=
  Record.Carries.format List.Pairwise.nil (Record.Carries.start _ _)

theorem Restart.carries {req : Restart} :
    (Restart.record : Record Num _ _).format.Carries req req :=
  Record.Carries.format List.Pairwise.nil (Record.Carries.start _ _)

theorem Update.carries {req : Update} : (Update.record : Record Num _ _).format.Carries req req :=
  Record.Carries.format Update.distinct <|
    (Record.Carries.start _ _)
      |>.field Format.string_carries.required
      |>.field Format.bool_carries.required

theorem CommandResp.carries {resp : CommandResp} :
    (CommandResp.record : Record Num _ _).format.Carries resp resp := by
  refine Record.Carries.format (List.pairwise_singleton _ _) <|
    (Record.Carries.start _ _)
      |>.field (.skipping Option.isNone_iff_eq_none.1 fun _ => ?_)
  refine Format.Carries.option rfl ?_
  cases resp.error with
  | none => exact .none
  | some _ => exact .some Format.string_carries

theorem StopTunnel.carries {req : Agent.StopTunnel} :
    (StopTunnel.record : Record Num _ _).format.Carries req req :=
  Record.Carries.format StopTunnel.distinct <|
    (Record.Carries.start _ _)
      |>.field Format.string_carries.required
      |>.field Format.string_carries.required
      |>.field optionString_carries

theorem EdgeType.fromStr_asStr (edgeType : Agent.EdgeType) :
    EdgeType.fromStr (EdgeType.asStr edgeType) = edgeType := by
  cases edgeType <;> decide

theorem EdgeType.carries {edgeType : Agent.EdgeType} :
    (EdgeType.format : Format Num _).Carries edgeType edgeType := by
  have carried : (EdgeType.format : Format Num _).Carries edgeType
      (EdgeType.fromStr (EdgeType.asStr edgeType)) := Format.string_carries.newtype
  rwa [EdgeType.fromStr_asStr] at carried

theorem ProxyHeader.carries {header : Agent.ProxyHeader} :
    (ProxyHeader.record : Record Num _ _).format.Carries header header :=
  Record.Carries.format ProxyHeader.distinct <|
    (Record.Carries.start _ _)
      |>.field Format.string_carries.required
      |>.field Format.string_carries.required
      |>.field Format.string_carries.required
      |>.field EdgeType.carries.required
      |>.field Format.bool_carries.required

end ThereAndBack

end Proto

end NgrokRust
