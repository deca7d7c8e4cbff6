import FloatingAddress.Address.Printer
import FloatingAddress.Provider.Field

/-!
# Records of the provider

The provider answers with one of two records: where a failover address is routed, or an
error of its own. Each is read from the object that holds its fields; fields that are not
declared are passed over. If any declared field is missing or invalid, all of those are
reported, in the order of declaration.
-/

namespace FloatingAddress
namespace Provider

/-- Fields that could not be read, each with what is wrong with it. -/
abbrev Defects := List (Text × Defect)

/-- Where a failover address is routed. -/
structure FailoverRecord where
  /-- The failover address. -/
  ip : Text
  /-- Its net mask. -/
  netmask : Text
  /-- The main address of the server that the failover address belongs to. -/
  serverIp : Text
  /-- The number of that server. -/
  serverNumber : Int
  /-- The server that the failover address is routed to. -/
  activeServerIp : Address
deriving DecidableEq

/-- An error that the provider reports. -/
structure ErrorRecord where
  /-- The status that the provider gives. -/
  status : Int
  /-- The code of the error. -/
  code : Text
  /-- The message of the error. -/
  message : Text
deriving DecidableEq

namespace FailoverRecord

/-- The record in the fields of an object. -/
def ofFields (fields : Json.Members) : Except Defects FailoverRecord :=
  let ip := textField fields "ip"
  let netmask := textField fields "netmask"
  let serverIp := textField fields "server_ip"
  let serverNumber := integerField fields "server_number"
  let activeServerIp := addressField fields "active_server_ip"
  match ip, netmask, serverIp, serverNumber, activeServerIp with
  | .ok ip, .ok netmask, .ok serverIp, .ok serverNumber, .ok activeServerIp =>
      .ok ⟨ip, netmask, serverIp, serverNumber, activeServerIp⟩
  | _, _, _, _, _ =>
      .error (defect "ip" ip ++ defect "netmask" netmask ++ defect "server_ip" serverIp
        ++ defect "server_number" serverNumber ++ defect "active_server_ip" activeServerIp)

/-- The record in an object; any other value has the defect to be none. -/
def ofValue : Json.Value → Except Defects FailoverRecord
  | .object fields => ofFields fields
  | _ => .error [("", .notObject)]

/-- The record on one line. -/
def summary (r : FailoverRecord) : Text :=
  "failover-ip=" ++ r.ip ++ " netmask=" ++ r.netmask ++ " server_ip=" ++ r.serverIp
    ++ " server_number=" ++ Numeral.ofInt r.serverNumber ++ " active_server_ip="
    ++ r.activeServerIp.text

end FailoverRecord

namespace ErrorRecord

/-- The record in the fields of an object. -/
def ofFields (fields : Json.Members) : Except Defects ErrorRecord :=
  let status := integerField fields "status"
  let code := textField fields "code"
  let message := textField fields "message"
  match status, code, message with
  | .ok status, .ok code, .ok message => .ok ⟨status, code, message⟩
  | _, _, _ =>
      .error (defect "status" status ++ defect "code" code ++ defect "message" message)

/-- The record in an object; any other value has the defect to be none. -/
def ofValue : Json.Value → Except Defects ErrorRecord
  | .object fields => ofFields fields
  | _ => .error [("", .notObject)]

/-- The record on one line. -/
def summary (r : ErrorRecord) : Text :=
  "status: " ++ Numeral.ofInt r.status ++ " code: " ++ r.code ++ " message: " ++ r.message

end ErrorRecord

/-- How many fields are defective, and of which record. -/
def defectsMessage (record : Text) (defects : Defects) : Text :=
  Numeral.ofNat defects.length ++ " validation error"
    ++ (if defects.length = 1 then "" else "s") ++ " for " ++ record

end Provider
end FloatingAddress
