import ModelForge.Json.Quoted
import ModelForge.Json.Record
import ModelForge.Plugin.Basic

/-! The models that the default definitions generate. Their configurations are JSON documents of
one record, which is written without blanks. -/
namespace ModelForge.Plugin

namespace Device

open Json.Reader

/-- A device that still lacks its fields. -/
def jsonShape : Shape Device where
  expected := "struct Device"
  fields := [("hostname", do
    let hostname ← anyText "a string"
    pure fun _ => ⟨hostname⟩)]
  start := ⟨""⟩
  required := ["hostname"]
  expectedList := "struct Device with 1 element"

def ofJson (data : ByteArray) : Except Json.Error Device :=
  Json.readDocument (record jsonShape) data.data.toList

def toJson (device : Device) : String :=
  "\x7b\"hostname\":" ++ Json.quoted device.hostname ++ "\x7d"

def validate (device : Device) : Except Error Unit :=
  if device.hostname.isEmpty then .error (.invalid "empty") else .ok ()

end Device

namespace Root

/-- Writes a configuration back. -/
def marshal : Root → Except Error ByteArray
  | .device _ found => .ok found.toJson.toUTF8
  | .other => .error (.marshal "not a device")

end Root

/-- The handle of a generated model. -/
def generated (info : Info) : Handle where
  info
  unmarshal data :=
    match Device.ofJson data with
    | .ok device => .ok (.device ⟨info.name, info.version⟩ device)
    | .error error => .error (.unmarshal error.message)
  validate root :=
    match root with
    | .device owner device =>
      if owner = ⟨info.name, info.version⟩ then device.validate
      else .error (.foreignRoot info.name)
    | .other => .error (.foreignRoot info.name)

end ModelForge.Plugin
