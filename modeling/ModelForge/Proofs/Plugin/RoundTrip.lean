import ModelForge.Plugin.Device
import ModelForge.Proofs.Json.Quoted

/-! Configurations of generated models are written and read back. Every device is read from what is
written for it, so what has been read once is kept from then on, and is judged as it was. -/
namespace ModelForge.Plugin

open Json.Reader
open Text (bytes)

namespace Device

variable {rest : List UInt8}

/-- The only field of a device with its key. -/
def fieldBytes (device : Device) : List UInt8 :=
  bytes (Json.quoted "hostname") ++ (byte ':' :: bytes (Json.quoted device.hostname))

theorem bytes_toJson (device : Device) :
    bytes device.toJson = byte '\x7b' :: (device.fieldBytes ++ [byte '\x7d']) := by
  have opening : bytes "\x7b\"hostname\":" =
      byte '\x7b' :: (bytes (Json.quoted "hostname") ++ [byte ':']) := by decide +kernel
  have closing : bytes "\x7d" = [byte '\x7d'] := by decide +kernel
  simp [toJson, fieldBytes, Text.bytes_append, opening, closing]

/-- The key comes first, then the colon, then the value. Two rounds are enough: one for the field
and one that finds the end. -/
theorem takes_fields (device : Device) {limit : Nat} (enough : 2 ≤ limit) :
    Takes (objectFields jsonShape [] jsonShape.start limit true) device.fieldBytes
      (byte '\x7d' :: rest) device := by
  obtain ⟨limit, rfl⟩ := Nat.exists_eq_add_of_le' enough
  have more : Takes (nextKey true) [] (device.fieldBytes ++ byte '\x7d' :: rest) true := by
    rw [fieldBytes, bytes_quoted]
    exact .bind_looking (.peekSolid (by decide)) (.pure _ true)
  have ended : Takes (nextKey false) [] (byte '\x7d' :: rest) false :=
    .bind_looking (.peekSolid (by decide)) (.pure _ false)
  have known : jsonShape.fields.lookup "hostname" = some (do
      let hostname ← anyText "a string"
      pure fun _ => ⟨hostname⟩) := rfl
  rw [objectFields]
  refine more.bind_looking ?_
  rw [if_pos rfl, fieldBytes, bytes_quoted, List.cons_append]
  refine .bind_byte .skip ((takes_quoted "hostname" _).bind ?_)
  rw [known]
  refine .bind_byte (.bind_looking (.peekSolid (by decide)) .skip) ?_
  refine .bind_done ((takes_anyText _ device.hostname _).bind_done (.pure _ _)) ?_
  rw [objectFields]
  refine ended.bind_looking ?_
  exact .pure _ device

/-- A device that is written is read back. -/
theorem ofJson_toJson (device : Device) : ofJson device.toJson.toUTF8 = .ok device := by
  have closes : Takes endObject [byte '\x7d'] [] () :=
    .bind_looking (.peekSolid (by decide)) .skip
  change Json.readDocument (record jsonShape) (bytes device.toJson) = .ok device
  rw [bytes_toJson]
  refine Json.Reader.readDocument_of_takes (.placed (.bind_looking (.valueStart (by decide)) ?_))
  rw [if_neg (by decide), if_pos rfl]
  refine .bind_byte .skip (.get fun taken => ?_)
  refine .closing (takes_fields device ?_) closes
  simp

theorem validate_eq_error_iff {device : Device} {error : Error} :
    device.validate = .error error ↔ device.hostname = "" ∧ error = .invalid "empty" := by
  rw [validate]
  split
  case isTrue empty => simp [String.isEmpty_iff.1 empty, eq_comm]
  case isFalse filled => simp [mt String.isEmpty_iff.2 filled]

end Device

section Generated

variable {info : Info} {device : Device} {data : ByteArray}

/-- The model to which the configurations of a handle belong. -/
def Info.identity (info : Info) : Identity := ⟨info.name, info.version⟩

theorem unmarshal_written : (generated info).unmarshal device.toJson.toUTF8 =
    .ok (.device info.identity device) := by
  simp only [generated, device.ofJson_toJson]
  rfl

theorem unmarshal_cases (info : Info) (data : ByteArray) :
    (∃ reason, (generated info).unmarshal data = .error (.unmarshal reason)) ∨
      ∃ device, (generated info).unmarshal data = .ok (.device info.identity device) := by
  cases read : Device.ofJson data with
  | error problem => exact .inl ⟨problem.message, by simp [generated, read]⟩
  | ok device => exact .inr ⟨device, by simp [generated, read, Info.identity]⟩

theorem validate_own : (generated info).validate (.device info.identity device) = device.validate :=
  if_pos rfl

theorem validate_foreign {root : Root} (foreign : ∀ device, root ≠ .device info.identity device) :
    (generated info).validate root = .error (.foreignRoot info.name) := by
  cases root with
  | other => rfl
  | device owner device =>
    refine if_neg fun own => foreign device ?_
    rw [own]
    rfl

/-- What a generated model has read it writes, and reads again as the same device, which is written
as before and judged as before: it is invalid only for want of a host name. Every device can be
written and read. Roots that are not its own it turns away by its name. -/
theorem configurations_reread (info : Info) :
    (∀ data, (∃ reason, (generated info).unmarshal data = .error (.unmarshal reason)) ∨
      ∃ root device written again,
        (generated info).unmarshal data = .ok root ∧ root = .device info.identity device ∧
        root.marshal = .ok written ∧
        (generated info).unmarshal written = .ok again ∧ again = .device info.identity device ∧
        again.marshal = .ok written ∧
        (generated info).validate root = device.validate ∧
        (generated info).validate again = device.validate) ∧
    (∀ device, ∃ data,
      (generated info).unmarshal data = .ok (.device info.identity device)) ∧
    (∀ device : Device,
      device.validate = if device.hostname = "" then .error (.invalid "empty") else .ok ()) ∧
    ∀ root, (generated info).validate root = .error (.foreignRoot info.name) ↔
      ∀ device, root ≠ .device info.identity device := by
  refine ⟨fun data => ?_, fun device => ⟨_, unmarshal_written⟩, fun device => ?_, fun root => ?_⟩
  · rcases unmarshal_cases info data with failed | ⟨device, read⟩
    · exact .inl failed
    · exact .inr ⟨_, device, _, _, read, rfl, rfl, unmarshal_written, rfl, rfl, validate_own,
        validate_own⟩
  · simp [Device.validate]
  · refine ⟨?_, validate_foreign⟩
    rintro turned device rfl
    obtain ⟨-, other⟩ := Device.validate_eq_error_iff.1 (validate_own.symm.trans turned)
    cases other

end Generated

end ModelForge.Plugin
