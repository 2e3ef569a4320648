import ModelForge.Plugin.Header

/-! Which hosts take a library that a toolchain has stamped. The header keeps the bytes of a version
as far as they fit, so a version that fits is told apart from every other one, and a longer one
counts as the text with which it begins. -/
namespace ModelForge

namespace Text

/-- The bytes of a text. -/
def bytes (text : String) : List UInt8 := text.toUTF8.data.toList

theorem length_bytes (text : String) : (bytes text).length = text.utf8ByteSize := rfl

theorem bytes_append (a b : String) : bytes (a ++ b) = bytes a ++ bytes b := by
  simp [bytes]

theorem bytes_eq_flatMap (text : String) :
    bytes text = text.toList.flatMap String.utf8EncodeChar := by
  have encoded : text.toUTF8 = text.toList.utf8Encode := String.utf8Encode_toList.symm
  rw [bytes, encoded, List.utf8Encode]
  simp

/-- A text whose bytes stand in front of those of another begins it. -/
theorem append_of_bytes_prefix {a b : String} (leading : bytes a <+: bytes b) :
    ∃ rest, b = a ++ rest := by
  obtain ⟨more, shape⟩ := leading
  have encoded : a.toList.utf8Encode ++ ⟨more.toArray⟩ = b.toList.utf8Encode := by
    rw [String.utf8Encode_toList, String.utf8Encode_toList]
    apply ByteArray.ext
    rw [ByteArray.data_append]
    exact Array.toList_inj.1 (by simpa [bytes] using shape)
  obtain ⟨rest, chars⟩ := List.isPrefix_of_utf8Encode_append_eq_utf8Encode _ encoded
  exact ⟨String.ofList rest, by rw [← String.toList_inj]; simp [chars]⟩

/-- The byte of a character that has only one is its number, and no other byte is so low. -/
theorem low_of_mem_utf8EncodeChar {c : Char} {b : UInt8} (member : b ∈ String.utf8EncodeChar c) :
    c.toNat = b.toNat ∨ 128 ≤ b.toNat := by
  unfold String.utf8EncodeChar at member
  dsimp only at member
  split at member
  · have small : c.toNat ≤ 127 := ‹_›
    have value : b.toNat = c.toNat % 256 := by
      obtain rfl := List.mem_singleton.1 member
      simp
    omega
  -- Every byte of a longer encoding has its highest bit set.
  split at member
  · simp only [List.mem_cons, List.not_mem_nil, or_false, ← UInt8.toNat_inj,
      UInt8.toNat_ofNat'] at member
    simp at member
    omega
  split at member
  all_goals
    simp only [List.mem_cons, List.not_mem_nil, or_false, ← UInt8.toNat_inj,
      UInt8.toNat_ofNat'] at member
    simp at member
    omega

/-- Only the character with the number zero has a zero among its bytes. -/
theorem eq_null_of_zero_mem {c : Char} (member : 0 ∈ String.utf8EncodeChar c) : c = '\x00' := by
  rcases low_of_mem_utf8EncodeChar member with low | high
  · exact Char.toNat_inj.1 low
  · cases Nat.not_le.2 (by decide) high

theorem zero_notMem_bytes {text : String} (clean : '\x00' ∉ text.toList) : 0 ∉ bytes text := by
  intro member
  rw [bytes_eq_flatMap, List.mem_flatMap] at member
  obtain ⟨c, inside, zero⟩ := member
  exact clean (eq_null_of_zero_mem zero ▸ inside)

/-- Bytes that are those of a text are read as this text, and no others are. -/
theorem fromUTF8?_eq_some_iff {bs : List UInt8} {text : String} :
    String.fromUTF8? ⟨bs.toArray⟩ = some text ↔ bytes text = bs := by
  constructor
  · intro read
    unfold String.fromUTF8? at read
    split at read
    · cases read
      rfl
    · cases read
  · rintro rfl
    have whole : (⟨(bytes text).toArray⟩ : ByteArray) = text.toByteArray := by simp [bytes]
    rw [whole, String.fromUTF8?, dif_pos text.isValidUTF8]
    rfl

end Text

namespace Plugin.Header

open Text

variable {version host : String} {header : Header} {path : Path}

/-- Up to the first zero a stamped header holds the version, or as much of it as fits. -/
theorem toolchainBytes_stamped (clean : '\x00' ∉ version.toList) :
    (stamped version).toolchainBytes = (bytes version).take fingerprintLength := by
  have kept : ∀ b ∈ (bytes version).take fingerprintLength, decide (b ≠ 0) = true := by
    intro b member
    have nonzero : b ≠ 0 := fun zero =>
      zero_notMem_bytes clean (zero ▸ List.mem_of_mem_take member)
    exact decide_eq_true nonzero
  have padding : ∀ n : Nat, (List.replicate n (0 : UInt8)).takeWhile (· ≠ 0) = [] := by
    intro n
    cases n <;> rfl
  show List.takeWhile _ ((bytes version).take fingerprintLength ++ _) = _
  rw [List.takeWhile_append_of_pos kept, padding, List.append_nil]

theorem toolchainText_eq_of_bytes {text : String} (read : header.toolchainBytes = bytes text) :
    header.toolchainText = text := by
  rw [toolchainText, fromUTF8?_eq_some_iff.2 read.symm, Option.getD_some]

/-- The empty text stands for bytes that are no text, so only a host with a version of its own
is met by exactly its bytes. -/
theorem toolchainText_eq_iff (named : host ≠ "") :
    header.toolchainText = host ↔ header.toolchainBytes = bytes host := by
  refine ⟨fun same => ?_, toolchainText_eq_of_bytes⟩
  unfold toolchainText at same
  cases read : String.fromUTF8? ⟨header.toolchainBytes.toArray⟩ with
  | none => exact absurd (by simpa [read] using same.symm) named
  | some text =>
    obtain rfl : text = host := by simpa [read] using same
    exact (fromUTF8?_eq_some_iff.1 read).symm

/-- A stamped header passes for its magic and ABI version, so only the toolchain decides. -/
theorem verify_stamped_iff :
    (stamped version).verify host path = .ok () ↔ (stamped version).toolchainText = host := by
  have magic : (stamped version).magic = expectedMagic := rfl
  have abi : (stamped version).abiVersion = expectedAbiVersion := rfl
  rw [verify, if_neg (fun other => other magic), if_neg (fun other => other abi)]
  by_cases same : (stamped version).toolchainText = host <;> simp [same]

theorem toolchainText_stamped (clean : '\x00' ∉ version.toList)
    (fits : version.utf8ByteSize ≤ fingerprintLength) :
    (stamped version).toolchainText = version := by
  apply toolchainText_eq_of_bytes
  rw [toolchainBytes_stamped clean, List.take_of_length_le]
  rwa [length_bytes]

/-- What a version that does not fit is taken for. -/
theorem toolchainText_cut_iff (clean : '\x00' ∉ version.toList)
    (long : fingerprintLength < version.utf8ByteSize) (named : host ≠ "") :
    (stamped version).toolchainText = host ↔
      host.utf8ByteSize = fingerprintLength ∧ ∃ rest, version = host ++ rest := by
  rw [toolchainText_eq_iff named, toolchainBytes_stamped clean]
  constructor
  · intro cut
    refine ⟨?_, append_of_bytes_prefix (cut ▸ List.take_prefix _ _)⟩
    rw [← length_bytes, ← cut, List.length_take, length_bytes]
    exact Nat.min_eq_left (Nat.le_of_lt long)
  · rintro ⟨size, rest, rfl⟩
    rw [bytes_append, ← size, ← length_bytes, List.take_left]

/-- A host takes what its own toolchain has stamped and nothing else, as long as the version fits
into the header; a longer version is taken for the text that its first bytes make. -/
theorem stamped_accepted_iff (version host : String) (path : Path)
    (clean : '\x00' ∉ version.toList) :
    (version.utf8ByteSize ≤ fingerprintLength →
      ((stamped version).verify host path = .ok () ↔ version = host)) ∧
    (fingerprintLength < version.utf8ByteSize → host ≠ "" → version ≠ host →
      ((stamped version).verify host path = .ok () ↔
        host.utf8ByteSize = fingerprintLength ∧ ∃ rest, version = host ++ rest)) := by
  constructor
  · intro fits
    rw [verify_stamped_iff, toolchainText_stamped clean fits]
  · intro long named _
    rw [verify_stamped_iff, toolchainText_cut_iff clean long named]

/-- The longest version that fits, in characters of two bytes. -/
def filledVersion : String := String.ofList (List.replicate 32 'é')

theorem stamped_accepted_iff_filled :
    '\x00' ∉ filledVersion.toList ∧ filledVersion.utf8ByteSize = fingerprintLength ∧
      (stamped filledVersion).verify filledVersion ⟨"m.so.1"⟩ = .ok () := by
  have clean : '\x00' ∉ filledVersion.toList := by decide
  have size : filledVersion.utf8ByteSize = fingerprintLength := by decide +kernel
  exact ⟨clean, size,
    ((stamped_accepted_iff _ _ ⟨"m.so.1"⟩ clean).1 (Nat.le_of_eq size)).2 rfl⟩

/-- A version with one byte too many. -/
def overlongVersion : String := String.ofList (List.replicate 65 'x')

/-- What is kept of that version. -/
def shortenedVersion : String := String.ofList (List.replicate 64 'x')

/-- The byte too many is cut off, so a host is met whose version lacks it. -/
theorem stamped_accepted_shortened :
    '\x00' ∉ overlongVersion.toList ∧ '\x00' ∉ shortenedVersion.toList ∧
      overlongVersion ≠ shortenedVersion ∧
      (stamped overlongVersion).verify shortenedVersion ⟨"m.so.1"⟩ = .ok () :=
  ⟨by decide, by decide, by decide, verify_stamped_iff.2 (by decide +kernel)⟩

end Plugin.Header

end ModelForge
