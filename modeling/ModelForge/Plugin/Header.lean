import ModelForge.Path.Basic
import ModelForge.Repository.Error
import ModelForge.Source.Context

/-! The header that every library exports, and the check that it fits the host. Magic number, ABI
version and toolchain are looked at in this order, and the first that is wrong decides. -/
namespace ModelForge.Plugin

def expectedMagic : UInt64 := 0x434d504c5547494e

def expectedAbiVersion : UInt32 := 1

/-- The number of bytes that hold the toolchain's version. -/
def fingerprintLength : Nat := 64

/-- A version cut or filled up with zeros to the fixed length. -/
def fingerprint (version : String) : List UInt8 :=
  let kept := version.toUTF8.data.toList.take fingerprintLength
  kept ++ List.replicate (fingerprintLength - kept.length) 0

structure Header where
  magic : UInt64
  abiVersion : UInt32
  toolchain : List UInt8
deriving DecidableEq, Repr

namespace Header

/-- The header of a library that a toolchain of the given version builds. -/
def stamped (version : String) : Header :=
  ⟨expectedMagic, expectedAbiVersion, fingerprint version⟩

/-- The bytes before the first zero. -/
def toolchainBytes (header : Header) : List UInt8 := header.toolchain.takeWhile (· ≠ 0)

/-- The toolchain as a text, empty when its bytes are none. -/
def toolchainText (header : Header) : String :=
  (String.fromUTF8? ⟨header.toolchainBytes.toArray⟩).getD ""

def hexadecimal (n : Nat) : String := "0x" ++ String.ofList (Nat.toDigits 16 n)

/-- Whether a library with this header may be used on a host with the given toolchain. -/
def verify (header : Header) (host : String) (path : Path) : Except Repository.Error Unit :=
  if header.magic ≠ expectedMagic then
    .error (.invalidContract path
      ("unexpected magic " ++ hexadecimal header.magic.toNat))
  else if header.abiVersion ≠ expectedAbiVersion then
    .error (.invalidContract path
      s!"ABI version {header.abiVersion.toNat} (expected {expectedAbiVersion.toNat})")
  else if header.toolchainText ≠ host then
    .error (.load path
      s!"built with incompatible toolchain '{header.toolchainText}' (host: '{host}')")
  else .ok ()

end Header

end ModelForge.Plugin
