import Mathlib.Data.List.TakeWhile
import ModelForge.Proofs.Plugin.Header

/-! The verdict on a header, whatever a library holds there. Magic number, ABI version and toolchain
decide in this order. Of the toolchain's bytes only those before the first zero count, and bytes
that are no text are never taken for the host's version. -/
namespace ModelForge.Plugin.Header

open Text

variable {header : Header} {host : String} {path : Path} {kept : List UInt8}

/-- These bytes stand before the first zero, or are all there are and none of them is zero. -/
def Keeps (header : Header) (kept : List UInt8) : Prop :=
  0 ∉ kept ∧ (header.toolchain = kept ∨ ∃ padding, header.toolchain = kept ++ 0 :: padding)

/-- The text that bytes are shown as. It is empty when they are not the bytes of any text. -/
def Shows (kept : List UInt8) (text : String) : Prop :=
  bytes text = kept ∨ (∀ other, bytes other ≠ kept) ∧ text = ""

/-- What is said of a header. The first that is wrong decides. -/
inductive Verdict (header : Header) (host : String) (path : Path) :
    Except Repository.Error Unit → Prop where
  | foreign (magic : header.magic ≠ expectedMagic) :
      Verdict header host path (.error (.invalidContract path
        ("unexpected magic " ++ hexadecimal header.magic.toNat)))
  | outdated (magic : header.magic = expectedMagic)
      (abi : header.abiVersion ≠ expectedAbiVersion) :
      Verdict header host path (.error (.invalidContract path
        s!"ABI version {header.abiVersion.toNat} (expected {expectedAbiVersion.toNat})"))
  | incompatible {kept : List UInt8} {text : String} (magic : header.magic = expectedMagic)
      (abi : header.abiVersion = expectedAbiVersion) (keeps : header.Keeps kept)
      (other : kept ≠ bytes host) (shown : Shows kept text) :
      Verdict header host path (.error (.load path
        s!"built with incompatible toolchain '{text}' (host: '{host}')"))
  | accepted (magic : header.magic = expectedMagic)
      (abi : header.abiVersion = expectedAbiVersion) (keeps : header.Keeps (bytes host)) :
      Verdict header host path (.ok ())

/-- Two headers that are the same up to a zero in the toolchain. -/
structure SameToZero (a b : Header) : Prop where
  magic : a.magic = b.magic
  abiVersion : a.abiVersion = b.abiVersion
  toolchain : ∃ lead padding padding',
    a.toolchain = lead ++ 0 :: padding ∧ b.toolchain = lead ++ 0 :: padding'

theorem keeps_iff : header.Keeps kept ↔ header.toolchainBytes = kept := by
  unfold Keeps toolchainBytes
  constructor
  · rintro ⟨clean, shape⟩
    have nonzero : ∀ b ∈ kept, decide (b ≠ 0) = true := fun b member =>
      decide_eq_true fun zero => clean (zero ▸ member)
    rcases shape with whole | ⟨padding, cut⟩
    · rw [whole, List.takeWhile_eq_self_iff.2 nonzero]
    · rw [cut, List.takeWhile_append_of_pos nonzero]
      simp
  · rintro rfl
    have zeroFree : 0 ∉ header.toolchain.takeWhile (· ≠ 0) := fun member => by
      simpa using List.mem_takeWhile_imp member
    refine ⟨zeroFree, ?_⟩
    have whole := List.takeWhile_append_dropWhile (p := (· ≠ (0 : UInt8))) (l := header.toolchain)
    cases left : header.toolchain.dropWhile (· ≠ 0) with
    | nil => exact .inl (by rw [left, List.append_nil] at whole; exact whole.symm)
    | cons b padding =>
      have zero : b = 0 := by
        have head := List.head?_dropWhile_not (· ≠ (0 : UInt8)) header.toolchain
        rw [left] at head
        simpa using head
      exact .inr ⟨padding, by rw [left, zero] at whole; exact whole.symm⟩

theorem shows_iff {text : String} (keeps : header.Keeps kept) :
    Shows kept text ↔ header.toolchainText = text := by
  obtain rfl := keeps_iff.1 keeps
  unfold Shows toolchainText
  cases read : String.fromUTF8? ⟨header.toolchainBytes.toArray⟩ with
  | none =>
    have unread : ∀ other, bytes other ≠ header.toolchainBytes := by
      intro other same
      rw [fromUTF8?_eq_some_iff.2 same] at read
      cases read
    simp [unread, eq_comm]
  | some found =>
    have own := fromUTF8?_eq_some_iff.1 read
    constructor
    · rintro (same | ⟨unread, -⟩)
      · rw [fromUTF8?_eq_some_iff.2 same] at read
        exact (Option.some.inj read).symm
      · exact absurd own (unread found)
    · rintro rfl
      exact .inl own

theorem Verdict.verify {outcome : Except Repository.Error Unit} (named : host ≠ "")
    (verdict : header.Verdict host path outcome) : header.verify host path = outcome := by
  unfold Header.verify
  cases verdict with
  | foreign magic => rw [if_pos magic]
  | outdated magic abi => rw [if_neg (fun other => other magic), if_pos abi]
  | incompatible magic abi keeps other shown =>
    rw [if_neg (fun other => other magic), if_neg (fun other => other abi)]
    have differs : header.toolchainText ≠ host := by
      rw [Ne, toolchainText_eq_iff named, keeps_iff.1 keeps]
      exact other
    rw [if_pos differs, (shows_iff keeps).1 shown]
  | accepted magic abi keeps =>
    rw [if_neg (fun other => other magic), if_neg (fun other => other abi), if_neg]
    exact fun other => other ((toolchainText_eq_iff named).2 (keeps_iff.1 keeps))

/-- There is a verdict on every header. -/
theorem exists_verdict (header : Header) (host : String) (path : Path) :
    ∃ outcome, header.Verdict host path outcome := by
  by_cases magic : header.magic = expectedMagic
  · by_cases abi : header.abiVersion = expectedAbiVersion
    · have keeps : header.Keeps header.toolchainBytes := keeps_iff.2 rfl
      by_cases own : header.toolchainBytes = bytes host
      · exact ⟨_, .accepted magic abi (own ▸ keeps)⟩
      · exact ⟨_, .incompatible magic abi keeps own ((shows_iff keeps).2 rfl)⟩
    · exact ⟨_, .outdated magic abi⟩
  · exact ⟨_, .foreign magic⟩

theorem verify_eq_iff {outcome : Except Repository.Error Unit} (named : host ≠ "") :
    header.verify host path = outcome ↔ header.Verdict host path outcome := by
  constructor
  · rintro rfl
    obtain ⟨outcome, verdict⟩ := exists_verdict header host path
    exact verdict.verify named ▸ verdict
  · exact fun verdict => verdict.verify named

theorem SameToZero.toolchainBytes {a b : Header} (same : SameToZero a b) :
    a.toolchainBytes = b.toolchainBytes := by
  obtain ⟨lead, padding, padding', first, second⟩ := same.toolchain
  simp [Header.toolchainBytes, first, second, List.takeWhile_append]

theorem SameToZero.verify {a b : Header} (same : SameToZero a b) (host : String) (path : Path) :
    a.verify host path = b.verify host path := by
  have text : a.toolchainText = b.toolchainText := by
    rw [toolchainText, toolchainText, same.toolchainBytes]
  simp only [Header.verify, same.magic, same.abiVersion, text]

/-- The check comes to the one verdict that there is on a header. It accepts the expected magic and
ABI version with exactly the bytes of the host's toolchain before the first zero, every refusal
carries the path, and nothing behind a zero makes a difference. -/
theorem verdict_reached (header : Header) (host : String) (path : Path) (named : host ≠ "") :
    (∀ outcome, header.verify host path = outcome ↔ header.Verdict host path outcome) ∧
    (header.verify host path = .ok () ↔ header.magic = expectedMagic ∧
      header.abiVersion = expectedAbiVersion ∧ header.Keeps (bytes host)) ∧
    (∀ error, header.verify host path = .error error → error.path = path) ∧
    ∀ other, SameToZero header other → other.verify host path = header.verify host path := by
  refine ⟨fun outcome => verify_eq_iff named, ?_, ?_,
    fun other same => (same.verify host path).symm⟩
  · rw [verify_eq_iff named]
    constructor
    · intro verdict
      cases verdict with
      | accepted magic abi keeps => exact ⟨magic, abi, keeps⟩
    · exact fun ⟨magic, abi, keeps⟩ => .accepted magic abi keeps
  · intro error refused
    cases (verify_eq_iff named).1 refused <;> rfl

/-- A header whose toolchain is no text, with something behind the first zero. -/
def garbledHeader (padding : List UInt8) : Header :=
  ⟨expectedMagic, expectedAbiVersion, 0xff :: 0xfe :: 0 :: padding⟩

theorem verdict_reached_garbled : "rustc 1" ≠ "" ∧
    (garbledHeader (List.replicate 61 0)).verify "rustc 1" ⟨"m.so.1"⟩ =
      .error (.load ⟨"m.so.1"⟩ "built with incompatible toolchain '' (host: 'rustc 1')") ∧
    (garbledHeader (List.replicate 61 7)).verify "rustc 1" ⟨"m.so.1"⟩ =
      (garbledHeader (List.replicate 61 0)).verify "rustc 1" ⟨"m.so.1"⟩ := by
  have named : "rustc 1" ≠ "" := by decide
  have unread : ∀ other, bytes other ≠ [0xff, 0xfe] := by
    intro other same
    have read := fromUTF8?_eq_some_iff.2 same
    have none : String.fromUTF8? ⟨[(0xff : UInt8), 0xfe].toArray⟩ = none := by decide +kernel
    rw [none] at read
    cases read
  have keeps : (garbledHeader (List.replicate 61 0)).Keeps [0xff, 0xfe] :=
    ⟨by decide, .inr ⟨_, rfl⟩⟩
  obtain ⟨verdict, -, -, same⟩ :=
    verdict_reached (garbledHeader (List.replicate 61 0)) "rustc 1" ⟨"m.so.1"⟩ named
  have other := (unread "rustc 1").symm
  exact ⟨named, (verdict _).2 (.incompatible rfl rfl keeps other (.inr ⟨unread, rfl⟩)),
    same _ ⟨rfl, rfl, [0xff, 0xfe], _, _, rfl, rfl⟩⟩

end ModelForge.Plugin.Header
