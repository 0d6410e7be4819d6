import Zally.Wallet.SpendPort
import Zally.Wire.Postcard

/-! The updater role: the expiry height of a serialized PCZT, set behind its header and in front of
its other sections. -/
namespace Zally

open Outcome Wire Wire.Postcard

/-- `pczt::common::Global`, in the order of its fields on the wire. -/
structure GlobalMirror where
  txVersion : UInt32
  versionGroupId : UInt32
  consensusBranchId : UInt32
  fallbackLockTime : Option UInt32
  expiryHeight : UInt32
  coinType : UInt32
  txModifiable : UInt8
  proprietary : OrderedMap String (List UInt8)

namespace GlobalMirror

def write (mirror : GlobalMirror) : List UInt8 :=
  writeU32 mirror.txVersion ++ (writeU32 mirror.versionGroupId ++
    (writeU32 mirror.consensusBranchId ++ (writeOption writeU32 mirror.fallbackLockTime ++
    (writeU32 mirror.expiryHeight ++ (writeU32 mirror.coinType ++ ([mirror.txModifiable] ++
    writeMap writeText (writeSequence fun byte => [byte]) mirror.proprietary))))))

def read : Reader GlobalMirror := do
  let txVersion ← readU32
  let versionGroupId ← readU32
  let consensusBranchId ← readU32
  let fallbackLockTime ← readOption readU32
  let expiryHeight ← readU32
  let coinType ← readU32
  let txModifiable ← pop
  let proprietary ← readMap readText (readSequence pop)
  return {
    txVersion
    versionGroupId
    consensusBranchId
    fallbackLockTime
    expiryHeight
    coinType
    txModifiable
    proprietary }

/-- Every length is a `usize`. -/
structure Sized (mirror : GlobalMirror) : Prop where
  entries : mirror.proprietary.entries.length < 2 ^ 64
  keys : ∀ entry ∈ mirror.proprietary.entries, (utf8 entry.1).length < 2 ^ 64
  values : ∀ entry ∈ mirror.proprietary.entries, entry.2.length < 2 ^ 64

/-- The global section reads back, whatever its lengths, with its rest untouched. -/
theorem reads_write {mirror : GlobalMirror} (sized : mirror.Sized) : Reads read mirror.write mirror := by
  refine (reads_u32 _).bind ((reads_u32 _).bind ((reads_u32 _).bind ?_))
  refine (reads_option _ fun inner _ => reads_u32 inner).bind ?_
  refine (reads_u32 _).bind ((reads_u32 _).bind ((reads_pop _).bind ?_))
  refine Reads.ends (reads_map sized.entries (fun entry member => reads_text (sized.keys entry member))
    fun entry member => reads_sequence (sized.values entry member) fun byte _ => reads_pop byte) ?_
  exact .pure _

end GlobalMirror

/-- A PCZT as upstream lays it out. The sections behind the global one are not looked into. -/
structure UpstreamPczt where
  header : List UInt8
  headed : header.length = 8
  global : GlobalMirror
  sized : global.Sized
  sections : List UInt8

def UpstreamPczt.serialize (pczt : UpstreamPczt) : List UInt8 :=
  pczt.header ++ (pczt.global.write ++ pczt.sections)

def UpstreamPczt.withExpiryHeight (pczt : UpstreamPczt) (height : UInt32) : UpstreamPczt :=
  { pczt with
    global := { pczt.global with expiryHeight := height }
    sized := ⟨pczt.sized.entries, pczt.sized.keys, pczt.sized.values⟩ }

/-- 4 byte magic and 4 byte little-endian version. -/
def pcztHeaderLen : Nat := 8

structure Updater where
  bytes : PcztBytes
  pendingExpiryHeight : Option UInt32

namespace Updater

def new (pczt : PcztBytes) : Updater := ⟨pczt, none⟩

def network (updater : Updater) : Network := updater.bytes.network

def withGlobalExpiryHeight (updater : Updater) (height : UInt32) : Updater :=
  { updater with pendingExpiryHeight := some height }

/-- `postcard::to_extend` to a vector, which grows as it needs. -/
def toExtend (global : GlobalMirror) (rebuilt : List UInt8) : Except PostcardError (List UInt8) :=
  .ok (rebuilt ++ global.write)

/-- `display` is the text of a postcard error. -/
def finish (display : PostcardError → String) (updater : Updater) : Except PcztError PcztBytes :=
  match updater.pendingExpiryHeight with
  | none => .ok updater.bytes
  | some targetHeight => do
    let raw := updater.bytes.bytes
    if raw.length < pcztHeaderLen then
      throw (.parseFailed "PCZT shorter than the 8-byte magic+version header")
    let (global, tail) ← (GlobalMirror.read.run (raw.drop pcztHeaderLen)).mapError fun err =>
      .parseFailed s!"PCZT global section decode failed: {display err}"
    let rebuilt ← (toExtend { global with expiryHeight := targetHeight }
      (raw.take pcztHeaderLen)).mapError fun err =>
      .serializeFailed s!"PCZT global section encode failed: {display err}"
    return ⟨rebuilt ++ tail, updater.network⟩

/-- Heights set one after the other. -/
def withHeights (updater : Updater) (heights : List UInt32) : Updater :=
  heights.foldl withGlobalExpiryHeight updater

theorem withHeights_concat (updater : Updater) (heights : List UInt32) (height : UInt32) :
    updater.withHeights (heights ++ [height]) = ⟨updater.bytes, some height⟩ := by
  have kept : (updater.withHeights heights).bytes = updater.bytes := by
    unfold withHeights
    induction heights generalizing updater with
    | nil => rfl
    | cons first heights ih => exact ih (updater.withGlobalExpiryHeight first)
  rw [withHeights,List.foldl_concat,← kept]
  rfl

theorem finish_short {display : PostcardError → String} {bytes : List UInt8} {network : Network}
    (short : bytes.length < pcztHeaderLen) (height : UInt32) :
    finish display ⟨⟨bytes, network⟩, some height⟩ =
      .error (.parseFailed "PCZT shorter than the 8-byte magic+version header") := by
  simp only [finish,if_pos short]
  rfl

/-- What a height does to bytes with a header, which stays as does what follows the global
section. -/
theorem finish_headed {display : PostcardError → String} {bytes : List UInt8} {network : Network}
    (headed : ¬bytes.length < pcztHeaderLen) (height : UInt32) :
    finish display ⟨⟨bytes, network⟩, some height⟩ =
      ((GlobalMirror.read.run (bytes.drop pcztHeaderLen)).mapError fun err =>
        PcztError.parseFailed s!"PCZT global section decode failed: {display err}").map
        fun taken => ⟨bytes.take pcztHeaderLen ++ ({ taken.1 with expiryHeight := height } :
          GlobalMirror).write ++ taken.2, network⟩ := by
  simp only [finish,if_neg headed]
  cases GlobalMirror.read.run (bytes.drop pcztHeaderLen) with
  | error error => rfl
  | ok taken => rfl

/-- What the updater promises once a height is set. -/
structure Contract (display : PostcardError → String) : Prop where
  sets : ∀ (pczt : UpstreamPczt) network heights height,
    finish display ((new ⟨pczt.serialize, network⟩).withHeights (heights ++ [height])) =
      .ok ⟨(pczt.withExpiryHeight height).serialize, network⟩
  short : ∀ bytes network heights height, bytes.length < 8 →
    finish display ((new ⟨bytes, network⟩).withHeights (heights ++ [height])) =
      .error (.parseFailed "PCZT shorter than the 8-byte magic+version header")
  undecodable : ∀ bytes network heights height error, 8 ≤ bytes.length →
    GlobalMirror.read.run (bytes.drop 8) = .error error →
    finish display ((new ⟨bytes, network⟩).withHeights (heights ++ [height])) =
      .error (.parseFailed s!"PCZT global section decode failed: {display error}")

/-- The updater changes the expiry height of a serialized PCZT to the last one set and nothing
else, and rejects what has no header or no global section. -/
theorem changes_only_expiryHeight (display : PostcardError → String) : Contract display := by
  constructor
  · intro pczt network heights height
    have header : pczt.serialize.take pcztHeaderLen = pczt.header := List.take_left' pczt.headed
    have body : pczt.serialize.drop pcztHeaderLen = pczt.global.write ++ pczt.sections :=
      List.drop_left' pczt.headed
    have long : ¬pczt.serialize.length < pcztHeaderLen := by
      rw [UpstreamPczt.serialize,List.length_append,pczt.headed]
      exact Nat.not_lt.mpr (Nat.le_add_right _ _)
    rw [withHeights_concat,new,finish_headed long,body,GlobalMirror.reads_write pczt.sized,header]
    simp only [Except.mapError,Except.map,List.append_assoc]
    rfl
  · intro bytes network heights height short
    rw [withHeights_concat]
    exact finish_short short height
  · intro bytes network heights height error headed undecodable
    have long : ¬bytes.length < pcztHeaderLen := Nat.not_lt.mpr headed
    rw [withHeights_concat,new,finish_headed long,pcztHeaderLen,undecodable]
    rfl

end Updater
end Zally
