import Wristband.Proofs.Json.Record
import Wristband.Scan.ResultJson

/-! The written form of a scan result is read back as the result that was written, so no two results
are written alike. -/

namespace Wristband

open Json

private theorem FailureKind.readName_identifier (kind : FailureKind) :
    readName kind.identifier = pure kind := by
  cases kind <;> rfl

private theorem FailureKind.reads_tagged (kind : FailureKind) :
    Reads readTagged (writeText kind.identifier).toList kind := by
  refine reads_plainCase fun rest _ => ?_
  rw [readName_identifier]
  rfl

namespace ScanFailure

def kindField (kind : FailureKind) : WrittenField Fields where
  name := "kind"
  number := 0
  text := (writeText kind.identifier).toList
  add fields := { fields with kind := some kind }

def reasonField (reason : String) : WrittenField Fields where
  name := "reason"
  number := 1
  text := (writeText reason).toList
  add fields := { fields with reason := some reason }

private theorem toList_write (failure : ScanFailure) : failure.write.toList =
    writtenRecord [kindField failure.kind, reasonField failure.reason] := by
  have kind : (writeText "kind").toList = "\"kind\"".toList := rfl
  have reason : (writeText "reason").toList = "\"reason\"".toList := rfl
  simp only [write, writtenRecord, kindField, reasonField, WrittenField.whole, kind, reason,
    toList_writeText, intercalate_cons, String.toList_append, List.map_cons, List.map_nil,
    List.flatMap_cons, List.flatMap_nil, List.append_nil, List.append_assoc, List.cons_append]
  rfl

private theorem reads_write (failure : ScanFailure) : Reads read failure.write.toList failure := by
  intro rest follows
  have each : ∀ field ∈ [kindField failure.kind, reasonField failure.reason],
      field.IsOf ["kind", "reason"] (readField false) := by
    simp only [List.mem_cons, List.not_mem_nil, or_false, forall_eq_or_imp, forall_eq]
    refine ⟨⟨rfl, fun fields => ?_⟩, ⟨rfl, fun fields => ?_⟩⟩
    · simp only [kindField, readField]
      exact (FailureKind.reads_tagged failure.kind).use _
    · simp only [reasonField, readField]
      exact (reads_text failure.reason).use _
  have record := reads_record each (by decide : [0, 1].Nodup) ⟨none, none⟩ rest follows
  rw [toList_write, read, run_bind (run_peek_writtenRecord _ rest)]
  refine (run_bind record).trans ?_
  rfl

end ScanFailure

namespace ScanResult

private theorem reads_uid (uid : Uid) : Reads readUid (toString uid.value).toList uid := by
  intro rest follows
  refine (run_bind (reads_natural uid.value.toNat_lt rest follows)).trans ?_
  rw [UInt64.ofNat_toNat]
  rfl

private theorem reads_byte (byte : UInt8) : Reads readByte (toString byte).toList byte := by
  intro rest follows
  refine (run_bind (reads_natural byte.toNat_lt rest follows)).trans ?_
  rw [UInt8.ofNat_toNat]
  rfl

private theorem reads_content (content : Bytes) : Reads (readList readByte)
    ('[' :: ([','].intercalate (content.map fun byte => (toString byte).toList) ++ [']'])) content := by
  refine reads_list reads_byte (fun byte => ?_) content
  change BeginsItem byte.toNat.repr.toList
  rw [Nat.toList_repr]
  exact beginsItem_toDigits byte.toNat

def protectedField (isProtected : Bool) : WrittenField Fields where
  name := "protected"
  number := 0
  text := (toString isProtected).toList
  add fields := { fields with isProtected := some isProtected }

def uidField (uid : Uid) : WrittenField Fields where
  name := "uid"
  number := 1
  text := (toString uid.value).toList
  add fields := { fields with uid := some uid }

def contentField (content : Bytes) : WrittenField Fields where
  name := "content"
  number := 2
  text := '[' :: ([','].intercalate (content.map fun byte => (toString byte).toList) ++ [']'])
  add fields := { fields with content := some content }

private theorem reads_memory (isProtected : Bool) (uid : Uid) (content : Bytes) :
    Reads readMemory
      (writtenRecord [protectedField isProtected, uidField uid, contentField content])
      (.read isProtected uid content) := by
  intro rest follows
  have each : ∀ field ∈ [protectedField isProtected, uidField uid, contentField content],
      field.IsOf ["protected", "uid", "content"] readField := by
    simp only [List.mem_cons, List.not_mem_nil, or_false, forall_eq_or_imp, forall_eq]
    exact ⟨⟨rfl, fun _ => (reads_bool isProtected).use _⟩,
      ⟨rfl, fun _ => (reads_uid uid).use _⟩,
      ⟨rfl, fun _ => (reads_content content).use _⟩⟩
  have record := reads_record each (by decide : [0, 1, 2].Nodup) ⟨none, none, none⟩ rest follows
  rw [readMemory, run_bind record]
  rfl

private theorem toList_toJson_read (isProtected : Bool) (uid : Uid) (content : Bytes) :
    (toJson (.read isProtected uid content)).toList = writtenCase "read"
      (writtenRecord [protectedField isProtected, uidField uid, contentField content]) := by
  have read_ : (writeText "read").toList = "\"read\"".toList := rfl
  have protected_ : (writeText "protected").toList = "\"protected\"".toList := rfl
  have uid_ : (writeText "uid").toList = "\"uid\"".toList := rfl
  have content_ : (writeText "content").toList = "\"content\"".toList := rfl
  simp only [toJson, writeCase, writtenCase, writtenRecord, protectedField, uidField, contentField,
    WrittenField.whole, read_, protected_, uid_, content_, intercalate_cons, String.toList_append,
    String.toList_intercalate, List.map_cons, List.map_nil, List.map_map, List.flatMap_cons,
    List.flatMap_nil, List.append_nil, List.append_assoc, List.cons_append]
  rfl

private theorem toList_writeCase (name value : String) :
    (writeCase name value).toList = writtenCase name value.toList := by
  have opening : "\x7b".toList = ['\x7b'] := rfl
  have colon : ":".toList = [':'] := rfl
  have closing : "\x7d".toList = ['\x7d'] := rfl
  simp only [writeCase, writtenCase, String.toList_append, opening, colon, closing,
    List.append_assoc, List.cons_append, List.nil_append]

private theorem reads_toJson (result : ScanResult) :
    Reads (readCase readPlainCase readNamedCase) result.toJson.toList result := by
  cases result with
  | fastRead uid =>
    rw [toJson, toList_writeCase]
    exact reads_namedCase ((reads_uid uid).use _)
  | read isProtected uid content =>
    rw [toList_toJson_read]
    exact reads_namedCase (reads_memory isProtected uid content)
  | write => exact reads_plainCase fun rest _ => rfl
  | test log =>
    rw [toJson, toList_writeCase]
    exact reads_namedCase ((reads_text log).use _)
  | fail failure =>
    rw [toJson, toList_writeCase]
    exact reads_namedCase (failure.reads_write.use _)

end ScanResult

/-- Every scan result that is written is read back as it was, so different results are written
differently. -/
theorem written_result_is_read_back :
    (∀ result : ScanResult, ScanResult.ofJson result.toJson = .ok result) ∧
      ∀ first second : ScanResult, first ≠ second → first.toJson ≠ second.toJson := by
  have back (result : ScanResult) : ScanResult.ofJson result.toJson = .ok result :=
    readAll_eq result.reads_toJson
  refine ⟨back, fun first second different same => different ?_⟩
  have both := (back first).symm.trans ((congrArg ScanResult.ofJson same).trans (back second))
  exact Except.ok.inj both

end Wristband
