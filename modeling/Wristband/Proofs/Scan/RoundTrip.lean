import Mathlib.Data.List.DropRight
import Wristband.Proofs.Scan.Requests
import Wristband.Proofs.Scan.Written
import Wristband.Proofs.Session.Contents
import Wristband.Proofs.Text.Utf8

/-! Text that is written to empty user memory is read back as it was, whatever faults the tag shows,
if both requests succeed. What fills up the last page and the memory behind it are zeros, and those
are not a part of the text. -/

namespace Wristband

open Session

private theorem ScanResult.trimZeros_append {bytes zeros : Bytes} (unended : bytes.getLast? ≠ some 0)
    (empty : ∀ byte ∈ zeros, byte = 0) : trimZeros (bytes ++ zeros) = bytes := by
  have trailing : ∀ byte ∈ zeros.reverse, (byte == 0) = true := by
    intro byte listed
    rw [empty byte (List.mem_reverse.mp listed), beq_self_eq_true]
  rw [trimZeros, List.reverse_append, List.dropWhile_append_of_pos trailing]
  refine List.rdropWhile_eq_self_iff.mpr fun some_ zero => unended ?_
  rw [List.getLast?_eq_some_getLast some_, beq_iff_eq.mp zero]

def ScanResult.Returns (result : ScanResult) (content : Bytes) : Prop :=
  ∃ isProtected uid, result = .read isProtected uid content

inductive ScanRequest.ReadsFrom (page : UInt8) : ScanRequest → Prop where
  | read (key : Option AuthKey) (cmac : Bool) : ReadsFrom page (.read page key cmac)
  | readMultiKey (keys : List AuthKey) (cmac : Bool) : ReadsFrom page (.readMultiKey page keys cmac)

namespace SimulatedTag

variable {tag : SimulatedTag} {page : UInt8} {content : Bytes}

/-- What is stored in user memory is at the front of what is read from its first page on. -/
theorem stretch_store (fits : content.length ≤ (tag.stretch page Layout.userEnd).length) :
    (tag.store page content).stretch page Layout.userEnd =
      content ++ (tag.stretch page Layout.userEnd).drop content.length := by
  by_cases none_ : content = []
  · rw [none_, store, Bytes.overwrite_nil]
    rfl
  · have some_ := List.length_pos_iff.mpr none_
    rw [stretch, List.length_take, List.length_drop] at fits
    have before : (tag.memory.take (pageStart page)).length = pageStart page :=
      List.length_take_of_le (by omega)
    rw [store, stretch, stretch, Bytes.overwrite_of_fits (by omega), List.drop_left' before,
      List.take_append, List.take_of_length_le (by omega), List.drop_take, List.drop_drop]

private theorem length_padded_le (whole : tag.IsWhole)
    (fits : content.length ≤ (tag.stretch page Layout.userEnd).length) :
    (Bytes.padded content).length ≤ (tag.stretch page Layout.userEnd).length := by
  have all := UInt8.le_of_lt (userEnd_lt_pageCount tag.family)
  rw [length_stretch whole all] at fits ⊢
  rw [Bytes.length_padded]
  simp only [Layout.pageSize] at fits ⊢
  omega

end SimulatedTag

namespace Scan

variable {image : SimulatedTag} {authenticated : Bool} {session : Session SimulatedTag}

private theorem readFrom_returns (sees : session.Sees image authenticated) (whole : image.IsWhole)
    (page : UInt8) :
    Ensures (readFrom page) session
      (fun result _ => result.Returns (image.stretch page (image.readEnd authenticated)))
      (fun _ _ => True) := by
  have reads : Reads (Sees image authenticated) (Knows image) := Sees.reads whole
  refine ((reads.readUid session sees).onError fun _ _ _ => trivial).bind fun uid after here => ?_
  refine ((reads.isProtected after here).onError fun _ _ _ => trivial).bind
    fun isProtected after here => ?_
  refine (here.readUserMemory whole page).bind ?_
  rintro _ _ rfl
  exact ⟨isProtected, uid, rfl⟩

/-- Whichever key is accepted, user memory is read to its end. -/
theorem readWithKeys_returns (knows : session.Knows image) (whole : image.IsWhole) (page : UInt8)
    (cmac reconnecting : Bool) (keys : List AuthKey) :
    Ensures (readWithKeys page cmac reconnecting keys) session
      (fun result _ => result.Returns (image.stretch page Layout.userEnd)) (fun _ _ => True) := by
  induction keys generalizing session reconnecting with
  | nil => trivial
  | cons key keys ih =>
    have attempt {session : Session SimulatedTag} (knows : session.Knows image) : Ensures (do
        if ← tryKey key cmac then readFrom page else readWithKeys page cmac true keys) session
        (fun result _ => result.Returns (image.stretch page Layout.userEnd)) (fun _ _ => True) := by
      refine ((ensures_tryKey (authenticate_sees knows key .dataProtection cmac)).onError
        fun _ _ _ => trivial).bind fun accepted after left => ?_
      cases accepted with
      | true => exact readFrom_returns left whole page
      | false => exact ih left true
    cases reconnecting with
    | true =>
      exact ((knows_reconnect image session knows).onError fun _ _ _ => trivial).bind
        fun _ _ left => attempt left
    | false => exact attempt knows

/-- A terminal that has access to all of user memory reads it to its end. -/
theorem execute_returns {tag : SimulatedTag} (whole : tag.IsWhole) (random : RandomSource)
    {request : ScanRequest} {page : UInt8} (reads : request.ReadsFrom page)
    (access : request.IsKeyless → Layout.userEnd ≤ tag.auth0) :
    Ensures (execute request) (opened tag tag.family random)
      (fun result _ => result.Returns (tag.stretch page Layout.userEnd)) (fun _ _ => True) := by
  have fresh := opened_sees tag random
  refine ensures_bind.mpr (ensures_get.mpr ?_)
  cases reads with
  | read key cmac =>
    refine ensures_bind.mpr (ensures_ofData.mpr ?_)
    split
    next =>
      cases key with
      | none =>
        rw [← SimulatedTag.readEnd_of_open (access trivial) false]
        exact readFrom_returns fresh whole page
      | some key =>
        refine ((authenticate_sees fresh.toKnows key .dataProtection cmac).onError
          fun _ _ _ => trivial).bind fun _ _ sees => ?_
        exact readFrom_returns sees whole page
    next => trivial
  | readMultiKey keys cmac =>
    refine ensures_bind.mpr (ensures_ofData.mpr ?_)
    split
    next => exact readWithKeys_returns fresh.toKnows whole page cmac false keys
    next => trivial

end Scan

private theorem serve_returns {tag : SimulatedTag} (whole : tag.IsWhole) {random : RandomSource}
    {request : ScanRequest} {page : UInt8} (reads : request.ReadsFrom page)
    (access : request.IsKeyless → Layout.userEnd ≤ tag.auth0)
    (done : (serve tag tag.family random request).1.isFail = false) :
    (serve tag tag.family random request).1.Returns (tag.stretch page Layout.userEnd) :=
  serve_succeeds (fun result _ => result.Returns (tag.stretch page Layout.userEnd))
    ((Scan.execute_returns whole random reads access).onValue fun _ _ returned _ _ => returned) done

/-- Text that fits into empty user memory and does not end in NUL is read back as it was written, by
every later request that may read all of user memory and succeeds. What was done to the tag in
between does not matter, as long as it left user memory alone. -/
theorem written_text_is_read_back {tag : SimulatedTag} (whole : tag.IsWhole) {page : UInt8}
    (empty : ∀ byte ∈ tag.stretch page Layout.userEnd, byte = 0) {text : String}
    (fits : (Text.encodeUtf8 text.toList).length ≤ (tag.stretch page Layout.userEnd).length)
    (unended : text.toList.getLast? ≠ some '\x00') {random : RandomSource} {key : Option AuthKey}
    {cmac : Bool}
    (written : (serve tag tag.family random
      (.write page (Text.encodeUtf8 text.toList) key cmac)).1 = .write)
    {later : SimulatedTag} (whole' : later.IsWhole)
    (kept : later.stretch page Layout.userEnd = (serve tag tag.family random
      (.write page (Text.encodeUtf8 text.toList) key cmac)).2.tag.stretch page Layout.userEnd)
    {request : ScanRequest} (reads : request.ReadsFrom page)
    (access : request.IsKeyless → Layout.userEnd ≤ later.auth0) {source : RandomSource}
    (done : (serve later later.family source request).1.isFail = false) :
    (serve later later.family source request).1.contentText? = some text := by
  obtain ⟨resembles, _⟩ := serve_written whole written
  obtain ⟨isProtected, uid, returned⟩ := serve_returns whole' reads access done
  have stored := SimulatedTag.stretch_store (SimulatedTag.length_padded_le whole fits)
  have same : later.stretch page Layout.userEnd =
      (tag.store page (Bytes.padded (Text.encodeUtf8 text.toList))).stretch page Layout.userEnd := by
    rw [kept, SimulatedTag.stretch, resembles.memory]
    rfl
  rw [returned, same, stored, Bytes.padded, List.append_assoc, ScanResult.contentText?,
    ScanResult.trimZeros_append (Text.getLast?_encodeUtf8 unended) ?_, Text.decodeUtf8_encodeUtf8,
    String.ofList_toList]
  intro byte listed
  obtain filling | behind := List.mem_append.mp listed
  · exact List.eq_of_mem_replicate filling
  · exact empty byte (List.mem_of_mem_drop behind)

/-- Two characters of this text lie across the end of a page, and one of them across that of a
block. -/
theorem text_across_blocks_is_read_back :
    let tag := SimulatedTag.ultralight [0x04, 0x11, 0x22, 0x33, 0x44, 0x55, 0x66]
    let text := "Grüße: 5 €🎉"
    let written := serve tag tag.family ⟨fun _ => 0, 0⟩
      (.write 0x05 (Text.encodeUtf8 text.toList) none false)
    let later := written.2.tag
    tag.IsWhole ∧ (Text.encodeUtf8 text.toList).length = 18 ∧ written.1 = .write ∧
      (serve later later.family ⟨fun _ => 0, 0⟩ (.read 0x05 none false)).1.contentText? =
        some text := by
  intro tag text written later
  have whole : tag.IsWhole := SimulatedTag.isWhole_ultralight _
  have empty : ∀ byte ∈ tag.stretch 0x05 Layout.userEnd, byte = 0 := by decide +kernel
  have sized : (Text.encodeUtf8 text.toList).length = 18 := by decide +kernel
  have fits : (Text.encodeUtf8 text.toList).length ≤ (tag.stretch 0x05 Layout.userEnd).length := by
    decide +kernel
  have unended : text.toList.getLast? ≠ some '\x00' := by decide +kernel
  have stored : written.1 = .write := by decide +kernel
  have whole' : later.IsWhole := (serve_written whole stored).1.isWhole (whole.store _ _)
  have access : Layout.userEnd ≤ later.auth0 := by decide +kernel
  have done : (serve later later.family ⟨fun _ => 0, 0⟩
      (.read 0x05 none false)).1.isFail = false := by decide +kernel
  exact ⟨whole, sized, stored, written_text_is_read_back whole empty fits unended stored whole' rfl
    (.read none false) (fun _ => access) done⟩

end Wristband
