import DevBridge.Lib.Chunks
import DevBridge.Server.Storage
import Mathlib.Data.Set.Function

/-!
# The transfer of a document

The server streams the spool file of a job in chunks, from an offset that the client names.  The
client goes on behind what it has of the file, and compares the checksum of the whole.  It may
have the start of another file: then the checksum tells, and the client removes the file so that
the next attempt starts afresh.  Storage, the disks and the stream may fail at every call.
-/

namespace DevBridge

namespace Print

open Server (JobId)

/-! ### The server -/

structure PayloadRequest where
  jobId : JobId
  offset : ℕ
deriving DecidableEq, Repr

structure PayloadChunk where
  jobId : JobId
  offset : ℕ
  data : List UInt8
  isLast : Bool
deriving DecidableEq, Repr

/-- 64 KiB, less one: no chunk is empty. -/
def chunkSizePred : ℕ := 64 * 1024 - 1

/-- What the server finds when it reads the spool file of a job. -/
inductive SpoolFile where
  | lookupFails (error : String)
  | unknownJob
  | unreadable (error : String)
  | content (data : List UInt8)
deriving DecidableEq, Repr

/-- A gRPC `Status`. -/
inductive Status where
  | notFound (message : String)
  | internal (message : String)
deriving DecidableEq, Repr

/-- The chunk of a piece of the file. -/
def payloadChunk (jobId : JobId) (data : List UInt8) (piece : Chunks.Chunk UInt8) :
    PayloadChunk where
  jobId := jobId
  offset := piece.offset
  data := piece.data
  isLast := decide (data.length ≤ piece.stop)

/-- The chunks that are streamed. -/
def payloadChunks (jobId : JobId) (data : List UInt8) (offset : ℕ) : List PayloadChunk :=
  (Chunks.cut chunkSizePred data offset).map (payloadChunk jobId data)

/-- `download_payload` of the server. -/
def serveDownloadPayload (spool : JobId → SpoolFile) (request : PayloadRequest) :
    Except Status (List PayloadChunk) :=
  match spool request.jobId with
  | .lookupFails error => .error (.internal s!"storage error: {error}")
  | .unknownJob => .error (.notFound s!"job {request.jobId} not found")
  | .unreadable error => .error (.internal s!"failed to read spool file: {error}")
  | .content data => .ok (payloadChunks request.jobId data request.offset)

/-! ### The client -/

inductive PayloadError where
  /-- A call of the file system fails. -/
  | disk
  /-- The call of the server fails, or the stream does. -/
  | transport
  | sha256Mismatch (message : String)
deriving DecidableEq, Repr

/-- Which calls of the file system succeed in a download. -/
structure Disk where
  /-- The size of the destination file is read. -/
  sizes : Bool
  reads : Bool
  /-- The destination file is opened for appending. -/
  opens : Bool
  creates : Bool
  /-- How many bytes reach the file before a write or the flush fails, if one does. -/
  writes : Option ℕ
  removes : Bool
deriving DecidableEq, Repr

/-- The size of the destination file; one that cannot be read counts as zero. -/
def Disk.existingSize (disk : Disk) (dest : Option (List UInt8)) : ℕ :=
  if disk.sizes then (dest.getD []).length else 0

/-- What the hasher was given, and what the file holds. -/
structure PartialFile where
  hashed : List UInt8
  file : List UInt8

/-- A file that is not empty is hashed and appended to; else it is created anew. -/
def PartialFile.begin (disk : Disk) (dest : Option (List UInt8)) : Option PartialFile :=
  if 0 < disk.existingSize dest then
    if disk.reads && disk.opens then some ⟨dest.getD [], dest.getD []⟩ else none
  else if disk.creates then some ⟨[], []⟩ else none

def PartialFile.receive (p : PartialFile) (chunk : PayloadChunk) : PartialFile :=
  ⟨p.hashed ++ chunk.data, p.file ++ chunk.data⟩

/-- The comparison of the checksums, and what is left of the destination file: that its removal
fails is ignored. -/
def PartialFile.check (disk : Disk) (sha256Hex : List UInt8 → String) (expectedSha256 : String)
    (p : PartialFile) : Except PayloadError Unit × Option (List UInt8) :=
  let actualSha256 := sha256Hex p.hashed
  if actualSha256 ≠ expectedSha256 then
    (.error (.sha256Mismatch s!"SHA256 mismatch: expected {expectedSha256}, got {actualSha256}"),
      if disk.removes then none else some p.file)
  else (.ok (), some p.file)

/-- The answer of the server: the call fails, or gives chunks and then an error or the end of the
stream. -/
abbrev PayloadCall := PayloadRequest → Option (List PayloadChunk × Bool)

/-- `download_payload` of the client: how it ends, and the destination file after it. -/
def downloadPayload (disk : Disk) (sha256Hex : List UInt8 → String) (call : PayloadCall)
    (jobId : JobId) (expectedSha256 : String) (dest : Option (List UInt8)) :
    Except PayloadError Unit × Option (List UInt8) :=
  match PartialFile.begin disk dest with
  | none => (.error .disk, dest)
  | some start =>
    match call { jobId := jobId, offset := disk.existingSize dest } with
    | none => (.error .transport, some start.file)
    | some (chunks, ends) =>
      let received := chunks.foldl PartialFile.receive start
      match disk.writes with
      | some n => (.error .disk, some (received.file.take (start.file.length + n)))
      | none =>
        if ends then received.check disk sha256Hex expectedSha256
        else (.error .transport, some received.file)

/-! ### What is streamed -/

variable {jobId : JobId} {data : List UInt8} {offset : ℕ}

lemma payloadChunks_data (jobId : JobId) (data : List UInt8) (offset : ℕ) :
    ((payloadChunks jobId data offset).map PayloadChunk.data).flatten = data.drop offset := by
  rw [payloadChunks, List.map_map]
  exact Chunks.cut_flatten chunkSizePred data offset

/-- A chunk starts behind those before it, and it is the last one if it says so. -/
lemma payloadChunks_chunk {front back : List PayloadChunk} {c : PayloadChunk}
    (h : payloadChunks jobId data offset = front ++ c :: back) :
    c.offset = offset + (front.map PayloadChunk.data).flatten.length ∧
      (c.isLast = true ↔ back = []) := by
  unfold payloadChunks at h
  obtain ⟨front', rest, hcut, rfl, hrest⟩ := List.map_eq_append_iff.mp h
  obtain ⟨c', back', rfl, rfl, rfl⟩ := List.map_eq_cons_iff.mp hrest
  constructor
  · rw [List.map_map]
    exact (Chunks.cut_consecutive chunkSizePred data offset).offset_eq hcut
  · have hlast := Chunks.cut_last chunkSizePred data offset front' c' back' hcut
    simpa [payloadChunk] using hlast

/-! ### What is left of the file -/

/-- The hasher has seen what is in the file. -/
lemma hashed_receive (chunks : List PayloadChunk) {p : PartialFile} (h : p.hashed = p.file) :
    (chunks.foldl PartialFile.receive p).hashed = (chunks.foldl PartialFile.receive p).file := by
  induction chunks generalizing p with
  | nil => exact h
  | cons c chunks ih => exact ih (by rw [PartialFile.receive, h])

lemma hashed_begin {disk : Disk} {dest : Option (List UInt8)} {start : PartialFile}
    (h : PartialFile.begin disk dest = some start) : start.hashed = start.file := by
  unfold PartialFile.begin at h
  split_ifs at h <;> cases h <;> rfl

lemma file_receive (chunks : List PayloadChunk) (p : PartialFile) :
    (chunks.foldl PartialFile.receive p).file =
      p.file ++ (chunks.map PayloadChunk.data).flatten := by
  induction chunks generalizing p with
  | nil => simp
  | cons c chunks ih =>
    rw [List.foldl_cons, ih, PartialFile.receive, List.map_cons, List.flatten_cons,
      List.append_assoc]

/-- How a download ends: with the file, at the checksum, or before it. -/
inductive DownloadEnd (disk : Disk) (sha256Hex : List UInt8 → String) (expectedSha256 : String) :
    Except PayloadError Unit × Option (List UInt8) → Prop where
  | downloaded (file : List UInt8) (h : sha256Hex file = expectedSha256) :
      DownloadEnd disk sha256Hex expectedSha256 (.ok (), some file)
  | brokenOff (error : PayloadError) (file : Option (List UInt8))
      (h : ∀ message, error ≠ .sha256Mismatch message) :
      DownloadEnd disk sha256Hex expectedSha256 (.error error, file)
  | mismatch (message : String) (file : List UInt8) (h : sha256Hex file ≠ expectedSha256) :
      DownloadEnd disk sha256Hex expectedSha256
        (.error (.sha256Mismatch message), if disk.removes then none else some file)

lemma downloadPayload_end (disk : Disk) (sha256Hex : List UInt8 → String) (call : PayloadCall)
    (jobId : JobId) (expectedSha256 : String) (dest : Option (List UInt8)) :
    DownloadEnd disk sha256Hex expectedSha256
      (downloadPayload disk sha256Hex call jobId expectedSha256 dest) := by
  unfold downloadPayload
  split
  · exact .brokenOff _ _ (by simp)
  rename_i start hstart
  split
  · exact .brokenOff _ _ (by simp)
  rename_i chunks ends _
  dsimp only
  split
  · exact .brokenOff _ _ (by simp)
  split
  · -- every chunk was hashed as it was written
    have hhashed := hashed_receive chunks (hashed_begin hstart)
    unfold PartialFile.check
    dsimp only
    rw [hhashed]
    split
    · rename_i hsha
      exact .mismatch _ _ hsha
    · rename_i hsha
      exact .downloaded _ (not_not.mp hsha)
  · exact .brokenOff _ _ (by simp)

/-- No call of the file system fails. -/
def Disk.sound : Disk :=
  { sizes := true, reads := true, opens := true, creates := true, writes := none,
    removes := true }

/-- The whole answer of a server whose spool file has this content. -/
def wholeAnswer (data : List UInt8) : PayloadCall := fun request =>
  (serveDownloadPayload (fun _ => .content data) request).toOption.map fun chunks => (chunks, true)

/-- A client that has the start of the file, or none, and gets the rest has the whole of it. -/
lemma download_resumes (sha256Hex : List UInt8 → String) (jobId : JobId)
    {dest : Option (List UInt8)} (hpre : dest.getD [] <+: data) :
    downloadPayload .sound sha256Hex (wholeAnswer data) jobId (sha256Hex data) dest =
      (.ok (), some data) := by
  have hbegin : PartialFile.begin .sound dest = some ⟨dest.getD [], dest.getD []⟩ := by
    simp only [PartialFile.begin, Disk.existingSize, Disk.sound, if_true, Bool.and_self]
    split
    · rfl
    · rename_i hempty
      rw [not_lt, Nat.le_zero, List.length_eq_zero_iff] at hempty
      rw [hempty]
  obtain ⟨rest, hrest⟩ := hpre
  have hanswer : wholeAnswer data ⟨jobId, (dest.getD []).length⟩ =
      some (payloadChunks jobId data (dest.getD []).length, true) := rfl
  have hfile := file_receive (payloadChunks jobId data (dest.getD []).length)
    ⟨dest.getD [], dest.getD []⟩
  rw [payloadChunks_data] at hfile
  have hwhole : dest.getD [] ++ data.drop (dest.getD []).length = data := by
    rw [← hrest, List.drop_left]
  rw [hwhole] at hfile
  have hhashed := hashed_receive (payloadChunks jobId data (dest.getD []).length)
    (p := ⟨dest.getD [], dest.getD []⟩) rfl
  rw [hfile] at hhashed
  have hsize : Disk.sound.existingSize dest = (dest.getD []).length := rfl
  have hwrites : Disk.sound.writes = none := rfl
  simp only [downloadPayload, hbegin, hsize, hanswer, hwrites, if_true, PartialFile.check,
    hhashed, hfile, ne_eq, not_true_eq_false, if_false]

/-- The server streams what its file holds from the offset on, in consecutive chunks of which
the last one alone is marked as the last.  However the calls of the client end, it has the file
of the server or an error, after which a file of another checksum is gone unless its removal
failed; and when no call fails, a client with the start of the file has the whole of it. -/
theorem payload_transferred (sha256Hex : List UInt8 → String) (jobId : JobId)
    (data : List UInt8) :
    (∀ (spool : JobId → SpoolFile) (offset : ℕ), spool jobId = .content data →
      ∃ chunks, serveDownloadPayload spool ⟨jobId, offset⟩ = .ok chunks ∧
        (chunks.map PayloadChunk.data).flatten = data.drop offset ∧
        ∀ front c back, chunks = front ++ c :: back →
          c.offset = offset + (front.map PayloadChunk.data).flatten.length ∧
            (c.isLast = true ↔ back = [])) ∧
    (∀ (disk : Disk) (call : PayloadCall) (dest : Option (List UInt8))
      (involved : Set (List UInt8)), Set.InjOn sha256Hex involved → data ∈ involved →
      (∀ file, (downloadPayload disk sha256Hex call jobId (sha256Hex data) dest).2 = some file →
        file ∈ involved) →
      downloadPayload disk sha256Hex call jobId (sha256Hex data) dest = (.ok (), some data) ∨
        ∃ error, (downloadPayload disk sha256Hex call jobId (sha256Hex data) dest).1 =
            .error error ∧
          ∀ message, error = .sha256Mismatch message →
            ((downloadPayload disk sha256Hex call jobId (sha256Hex data) dest).2 = none ↔
              disk.removes = true)) ∧
    ∀ dest : Option (List UInt8), dest.getD [] <+: data →
      downloadPayload .sound sha256Hex (wholeAnswer data) jobId (sha256Hex data) dest =
        (.ok (), some data) := by
  refine ⟨fun spool offset hspool => ⟨payloadChunks jobId data offset, ?_,
    payloadChunks_data jobId data offset, fun _ _ _ h => payloadChunks_chunk h⟩,
    fun disk call dest involved hinj hdata hinvolved => ?_,
    fun dest hpre => download_resumes sha256Hex jobId hpre⟩
  · simp only [serveDownloadPayload, hspool]
  have hend := downloadPayload_end disk sha256Hex call jobId (sha256Hex data) dest
  generalize downloadPayload disk sha256Hex call jobId (sha256Hex data) dest = result
    at hinvolved hend ⊢
  cases hend with
  | downloaded file hsha =>
    obtain rfl : file = data := hinj (hinvolved file rfl) hdata hsha
    exact Or.inl rfl
  | brokenOff error file h => exact Or.inr ⟨error, rfl, fun message he => absurd he (h message)⟩
  | mismatch message file hsha =>
    refine Or.inr ⟨_, rfl, fun _ _ => ?_⟩
    cases disk.removes <;> simp

/-- The client has the first of three bytes; the checksum is the list of the bytes itself. -/
theorem payload_transferred_resumed :
    downloadPayload .sound toString (wholeAnswer [37, 80, 68]) 0
      (toString ([37, 80, 68] : List UInt8)) (some [37]) = (.ok (), some [37, 80, 68]) := by
  obtain ⟨-, htransfer, hresumes⟩ := payload_transferred toString 0 [37, 80, 68]
  have hresult := hresumes (some [37]) ⟨[80, 68], rfl⟩
  rcases htransfer .sound (wholeAnswer [37, 80, 68]) (some [37]) {[37, 80, 68]}
    (Set.injOn_singleton _ _) rfl (fun file hfile => by
      rw [hresult] at hfile
      exact (Option.some.inj hfile).symm) with hok | ⟨error, herror, -⟩
  · exact hok
  · rw [hresult] at herror
    cases herror

/-- The client has a byte of another file, and cannot remove the file whose checksum is wrong. -/
theorem mismatched_file_stays :
    Set.InjOn (toString : List UInt8 → String) {[37, 80], [36, 80]} ∧
      downloadPayload { Disk.sound with removes := false } toString (wholeAnswer [37, 80]) 0
        (toString ([37, 80] : List UInt8)) (some [36]) =
          (.error (.sha256Mismatch "SHA256 mismatch: expected [37, 80], got [36, 80]"),
            some [36, 80]) := by
  have hne : toString ([37, 80] : List UInt8) ≠ toString ([36, 80] : List UInt8) := by
    decide +kernel
  refine ⟨?_, by decide +kernel⟩
  rintro a (rfl | rfl) b (rfl | rfl) h
  · rfl
  · exact absurd h hne
  · exact absurd h.symm hne
  · rfl

end Print

end DevBridge
