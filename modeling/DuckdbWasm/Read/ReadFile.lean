import DuckdbWasm.Ladder.ReadOpen

/-! # readFile

readFile copies a window of a file to `buf`: over HTTP and S3 by one GET with the window's
Range, for the file reader by `Blob.slice`, for OPFS by the access handle's `read`; a throw ends
in failWith and 0. It delivers `C[location, location + bytes)`, cut at the end of `C`, except
past the end of an HTTP or S3 file, where a 416 or the cut of a 200 body ends in failWith.
-/
namespace DuckdbWasm
open Js

/-- The bytes a read of `bytes` bytes at `location` of `C` is to deliver:
`C[location, location + bytes)`, cut at the end of `C`. -/
def readWindow (C : List UInt8) (bytes location : Nat) : List UInt8 := (C.drop location).take bytes

@[simp] theorem length_readWindow (C : List UInt8) (bytes location : Nat) :
    (readWindow C bytes location).length = min bytes (C.length - location) := by
  simp [readWindow]

/-- The Range readFile sends selects the read window. -/
theorem window_readRange (C : List UInt8) {bytes : Nat} (location : Nat) (hb : 0 < bytes) :
    window C ⟨location, some (location + bytes - 1)⟩ = readWindow C bytes location := by
  simp only [window, readWindow]
  congr 1
  omega

/-- How readFile of `bytes` bytes at `location` into `buf` ends, from `w`, on a file holding
`C`: the window delivered to `buf`, zero-padded to at most `bytes` bytes, with no failWith; or
0 after a failWith, with the heap untouched. -/
inductive ReadEnd (C : List UInt8) (buf bytes location : Nat) (w : World) : Completion Nat × World → Prop
  | delivered {w' : World} (pad : Nat) : w'.failures = w.failures →
      w'.heap = w.heap.set (readWindow C bytes location ++ List.replicate pad 0) buf →
      (readWindow C bytes location).length + pad ≤ bytes →
      ReadEnd C buf bytes location w (.normal (readWindow C bytes location).length, w')
  | reported {w' : World} (message : String) : w'.failures = w.failures ++ [message] → w'.heap = w.heap →
      ReadEnd C buf bytes location w (.normal 0, w')

namespace ReadEnd
variable {C : List UInt8} {buf bytes location : Nat} {w w₁ w' : World} {r : Completion Nat}

/-- readFile writes no heap byte outside `[buf, buf + bytes)`. -/
theorem bytes_outside (h : ReadEnd C buf bytes location w (r, w')) {i : Nat} (hi : i < buf ∨ buf + bytes ≤ i) :
    w'.heap.bytes i = w.heap.bytes i := by
  cases h with
  | delivered pad _ hheap hlen =>
    rw [hheap]
    exact Heap.set_bytes_outside _ _ (by simp only [List.length_append, List.length_replicate]; omega)
  | reported _ _ hheap => rw [hheap]

/-- A read that reports no failure returns the window's length and leaves the window at `buf`. -/
theorem read_delivered (h : ReadEnd C buf bytes location w (r, w')) (hf : w'.failures = w.failures) :
    r = .normal (readWindow C bytes location).length ∧
      w'.heap.read buf (readWindow C bytes location).length = readWindow C bytes location := by
  cases h with
  | delivered pad _ hheap _ => exact ⟨rfl, by rw [hheap]; exact Heap.read_set_prefix _ _ _ _⟩
  | reported m hm _ => rw [hm] at hf; simp at hf

/-- readFile's catch turns a throw into 0 after a failWith. -/
theorem caught {m : Js Nat} {e : Thrown} (hm : m w₁ = (.thrown e, w')) (hh : w'.heap = w.heap)
    (hf : w'.failures = w.failures) :
    ReadEnd C buf bytes location w (tryCatch m (fun e => do failWith e.toString; pure 0) w₁) := by
  rw [tryCatch_run, hm]
  exact .reported e.toString (by simp [failWith, hf]) hh

theorem copied {m : Js Nat} (pad : Nat) (hm : m w₁ = (.normal (readWindow C bytes location).length, w'))
    (hh : w'.heap = w.heap.set (readWindow C bytes location ++ List.replicate pad 0) buf)
    (hlen : (readWindow C bytes location).length + pad ≤ bytes) (hf : w'.failures = w.failures) :
    ReadEnd C buf bytes location w (tryCatch m (fun e => do failWith e.toString; pure 0) w₁) := by
  rw [tryCatch_run, hm]
  exact .delivered pad hf hh hlen

end ReadEnd

/-- `new Uint8Array(buffer, offset, length)` inside the buffer is its window. -/
theorem uint8ArrayView_within (buffer : List UInt8) {offset : Nat} {length : Int} (h0 : 0 ≤ length)
    (h : offset + length ≤ buffer.length) (w : World) :
    uint8ArrayView buffer offset length w = (.normal ((buffer.drop offset).take length.toNat), w) := by
  simp only [uint8ArrayView]
  rw [if_neg (by omega)]
  rfl

/-- The view the HTTP branch cuts out of a body reaching `location` is the read window. -/
theorem view_eq_readWindow (body : List UInt8) (bytes : Nat) {location : Nat} (hloc : location ≤ body.length) :
    (body.drop location).take (min ((body.length : Int) - location) bytes).toNat = readWindow body bytes location := by
  rw [readWindow, List.take_eq_take]
  simp
  omega

theorem view_eq_readWindow_zero (body : List UInt8) (bytes : Nat) :
    (body.drop 0).take (min (body.length : Int) bytes).toNat = readWindow body bytes 0 := by
  simpa using view_eq_readWindow body bytes (Nat.zero_le _)

section Remote
variable {im : Imports} {file : FileInfo} {fileId buf bytes location : Nat} {w : World} {resp : Response}

theorem readRemoteFile_noUrl (hurl : file.dataUrl.all (·.isEmpty) = true) :
    ∃ e, readRemoteFile im file fileId buf bytes location w = (.thrown e, w) := by
  simp [readRemoteFile, hurl, fail]

/-- A 206 answer: up to `bytes` bytes of its body are copied to `buf`. -/
theorem readRemoteFile_ranged (hurl : file.dataUrl.all (·.isEmpty) = false)
    (hans : w.answer (readRequest im file bytes location) = .response resp) (h206 : resp.status = 206) :
    readRemoteFile im file fileId buf bytes location w =
      (.normal (resp.body.take bytes).length, { w.record (readRequest im file bytes location) (.response resp) with
        heap := w.heap.set (resp.body.take bytes) buf }) := by
  simp only [readRemoteFile, hurl, Bool.false_eq_true, if_false, tryCatch_run, bind_run, send_response hans, h206,
    true_or, if_true]
  rw [uint8ArrayView_within _ (by omega) (by omega), view_eq_readWindow_zero]
  rfl

/-- A 200 answer reaching `location`: the window is cut out of its body, also on the path
the code takes for a whole-file read at 0. -/
theorem readRemoteFile_whole (hurl : file.dataUrl.all (·.isEmpty) = false)
    (hans : w.answer (readRequest im file bytes location) = .response resp) (h200 : resp.status = 200)
    (hloc : location ≤ resp.body.length) :
    readRemoteFile im file fileId buf bytes location w =
      (.normal (readWindow resp.body bytes location).length,
        { w.record (readRequest im file bytes location) (.response resp) with
          heap := w.heap.set (readWindow resp.body bytes location) buf }) := by
  simp only [readRemoteFile, hurl, Bool.false_eq_true, if_false, tryCatch_run, bind_run, send_response hans, h200]
  split_ifs with h1 <;> simp only [bind_run] <;> rw [uint8ArrayView_within _ (by omega) (by omega)]
  · obtain ⟨hb, rfl⟩ : bytes = resp.body.length ∧ location = 0 := by simpa using h1
    rw [view_eq_readWindow_zero]
    rfl
  · rw [view_eq_readWindow _ _ hloc]
    rfl

/-- A network error, a status other than 206 and 200, or a 200 body ending before
`location`: the GET is logged and the branch throws. -/
theorem readRemoteFile_thrown {a : Answer} (hurl : file.dataUrl.all (·.isEmpty) = false)
    (hans : w.answer (readRequest im file bytes location) = a)
    (hfail : ∀ resp, a = .response resp → resp.status ≠ 206 ∧ (resp.status = 200 → resp.body.length < location)) :
    ∃ e, readRemoteFile im file fileId buf bytes location w =
      (.thrown e, w.record (readRequest im file bytes location) a) := by
  rcases a with resp | e
  · obtain ⟨h206, h200⟩ := hfail resp rfl
    simp only [readRemoteFile, hurl, Bool.false_eq_true, if_false, tryCatch_run, bind_run, send_response hans]
    by_cases h : resp.status = 200
    · have hloc : location ≠ 0 := by have := h200 h; omega
      have hneg : min ((resp.body.length : Int) - location) bytes < 0 := by have := h200 h; omega
      simp [h, hloc, uint8ArrayView, hneg, fail]
    · simp [h206, h, fail]
  · simp [readRemoteFile, hurl, send_abort hans, fail]

/-- The HTTP branch throws on a 416 answer, and on a 200 answer shorter than `location`. -/
theorem readRemoteFile_past_end (hurl : file.dataUrl.all (·.isEmpty) = false)
    (hans : w.answer (readRequest im file bytes location) = .response resp)
    (hpast : resp.status = 416 ∨ (resp.status = 200 ∧ resp.body.length < location)) :
    ∃ e, readRemoteFile im file fileId buf bytes location w =
      (.thrown e, w.record (readRequest im file bytes location) (.response resp)) :=
  readRemoteFile_thrown hurl hans fun _ h => by cases h; exact ⟨by omega, fun _ => by omega⟩

/-- On a server serving `C`, the HTTP branch copies the read window to `buf` when the URL is
set and the GET is answered 206, or 200 with a body reaching `location`; otherwise it throws,
with the heap and the failures as they were. -/
theorem readRemoteFile_serves {C : List UInt8} (hb : 0 < bytes)
    (hs : Serves C (readRequest im file bytes location) (w.answer (readRequest im file bytes location))) :
    (∃ w', readRemoteFile im file fileId buf bytes location w = (.normal (readWindow C bytes location).length, w') ∧
      w'.heap = w.heap.set (readWindow C bytes location) buf ∧ w'.failures = w.failures) ∨
    ((file.dataUrl.all (·.isEmpty) = false → ∀ resp, w.answer (readRequest im file bytes location) = .response resp →
        ¬(resp.status = 206 ∨ (resp.status = 200 ∧ location ≤ C.length))) ∧
      ∃ e w', readRemoteFile im file fileId buf bytes location w = (.thrown e, w') ∧ w'.heap = w.heap ∧
        w'.failures = w.failures) := by
  cases hurl : file.dataUrl.all (·.isEmpty)
  · have thrown : ∀ {a}, w.answer (readRequest im file bytes location) = a →
        (∀ resp, a = .response resp → resp.status ≠ 206 ∧ (resp.status = 200 → resp.body.length < location)) →
        ∃ e w', readRemoteFile im file fileId buf bytes location w = (.thrown e, w') ∧ w'.heap = w.heap ∧
          w'.failures = w.failures := fun hans hfail =>
      let ⟨e, he⟩ := readRemoteFile_thrown hurl hans hfail
      ⟨e, _, he, rfl, rfl⟩
    generalize hans : w.answer (readRequest im file bytes location) = a at hs
    cases hs with
    | @window range text cr hr _ =>
      simp only [readRequest, fileRequest, remoteRequest_range, Option.some.injEq] at hr
      subst hr
      rw [window_readRange C location hb] at hans
      have ht : (readWindow C bytes location).take bytes = readWindow C bytes location :=
        List.take_of_length_le (by simp only [length_readWindow]; exact Nat.min_le_left _ _)
      rw [readRemoteFile_ranged hurl hans rfl, ht]
      exact .inl ⟨_, rfl, rfl, rfl⟩
    | whole =>
      by_cases hloc : location ≤ C.length
      · exact .inl ⟨_, readRemoteFile_whole hurl hans rfl hloc, rfl, rfl⟩
      · refine .inr ⟨fun _ resp h hok => ?_, thrown hans fun resp h => ?_⟩ <;> cases h
        · dsimp only at hok
          omega
        · exact ⟨by simp, fun _ => by dsimp only; omega⟩
    | failed hst =>
      refine .inr ⟨fun _ resp h hok => ?_, thrown hans fun resp h => ?_⟩ <;> cases h <;> omega
    | aborted => exact .inr ⟨fun _ resp h => (by cases h), thrown hans fun resp h => by cases h⟩
  · obtain ⟨e, he⟩ : ∃ e, readRemoteFile im file fileId buf bytes location w = (.thrown e, w) :=
      readRemoteFile_noUrl hurl
    exact .inr ⟨fun h => (by cases h), e, _, he, rfl, rfl⟩

end Remote

/-- readFile of a file the engine knows, for `bytes > 0`: the branch of its protocol, inside
the catch that reports a throw, after getFileInfo, which touches only the cache. -/
theorem readFile_known {w : World} {fileId bytes : Nat} {file : FileInfo}
    (hinfo : (getFileInfo fileId w).1 = .normal (some file)) (hb : 0 < bytes) (buf location : Nat) :
    ∃ cache, readFile fileId buf bytes location w =
      tryCatch (match file.dataProtocol with
        | .HTTP | .S3 => readRemoteFile w.imports file fileId buf bytes location
        | .BROWSER_FILEREADER => readBlobFile file buf bytes location
        | .BROWSER_FSACCESS => readOPFSFile file.fileName buf bytes location
        | _ => pure 0) (fun e => do failWith e.toString; pure 0) { w with fileInfoCache := cache } := by
  obtain ⟨cache, hget⟩ := getFileInfo_eq hinfo
  refine ⟨cache, ?_⟩
  rcases hp : file.dataProtocol <;>
    simp only [readFile, Nat.pos_iff_ne_zero.mp hb, if_false, tryCatch_run, bind_run, read_run, hget, hp]

/-- readFile of an HTTP or S3 file runs the ranged GET branch inside the catch. -/
theorem readFile_remote_run {w : World} {fileId bytes : Nat} {file : FileInfo}
    (hinfo : (getFileInfo fileId w).1 = .normal (some file))
    (hproto : file.dataProtocol = .HTTP ∨ file.dataProtocol = .S3) (hb : 0 < bytes) (buf location : Nat) :
    ∃ cache, readFile fileId buf bytes location w = tryCatch (readRemoteFile w.imports file fileId buf bytes location)
      (fun e => do failWith e.toString; pure 0) { w with fileInfoCache := cache } := by
  obtain ⟨cache, hread⟩ := readFile_known hinfo hb buf location
  exact ⟨cache, by rcases hproto with h | h <;> rw [hread, h]⟩

section Files
variable {w : World} {fileId bytes : Nat} {file : FileInfo} {C : List UInt8}

/-- readFile of an HTTP or S3 file on a server serving `C` delivers the read window or
reports a failure; it delivers whenever the URL is set and the GET is answered 206, or 200
with all of `C` reaching `location`. -/
theorem readFile_remote (hinfo : (getFileInfo fileId w).1 = .normal (some file))
    (hproto : file.dataProtocol = .HTTP ∨ file.dataProtocol = .S3) (hb : 0 < bytes)
    (hs : ∀ n r, Serves C r (w.net n r)) (buf location : Nat) :
    ReadEnd C buf bytes location w (readFile fileId buf bytes location w) ∧
    (file.dataUrl.all (·.isEmpty) = false → ∀ resp,
      w.answer (readRequest w.imports file bytes location) = .response resp →
      resp.status = 206 ∨ (resp.status = 200 ∧ location ≤ C.length) →
      (readFile fileId buf bytes location w).2.failures = w.failures) := by
  obtain ⟨cache, hrun⟩ := readFile_remote_run hinfo hproto hb buf location
  have hs' : Serves C (readRequest w.imports file bytes location)
      ({ w with fileInfoCache := cache }.answer (readRequest w.imports file bytes location)) := hs _ _
  rw [hrun]
  rcases readRemoteFile_serves hb hs' with ⟨w', h, hh, hf⟩ | ⟨hno, e, w', h, hh, hf⟩
  · exact ⟨.copied 0 h (by simpa using hh) (by simp only [length_readWindow]; omega) hf,
      fun _ _ _ _ => by rw [tryCatch_run, h]; exact hf⟩
  · exact ⟨.caught h hh hf, fun hurl resp hans hok => absurd hok (hno hurl resp hans)⟩

theorem readFile_remote_rangedBinary :
    (getFileInfo 1 rangedBinary).1 = .normal (some httpBinary) ∧
      (httpBinary.dataProtocol = .HTTP ∨ httpBinary.dataProtocol = .S3) ∧ 0 < 2 ∧
      (∀ n r, Serves [1, 2, 3] r (rangedBinary.net n r)) ∧
      ReadEnd [1, 2, 3] 8 2 1 rangedBinary (readFile 1 8 2 1 rangedBinary) ∧
      (httpBinary.dataUrl.all (·.isEmpty) = false → ∀ resp,
        rangedBinary.answer (readRequest rangedBinary.imports httpBinary 2 1) = .response resp →
        resp.status = 206 ∨ (resp.status = 200 ∧ 1 ≤ [1, 2, 3].length) →
        (readFile 1 8 2 1 rangedBinary).2.failures = rangedBinary.failures) :=
  have hinfo : (getFileInfo 1 rangedBinary).1 = .normal (some httpBinary) := rfl
  ⟨hinfo, .inl rfl, by decide, rangeServer_serves _,
    readFile_remote hinfo (.inl rfl) (by decide) (rangeServer_serves _) 8 1⟩

/-- The file reader's branch on a registered blob: the window of the blob is copied to `buf`. -/
theorem readBlobFile_registered {buf location : Nat}
    (hfile : (w.files.get (.name file.fileName)).map w.objects = some (.blob C)) :
    readBlobFile file buf bytes location w =
      (.normal (readWindow C bytes location).length, { w with heap := w.heap.set (readWindow C bytes location) buf }) := by
  simp [readBlobFile, lookupFile, hfile, heapSet, readWindow]

/-- readFile of a file-reader file registered as a blob `C` delivers the read window. -/
theorem readFile_blob (hinfo : (getFileInfo fileId w).1 = .normal (some file))
    (hproto : file.dataProtocol = .BROWSER_FILEREADER) (hb : 0 < bytes)
    (hfile : (w.files.get (.name file.fileName)).map w.objects = some (.blob C)) (buf location : Nat) :
    ReadEnd C buf bytes location w (readFile fileId buf bytes location w) ∧
      (readFile fileId buf bytes location w).2.failures = w.failures := by
  obtain ⟨cache, hread⟩ := readFile_known hinfo hb buf location
  have h : readBlobFile file buf bytes location { w with fileInfoCache := cache } =
      (.normal (readWindow C bytes location).length,
        { w with fileInfoCache := cache, heap := w.heap.set (readWindow C bytes location) buf }) :=
    readBlobFile_registered hfile
  rw [hread, hproto]
  dsimp only
  exact ⟨.copied 0 h (by simp) (by simp only [length_readWindow]; omega) rfl, by rw [tryCatch_run, h]⟩

/-- The OPFS branch on a registered handle whose access handle is open: the handle's `read`
fills a `bytes`-long buffer with the window of the file and zeros, and all of it is copied
to `buf`; the count returned is the window's length. -/
theorem readOPFSFile_open {handle : OPFSFileHandle} {a buf location : Nat} {s : SyncAccessHandle}
    (hfile : (w.files.get (.name file.fileName)).map w.objects = some (.opfs handle))
    (hassert : w.imports.assertOPFSHandle "readFile" file.fileName (some (.opfs handle)) true = none)
    (hacc : handle.accessHandle = some a) (hopen : w.opfs.accessHandles[a]? = some s) (hs : s.isOpen = true) :
    readOPFSFile file.fileName buf bytes location w =
      (.normal (readWindow (w.opfs.contents s.file) bytes location).length,
        { w with heap := w.heap.set (readWindow (w.opfs.contents s.file) bytes location ++
          List.replicate (bytes - (readWindow (w.opfs.contents s.file) bytes location).length) 0) buf }) := by
  simp [readOPFSFile, lookupFile, hfile, assertOPFS, hassert, accessHandleOf, hacc, accessRead, openAccessHandle,
    hopen, hs, heapSet, readWindow]

/-- readFile of an OPFS file whose registered handle holds an open access handle on file `s`:
the buffer the handle's `read` fills is copied to `buf`; only the heap and the cache change. -/
theorem readFile_opfs_run {handle : OPFSFileHandle} {a : Nat} {s : SyncAccessHandle}
    (hinfo : (getFileInfo fileId w).1 = .normal (some file)) (hproto : file.dataProtocol = .BROWSER_FSACCESS)
    (hb : 0 < bytes) (hfile : (w.files.get (.name file.fileName)).map w.objects = some (.opfs handle))
    (hassert : w.imports.assertOPFSHandle "readFile" file.fileName (some (.opfs handle)) true = none)
    (hacc : handle.accessHandle = some a) (hopen : w.opfs.accessHandles[a]? = some s) (hs : s.isOpen = true)
    (buf location : Nat) :
    ∃ cache, readFile fileId buf bytes location w =
      (.normal (readWindow (w.opfs.contents s.file) bytes location).length,
        { w with fileInfoCache := cache, heap := w.heap.set (readWindow (w.opfs.contents s.file) bytes location ++
          List.replicate (bytes - (readWindow (w.opfs.contents s.file) bytes location).length) 0) buf }) := by
  obtain ⟨cache, hread⟩ := readFile_known hinfo hb buf location
  have h : readOPFSFile file.fileName buf bytes location { w with fileInfoCache := cache } =
      (.normal (readWindow (w.opfs.contents s.file) bytes location).length,
        { w with fileInfoCache := cache, heap := w.heap.set (readWindow (w.opfs.contents s.file) bytes location ++
          List.replicate (bytes - (readWindow (w.opfs.contents s.file) bytes location).length) 0) buf }) :=
    readOPFSFile_open hfile hassert hacc hopen hs
  refine ⟨cache, ?_⟩
  rw [hread, hproto]
  dsimp only
  rw [tryCatch_run, h]

end Files

/-- A read past the end of an HTTP or S3 file answered 416, or 200 with a shorter body,
returns 0 after a failWith. -/
theorem readFile_fails_past_end {w : World} {fileId buf bytes location : Nat} {file : FileInfo}
    {resp : Response} (hinfo : (getFileInfo fileId w).1 = .normal (some file))
    (hproto : file.dataProtocol = .HTTP ∨ file.dataProtocol = .S3)
    (hurl : file.dataUrl.all (·.isEmpty) = false) (hbytes : 0 < bytes)
    (hans : w.answer (readRequest w.imports file bytes location) = .response resp)
    (hpast : resp.status = 416 ∨ (resp.status = 200 ∧ resp.body.length < location)) :
    (readFile fileId buf bytes location w).1 = .normal 0 ∧
      ∃ message, (readFile fileId buf bytes location w).2.failures = w.failures ++ [message] := by
  obtain ⟨cache, hrun⟩ := readFile_remote_run hinfo hproto hbytes buf location
  obtain ⟨e, he⟩ := @readRemoteFile_past_end w.imports file fileId buf bytes location
    { w with fileInfoCache := cache } resp hurl hans hpast
  rw [hrun, tryCatch_run, he]
  exact ⟨rfl, e.toString, rfl⟩

/-- The HTTP file `data.csv` as the engine records it under file id 1. -/
def httpData : FileInfo := ⟨1, 1, "data.csv", .HTTP, some "data.csv", false, false, none⟩

/-- A runtime reading `data.csv` from a server that answers every request with 416. -/
def rangeNotSatisfiable : World :=
  World.fresh Imports.duckdb (Engine.ofFiles [httpData])
    (fun _ _ => .response ⟨416, "Range Not Satisfiable", none, none, []⟩) [] (fun _ => .blob []) Opfs.empty

theorem readFile_fails_past_end_416 :
    (getFileInfo 1 rangeNotSatisfiable).1 = .normal (some httpData) ∧
    (httpData.dataProtocol = .HTTP ∨ httpData.dataProtocol = .S3) ∧ httpData.dataUrl.all (·.isEmpty) = false ∧
    0 < 100 ∧ rangeNotSatisfiable.answer (readRequest rangeNotSatisfiable.imports httpData 100 10) =
      .response ⟨416, "Range Not Satisfiable", none, none, []⟩ ∧
    (readFile 1 8 100 10 rangeNotSatisfiable).1 = .normal 0 ∧
      ∃ message, (readFile 1 8 100 10 rangeNotSatisfiable).2.failures = rangeNotSatisfiable.failures ++ [message] :=
  ⟨rfl, .inl rfl, rfl, by decide, rfl,
    @readFile_fails_past_end rangeNotSatisfiable 1 8 100 10 httpData _ rfl (.inl rfl) rfl (by decide) rfl (.inl rfl)⟩

end DuckdbWasm
