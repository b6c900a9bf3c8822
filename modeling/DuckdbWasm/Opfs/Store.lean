import DuckdbWasm.Read.ReadFile
import DuckdbWasm.Opfs.Sessions
import DuckdbWasm.Cache.Coherence

/-! # An OPFS file as a byte store

An OPFS file is a list of bytes that its access handle writes, truncates and reads as `pwrite`,
`ftruncate` and `pread` do. Through a `Session` the runtime's calls act on the file as that byte
store does (`storeEffect`), so on every reachable state a readFile of the window a writeFile
just wrote returns the bytes written.
-/
namespace DuckdbWasm
open Js

/-- A read of the bytes just written at `offset` returns them. -/
theorem readWindow_writeAt_self (c input : List UInt8) (offset : Nat) :
    readWindow (writeAt c input offset) input.length offset = input := by
  have hp : (c.take offset ++ List.replicate (offset - c.length) 0).length = offset := by simp; omega
  rw [readWindow, writeAt, List.append_assoc, List.drop_left' hp, List.take_left' rfl]

@[simp] theorem length_heap_read (h : Heap) (offset n : Nat) : (h.read offset n).length = n := by
  simp [Heap.read]

theorem discard_snd (m : Js α) (w : World) : (discard m w).2 = (m w).2 := by
  simp only [discard, map_run]
  split <;> simp_all

/-- What a call through a session does to the bytes of its file, as a byte store: a write
stores the `bytes` heap bytes at `buf` at its location, a truncation cuts or zero-extends the
file to the new size, and any other call leaves it. -/
def storeEffect (w : World) : Call → List UInt8 → List UInt8
  | .writeFile _ buf bytes location, c => writeAt c (w.heap.read buf bytes) location
  | .truncateFile _ newSize, c => c.take newSize ++ List.replicate (newSize - c.length) 0
  | _, c => c

/-- A session as the machine the runtime implements for it, on the engine's heap and the bytes
of the session's file: a read of `bytes > 0` bytes copies the read window, zero-padded to
`bytes`, to the heap at `buf`; a write stores the `bytes` heap bytes at `buf` in the file at its
location; a truncation cuts or zero-extends the file; a read of no bytes, like every other call,
changes neither. -/
def sessionStep : Heap × List UInt8 → Call → Heap × List UInt8
  | (h, c), .readFile _ buf bytes location =>
    (if bytes = 0 then h else
      h.set (readWindow c bytes location ++ List.replicate (bytes - (readWindow c bytes location).length) 0) buf, c)
  | (h, c), .writeFile _ buf bytes location => (h, writeAt c (h.read buf bytes) location)
  | (h, c), .truncateFile _ newSize => (h, c.take newSize ++ List.replicate (newSize - c.length) 0)
  | m, _ => m

/-- On the file's bytes the session machine is the byte store. -/
theorem sessionStep_bytes (w : World) (c : Call) (x : List UInt8) :
    (sessionStep (w.heap, x) c).2 = storeEffect w c x := by
  cases c <;> rfl

/-- The calls that go through the session of `fileId`: its reads, writes and truncations. -/
inductive SessionCall (fileId : Nat) : Call → Prop
  | read (buf bytes location : Nat) : SessionCall fileId (.readFile fileId buf bytes location)
  | write (buf bytes location : Nat) : SessionCall fileId (.writeFile fileId buf bytes location)
  | truncate (newSize : Nat) : SessionCall fileId (.truncateFile fileId newSize)

/-- With a coherent cache, getFileInfo returns the engine's record of a file id whose epoch
was bumped at least once. -/
theorem CacheCoherent.getFileInfo_some {w : World} (hw : CacheCoherent w) {fileId : Nat} {file : FileInfo}
    (hcur : w.engine.current fileId = some file) (hepoch : w.engine.epoch fileId ≠ 0) :
    (getFileInfo fileId w).1 = .normal (some file) := by
  rw [getFileInfo_run]
  rcases hc : w.fileInfoCache.get fileId with _ | info
  · simp [cachedEpoch, Engine.fileInfoById, hcur, Ne.symm hepoch, fileInfoResult]
  · by_cases he : info.cacheEpoch = w.engine.epoch fileId
    · have hinfo := (hw.files fileId info hc).2 he
      rw [hcur] at hinfo
      simp [cachedEpoch, Engine.fileInfoById, hcur, he, fileInfoResult, hinfo]
    · simp [cachedEpoch, Engine.fileInfoById, hcur, he, fileInfoResult]

/-- File id `fileId` is served through an open OPFS session on the access handle `s`: with
the file-info cache coherent, the engine's record of it is the OPFS file `file`, whose name is
registered to `handle`, which holds an access handle open as `s`, and the imported assertion
accepts that handle. -/
structure Session (w : World) (fileId : Nat) (file : FileInfo) (handle : OPFSFileHandle)
    (s : SyncAccessHandle) : Prop where
  coherent : CacheCoherent w
  current : w.engine.current fileId = some file
  epoch : w.engine.epoch fileId ≠ 0
  protocol : file.dataProtocol = .BROWSER_FSACCESS
  registered : (w.files.get (.name file.fileName)).map w.objects = some (.opfs handle)
  accepted : ∀ name, w.imports.assertOPFSHandle name file.fileName (some (.opfs handle)) true = none
  held : ∃ a, handle.accessHandle = some a ∧ w.opfs.accessHandles[a]? = some s
  is_open : s.isOpen = true

namespace Session
variable {w : World} {fileId : Nat} {file : FileInfo} {handle : OPFSFileHandle} {s : SyncAccessHandle}

theorem info (hs : Session w fileId file handle s) : (getFileInfo fileId w).1 = .normal (some file) :=
  hs.coherent.getFileInfo_some hs.current hs.epoch

/-- A session carries over to a world with a coherent cache that keeps the engine, the
registry, the objects, the imports and the access handles. -/
theorem transfer (hs : Session w fileId file handle s) {w' : World} (hc : CacheCoherent w')
    (he : w'.engine = w.engine) (hf : w'.files = w.files) (ho : w'.objects = w.objects)
    (hi : w'.imports = w.imports) (ha : w'.opfs.accessHandles = w.opfs.accessHandles) :
    Session w' fileId file handle s where
  coherent := hc
  current := he ▸ hs.current
  epoch := he ▸ hs.epoch
  protocol := hs.protocol
  registered := hf ▸ ho ▸ hs.registered
  accepted := hi ▸ hs.accepted
  held := ha ▸ hs.held
  is_open := hs.is_open

theorem writeOPFSFile_session (hs : Session w fileId file handle s) (buf bytes location : Nat) :
    writeOPFSFile file.fileName buf bytes location w =
      (.normal bytes, (setContents s.file (writeAt (w.opfs.contents s.file) (w.heap.read buf bytes) location) w).2) := by
  obtain ⟨a, hacc, hopen⟩ := hs.held
  simp [writeOPFSFile, lookupFile, hs.registered, assertOPFS, hs.accepted, accessHandleOf, hacc, accessWrite,
    openAccessHandle, hopen, hs.is_open]
  rfl

/-- The cache getFileInfo leaves keeps a session. -/
theorem getFileInfo_session (hs : Session w fileId file handle s) :
    ∃ cache, getFileInfo fileId w = (.normal (some file), { w with fileInfoCache := cache }) ∧
      Session { w with fileInfoCache := cache } fileId file handle s := by
  obtain ⟨cache, hget⟩ := getFileInfo_eq hs.info
  have hc := cacheCoherent_keptByEffects.getFileInfo fileId w hs.coherent
  rw [hget] at hc
  exact ⟨cache, hget, hs.transfer hc rfl rfl rfl rfl rfl⟩

theorem truncateFile_session (hs : Session w fileId file handle s) (newSize : Nat) :
    ∃ cache, truncateFile fileId newSize w =
      (.normal (), (setContents s.file ((w.opfs.contents s.file).take newSize ++
        List.replicate (newSize - (w.opfs.contents s.file).length) 0) { w with fileInfoCache := cache }).2) := by
  obtain ⟨a, hacc, hopen⟩ := hs.held
  obtain ⟨cache, hget, -⟩ := hs.getFileInfo_session
  refine ⟨cache, ?_⟩
  simp [truncateFile, hget, hs.protocol, lookupFile, hs.registered, assertOPFS, hs.accepted, accessHandleOf, hacc,
    accessTruncate, openAccessHandle, hopen, hs.is_open]
  rfl

theorem writeFile_session (hs : Session w fileId file handle s) (buf bytes location : Nat) :
    ∃ cache, writeFile fileId buf bytes location w =
      (.normal bytes, (setContents s.file (writeAt (w.opfs.contents s.file) (w.heap.read buf bytes) location)
        { w with fileInfoCache := cache }).2) := by
  obtain ⟨cache, hget, hs₁⟩ := hs.getFileInfo_session
  refine ⟨cache, ?_⟩
  simp only [writeFile, bind_run, read_run, hget, hs.protocol]
  exact hs₁.writeOPFSFile_session buf bytes location

theorem readFile_session (hs : Session w fileId file handle s) {bytes : Nat} (hb : 0 < bytes) (buf location : Nat) :
    ∃ cache, readFile fileId buf bytes location w =
      (.normal (readWindow (w.opfs.contents s.file) bytes location).length, { w with
        fileInfoCache := cache
        heap := w.heap.set (readWindow (w.opfs.contents s.file) bytes location ++
          List.replicate (bytes - (readWindow (w.opfs.contents s.file) bytes location).length) 0) buf }) :=
  let ⟨_, hacc, hopen⟩ := hs.held
  readFile_opfs_run hs.info hs.protocol hb hs.registered (hs.accepted _) hacc hopen hs.is_open buf location

/-- One call through the session keeps it and acts on the session's file as the byte store
does, leaving every other OPFS file as it was. -/
theorem step (hs : Session w fileId file handle s) {c : Call} (hc : SessionCall fileId c) :
    Session (c.run w).2 fileId file handle s ∧
      ∀ g, (c.run w).2.opfs.contents g =
        if g = s.file then storeEffect w c (w.opfs.contents s.file) else w.opfs.contents g := by
  have hcoh := cacheCoherent_keptByEffects.call c w hs.coherent
  cases hc with
  | read buf bytes location =>
    rcases Nat.eq_zero_or_pos bytes with rfl | hb
    · have h0 : (Call.run (.readFile fileId buf 0 location) w).2 = w := by simp [Call.run, discard_snd, readFile]
      rw [h0]
      exact ⟨hs, fun g => by split <;> simp_all [storeEffect]⟩
    · obtain ⟨cache, h⟩ := hs.readFile_session hb buf location
      rw [Call.run, discard_snd, h] at hcoh ⊢
      exact ⟨hs.transfer hcoh rfl rfl rfl rfl rfl, fun g => by split <;> simp_all [storeEffect]⟩
  | write buf bytes location =>
    obtain ⟨cache, h⟩ := hs.writeFile_session buf bytes location
    rw [Call.run, discard_snd, h] at hcoh ⊢
    exact ⟨hs.transfer hcoh rfl rfl rfl rfl rfl, fun g => by simp [setContents, storeEffect]⟩
  | truncate newSize =>
    obtain ⟨cache, h⟩ := hs.truncateFile_session newSize
    rw [Call.run, h] at hcoh ⊢
    exact ⟨hs.transfer hcoh rfl rfl rfl rfl rfl, fun g => by simp [setContents, storeEffect]⟩

/-- One call through the session moves the engine's heap and the session's file as one step of
the session machine. -/
theorem step_machine (hs : Session w fileId file handle s) {c : Call} (hc : SessionCall fileId c) :
    sessionStep (w.heap, w.opfs.contents s.file) c = ((c.run w).2.heap, (c.run w).2.opfs.contents s.file) := by
  refine Prod.ext ?_ (by rw [(hs.step hc).2, if_pos rfl, sessionStep_bytes])
  cases hc with
  | read buf bytes location =>
    rcases Nat.eq_zero_or_pos bytes with rfl | hb
    · simp [Call.run, discard_snd, readFile, sessionStep]
    · obtain ⟨_, h⟩ := hs.readFile_session hb buf location
      simp [Call.run, discard_snd, h, sessionStep, hb.ne']
  | write buf bytes location =>
    obtain ⟨_, h⟩ := hs.writeFile_session buf bytes location
    simp [Call.run, discard_snd, h, setContents, sessionStep]
  | truncate newSize =>
    obtain ⟨_, h⟩ := hs.truncateFile_session newSize
    simp [Call.run, h, setContents, sessionStep]

/-- Through a session, writeFile of `bytes` heap bytes at `location` returns `bytes`, and a
readFile of that window then returns `bytes` and leaves at `buf'` the bytes written. -/
theorem read_after_write (hs : Session w fileId file handle s) {bytes : Nat} (hb : 0 < bytes)
    (buf buf' location : Nat) :
    (writeFile fileId buf bytes location w).1 = .normal bytes ∧
      (readFile fileId buf' bytes location (writeFile fileId buf bytes location w).2).1 = .normal bytes ∧
      (readFile fileId buf' bytes location (writeFile fileId buf bytes location w).2).2.heap.read buf' bytes =
        w.heap.read buf bytes := by
  obtain ⟨hs₂, hcont⟩ := hs.step (.write buf bytes location)
  rw [Call.run, discard_snd] at hs₂ hcont
  have hwin : readWindow ((writeFile fileId buf bytes location w).2.opfs.contents s.file) bytes location =
      w.heap.read buf bytes := by
    rw [hcont, if_pos rfl]
    simpa [storeEffect] using readWindow_writeAt_self (w.opfs.contents s.file) (w.heap.read buf bytes) location
  obtain ⟨_, hw⟩ := hs.writeFile_session buf bytes location
  obtain ⟨_, hr⟩ := hs₂.readFile_session hb buf' location
  refine ⟨by rw [hw], ?_, ?_⟩ <;> rw [hr, hwin]
  · simp
  · simpa using Heap.read_set_self _ (w.heap.read buf bytes) buf'

/-- Every run of reads, writes and truncations through a session keeps it, moves the engine's
heap and the session's file as the session machine does, and leaves every other OPFS file as it
was. -/
theorem runCalls_machine {calls : List Call} (hs : Session w fileId file handle s)
    (hc : ∀ c ∈ calls, SessionCall fileId c) :
    Session (DuckdbWasm.runCalls calls w) fileId file handle s ∧
      ((DuckdbWasm.runCalls calls w).heap, (DuckdbWasm.runCalls calls w).opfs.contents s.file) =
        calls.foldl sessionStep (w.heap, w.opfs.contents s.file) ∧
      ∀ g, g ≠ s.file → (DuckdbWasm.runCalls calls w).opfs.contents g = w.opfs.contents g := by
  induction calls generalizing w with
  | nil => exact ⟨hs, rfl, fun _ _ => rfl⟩
  | cons c cs ih =>
    have hc₁ := hc c (List.mem_cons_self c cs)
    obtain ⟨hs', hcont⟩ := hs.step hc₁
    obtain ⟨hrun, hmachine, hother⟩ := ih hs' fun c' h => hc c' (List.mem_cons_of_mem c h)
    refine ⟨hrun, ?_, fun g hg => (hother g hg).trans (by rw [hcont, if_neg hg])⟩
    rw [DuckdbWasm.runCalls, hmachine, List.foldl_cons, hs.step_machine hc₁]

end Session

/-- `db.duckdb` of opfsRegistered opened through file id 1: its handle holds access handle 0,
open on file 7. -/
def openedDatabase : World := runCalls [.openFileAsync 1 0] opfsRegistered

/-- The handle of `db.duckdb` in openedDatabase. -/
def openedHandle : OPFSFileHandle := ⟨"db.duckdb", some 0, some 7, some 0, some 0, false⟩

/-- A write, a read and a truncation through file id 1. -/
def sessionCalls : List Call := [.writeFile 1 8 5 0, .readFile 1 16 5 0, .truncateFile 1 2]

theorem openedDatabase_session : Session openedDatabase 1 opfsDatabase openedHandle ⟨7, true⟩ where
  coherent := (Reach.init.runCalls _).cacheCoherent (cacheCoherent_of_empty rfl rfl)
  current := rfl
  epoch := by decide
  protocol := rfl
  registered := rfl
  accepted _ := rfl
  held := ⟨0, rfl, rfl⟩
  is_open := rfl

theorem runCalls_machine_openedDatabase :
    Session openedDatabase 1 opfsDatabase openedHandle ⟨7, true⟩ ∧
      (∀ c ∈ sessionCalls, SessionCall 1 c) ∧
      Session (runCalls sessionCalls openedDatabase) 1 opfsDatabase openedHandle ⟨7, true⟩ ∧
      ((runCalls sessionCalls openedDatabase).heap, (runCalls sessionCalls openedDatabase).opfs.contents 7) =
        sessionCalls.foldl sessionStep (openedDatabase.heap, openedDatabase.opfs.contents 7) ∧
      ∀ g, g ≠ 7 → (runCalls sessionCalls openedDatabase).opfs.contents g = openedDatabase.opfs.contents g :=
  have hc : ∀ c ∈ sessionCalls, SessionCall 1 c := by
    intro c hc
    simp only [sessionCalls, List.mem_cons, List.mem_singleton, List.not_mem_nil, or_false] at hc
    rcases hc with rfl | rfl | rfl
    exacts [.write _ _ _, .read _ _ _, .truncate _]
  ⟨openedDatabase_session, hc, Session.runCalls_machine openedDatabase_session hc⟩

/-- On every state a run reaches from exclusive sessions and a coherent cache, an OPFS file
id whose name's handle holds an access handle accepted by the imported assertion has a session. -/
theorem Session.of_reach {w₀ w : World} (hs₀ : SessionsExclusive w₀) (hc₀ : CacheCoherent w₀) (hr : Reach w₀ w)
    {fileId ref a : Nat} {file : FileInfo} {handle : OPFSFileHandle}
    (hcur : w.engine.current fileId = some file) (hepoch : w.engine.epoch fileId ≠ 0)
    (hproto : file.dataProtocol = .BROWSER_FSACCESS) (href : w.files.get (.name file.fileName) = some ref)
    (hobj : w.objects ref = .opfs handle) (hacc : handle.accessHandle = some a)
    (hassert : ∀ name, w.imports.assertOPFSHandle name file.fileName (some (.opfs handle)) true = none) :
    ∃ s, Session w fileId file handle s := by
  obtain ⟨s, hopen, hs⟩ := (hr.sessionsExclusive hs₀).held_open ref a
    (by simp [heldAccessHandle, hobj, hacc, HostObject.opfsHandle])
  exact ⟨s, hr.cacheCoherent hc₀, hcur, hepoch, hproto, by simp [href, hobj], hassert, ⟨a, hacc, hopen⟩, hs⟩

/-- On every state a run reaches from exclusive sessions and a coherent cache: writeFile of
`bytes` heap bytes at `location` to an OPFS file whose name's handle holds an access handle
returns `bytes`, and a readFile of that window then returns `bytes` and leaves at `buf'` the
bytes written. -/
theorem opfs_read_after_write {w₀ w : World} (hs₀ : SessionsExclusive w₀) (hc₀ : CacheCoherent w₀)
    (hr : Reach w₀ w) {fileId ref a buf buf' bytes location : Nat} {file : FileInfo} {handle : OPFSFileHandle}
    (hcur : w.engine.current fileId = some file) (hepoch : w.engine.epoch fileId ≠ 0)
    (hproto : file.dataProtocol = .BROWSER_FSACCESS) (href : w.files.get (.name file.fileName) = some ref)
    (hobj : w.objects ref = .opfs handle) (hacc : handle.accessHandle = some a)
    (hassert : ∀ name, w.imports.assertOPFSHandle name file.fileName (some (.opfs handle)) true = none)
    (hb : 0 < bytes) :
    (writeFile fileId buf bytes location w).1 = .normal bytes ∧
      (readFile fileId buf' bytes location (writeFile fileId buf bytes location w).2).1 = .normal bytes ∧
      (readFile fileId buf' bytes location (writeFile fileId buf bytes location w).2).2.heap.read buf' bytes =
        w.heap.read buf bytes :=
  let ⟨_, hs⟩ := Session.of_reach hs₀ hc₀ hr hcur hepoch hproto href hobj hacc hassert
  hs.read_after_write hb buf buf' location

theorem opfsRegistered_sessionsExclusive : SessionsExclusive opfsRegistered :=
  sessionsExclusive_of_none_held fun ref => by
    by_cases h : ref = 0 <;> simp [heldAccessHandle, opfsRegistered, World.fresh, h, HostObject.opfsHandle]

theorem opfs_read_after_write_openedDatabase :
    SessionsExclusive opfsRegistered ∧ CacheCoherent opfsRegistered ∧ Reach opfsRegistered openedDatabase ∧
      openedDatabase.engine.current 1 = some opfsDatabase ∧ openedDatabase.engine.epoch 1 ≠ 0 ∧
      openedDatabase.files.get (.name "db.duckdb") = some 0 ∧ openedDatabase.objects 0 = .opfs openedHandle ∧
      (∀ name, openedDatabase.imports.assertOPFSHandle name "db.duckdb" (some (.opfs openedHandle)) true = none) ∧
      (writeFile 1 8 5 0 openedDatabase).1 = .normal 5 ∧
      (readFile 1 16 5 0 (writeFile 1 8 5 0 openedDatabase).2).1 = .normal 5 ∧
      (readFile 1 16 5 0 (writeFile 1 8 5 0 openedDatabase).2).2.heap.read 16 5 = openedDatabase.heap.read 8 5 :=
  ⟨opfsRegistered_sessionsExclusive, cacheCoherent_of_empty rfl rfl, Reach.init.runCalls _, rfl, by decide, rfl, rfl,
    fun _ => rfl, opfs_read_after_write opfsRegistered_sessionsExclusive (cacheCoherent_of_empty rfl rfl)
      (Reach.init.runCalls _) rfl (by decide) rfl rfl rfl rfl (fun _ => rfl) (by decide)⟩

/-! Only writeFile and truncateFile store bytes: opening a file takes or reuses an access
handle, closing flushes and releases it, and a read copies bytes out, so a run of any other
calls leaves every OPFS file as it was. -/

/-- The calls whose access-handle steps store bytes in the OPFS. -/
def Call.storesBytes : Call → Bool
  | .writeFile .. | .truncateFile .. => true
  | _ => false

theorem keeps_contents {m : Js α} (hm : ∀ w, (m w).2.opfs.contents = w.opfs.contents) (C : Nat → List UInt8) :
    Keeps (fun w => w.opfs.contents = C) m := fun w h => (hm w).trans h

theorem keeps_contents_of_handleStep {m : Js α} (hm : ∀ w, HandleStep w (m w).2) (C : Nat → List UInt8) :
    Keeps (fun w => w.opfs.contents = C) m :=
  keeps_contents (fun w => by rw [hm w]) C

/-- Every step a call takes, but an access handle's write and truncate, leaves the bytes of
every OPFS file alone. -/
theorem contents_keptBySteps (C : Nat → List UInt8) : KeptBySteps (fun w => w.opfs.contents = C) where
  send _ _ := keeps_contents (fun w => by unfold send; split <;> rfl) C
  malloc _ := keeps_contents (fun _ => rfl) C
  alloc _ _ _ hf := (keeps_contents (fun _ => rfl) C).bind fun p => (keeps_contents (fun _ => rfl) C).bind fun _ => hf p
  openedFile _ _ := keeps_contents (fun _ => rfl) C
  emptyBufferedFile := keeps_contents (fun _ => rfl) C
  failWith _ := keeps_contents (fun _ => rfl) C
  getFileInfo _ := keeps_contents (fun w => by rw [getFileInfo_frame]) C
  getGlobalFileInfo := keeps_contents (fun w => by rw [getGlobalFileInfo_run]) C
  dropCachedFileInfo _ := keeps_contents (fun _ => rfl) C
  ensureFileHandle ref fileName := keeps_contents_of_handleStep (ensureFileHandle_handleStep ref fileName) C
  ensureFile ref := keeps_contents_of_handleStep (ensureFile_handleStep ref) C
  ensureAccessHandle ref := keeps_contents_of_handleStep (ensureAccessHandle_handleStep ref) C
  releaseAccessHandle ref := keeps_contents_of_handleStep (releaseAccessHandle_handleStep ref) C
  rebindFile _ _ := keeps_contents (fun _ => rfl) C
  dropCachedUrl _ := keeps_contents (fun _ => rfl) C

theorem contents_delivers (C : Nat → List UInt8) (c : Call) (hc : c.storesBytes = false) :
    c.Delivers (fun w => w.opfs.contents = C) := by
  cases c with
  | readFile => exact fun _ _ => keeps_contents (fun _ => rfl) C
  | glob => exact keeps_contents (fun _ => rfl) C
  | writeFile | truncateFile => cases hc
  | _ => trivial

/-- A run of calls none of which is a writeFile or a truncateFile leaves the bytes of every OPFS
file as they were. -/
theorem runCalls_contents (cs : List Call) (w : World) (hcs : ∀ c ∈ cs, c.storesBytes = false) :
    (runCalls cs w).opfs.contents = w.opfs.contents :=
  (contents_keptBySteps w.opfs.contents).runCalls (fun c hc => contents_delivers _ c (hcs c hc)) w rfl

/-- Opening db.duckdb, reading five bytes of it and closing it stores nothing. -/
theorem runCalls_contents_opfsRegistered :
    (∀ c ∈ ([.openFileAsync 1 0, .readFile 1 8 5 0, .closeFile 1] : List Call), c.storesBytes = false) ∧
      (runCalls [.openFileAsync 1 0, .readFile 1 8 5 0, .closeFile 1] opfsRegistered).opfs.contents =
        opfsRegistered.opfs.contents :=
  ⟨by decide, runCalls_contents _ _ (by decide)⟩

end DuckdbWasm
