import DuckdbWasm.Runtime.Float64

/-! # The world a runtime call runs in

BROWSER_RUNTIME's own fields (`_files`, `_fileInfoCache`, `_globalFileInfo`) together with
everything the runtime reaches through the host: the wasm heap, the engine's file table, the
network, the JavaScript objects held in `_files`, and the origin-private file system.
`Js` is JavaScript run on that world: a call completes normally or with a thrown value,
and what it changed before a throw stays changed.
-/
namespace DuckdbWasm

/-- The wasm memory as `HEAPU8` sees it (a `HEAPF64` slot is eight of its bytes), and the bump
pointer of `_malloc`, which never hands out null and keeps every allocation 8-aligned. -/
structure Heap where
  bytes : Nat → UInt8
  brk : Nat
  brk_pos : 0 < brk
  brk_aligned : brk % 8 = 0

namespace Heap

/-- `HEAPU8.set(src, offset)`. -/
def set (h : Heap) (src : List UInt8) (offset : Nat) : Heap :=
  { h with bytes := fun i => if offset ≤ i ∧ i < offset + src.length then src.getD (i - offset) 0
      else h.bytes i }

/-- The `n` bytes of `HEAPU8` from `offset` on. -/
def read (h : Heap) (offset n : Nat) : List UInt8 := (List.range n).map (fun i => h.bytes (offset + i))

/-- The bytes of the two `HEAPF64` slots an OpenedFile occupies at `ptr`: the size and the
buffer pointer. -/
def descriptor (h : Heap) (ptr : Nat) : List UInt8 × List UInt8 := (h.read ptr 8, h.read (ptr + 8) 8)

@[simp] theorem set_brk (h : Heap) (src : List UInt8) (offset : Nat) : (h.set src offset).brk = h.brk := rfl

theorem set_bytes_outside (h : Heap) (src : List UInt8) {offset i : Nat}
    (hi : i < offset ∨ offset + src.length ≤ i) : (h.set src offset).bytes i = h.bytes i := by
  simp only [set]
  rw [if_neg (by omega)]

/-- After `src ++ rest` is stored at `offset`, the heap holds `src` there. -/
theorem read_set_prefix (h : Heap) (src rest : List UInt8) (offset : Nat) :
    (h.set (src ++ rest) offset).read offset src.length = src := by
  apply List.ext_getElem (by simp [read])
  intro i _ h2
  simp only [read, List.getElem_map, List.getElem_range, set]
  rw [if_pos (by simp; omega)]
  simp [List.getElem?_append_left h2, List.getElem?_eq_getElem h2]

theorem read_set_self (h : Heap) (src : List UInt8) (offset : Nat) :
    (h.set src offset).read offset src.length = src := by
  simpa using read_set_prefix h src [] offset

theorem read_congr {h h' : Heap} {offset n : Nat}
    (he : ∀ i, offset ≤ i → i < offset + n → h'.bytes i = h.bytes i) : h'.read offset n = h.read offset n := by
  apply List.ext_getElem (by simp [read])
  intro i h1 _
  simp only [read, List.length_map, List.length_range] at h1
  simp only [read, List.getElem_map, List.getElem_range]
  exact he _ (by omega) (by omega)

/-- The heap before the first allocation. -/
def zero : Heap where
  bytes _ := 0
  brk := 8
  brk_pos := by decide
  brk_aligned := by decide

end Heap

/-- A FileSystemSyncAccessHandle: the OPFS file it was created on, and whether `close()` ran. -/
structure SyncAccessHandle where
  file : Nat
  isOpen : Bool
  deriving DecidableEq, Repr

/-- The origin-private file system: each file's bytes, the file a directory holds under a
name, and every access handle created so far (an access handle is its index here). -/
structure Opfs where
  contents : Nat → List UInt8
  entry : Nat → String → Nat
  accessHandles : List SyncAccessHandle

/-- An origin-private file system with no files and no access handles. -/
def Opfs.empty : Opfs := ⟨fun _ => [], fun _ _ => 0, []⟩

/-- OPFSFileHandle, the object registered in `_files` for a BROWSER_FSACCESS file; `file`
is the size of the `File` snapshot `getFile()` returned. -/
structure OPFSFileHandle where
  fileName : String
  dirHandle : Option Nat
  fileHandle : Option Nat
  file : Option Nat
  accessHandle : Option Nat
  emptyAsAbsent : Bool
  deriving DecidableEq, Repr

/-- An object held in `_files`: a `Blob`/`File` for BROWSER_FILEREADER, or an OPFSFileHandle. -/
inductive HostObject where
  | blob (data : List UInt8)
  | opfs (handle : OPFSFileHandle)
  deriving DecidableEq, Repr

/-- A key of `_files`: a file name, or an object used as a key. -/
inductive FilesKey where
  | name (fileName : String)
  | object (ref : Nat)
  deriving DecidableEq, Repr

/-- An answer of `callSRet`: a status other than SUCCESS, an empty payload, or JSON text
that parses to `null` (or not at all) or to a record. -/
inductive InfoReply (α : Type) where
  | failure
  | unchanged
  | payload (info : Option α)
  deriving DecidableEq, Repr

/-- The engine's side of the file-info exchange: a record and an epoch per file id, the
file ids of names, and the global record with its epoch. -/
structure Engine where
  record : Nat → Option FileInfo
  epoch : Nat → Nat
  fileIdOfName : String → Option Nat
  globalRecord : Option GlobalFileInfo
  globalEpoch : Nat

namespace Engine

/-- The record the engine holds for `fileId`, stamped with its current epoch. -/
def current (e : Engine) (fileId : Nat) : Option FileInfo :=
  (e.record fileId).map fun r => { r with cacheEpoch := e.epoch fileId }

/-- The global record stamped with its current epoch. -/
def currentGlobal (e : Engine) : Option GlobalFileInfo :=
  e.globalRecord.map fun r => { r with cacheEpoch := e.globalEpoch }

theorem current_epoch {e : Engine} {fileId : Nat} {info : FileInfo}
    (h : e.current fileId = some info) : info.cacheEpoch = e.epoch fileId := by
  simp only [current, Option.map_eq_some'] at h
  obtain ⟨_, _, rfl⟩ := h
  rfl

theorem currentGlobal_epoch {e : Engine} {info : GlobalFileInfo}
    (h : e.currentGlobal = some info) : info.cacheEpoch = e.globalEpoch := by
  simp only [currentGlobal, Option.map_eq_some'] at h
  obtain ⟨_, _, rfl⟩ := h
  rfl

/-- Modelled from the spec: `duckdb_web_fs_get_file_info_by_id` is engine code, not under
src/. It answers failure for an unknown id, an empty payload when the caller's epoch is the
id's current epoch, and the current record otherwise. -/
def fileInfoById (e : Engine) (fileId epoch : Nat) : InfoReply FileInfo :=
  match e.current fileId with
  | none => .failure
  | some r => if epoch = e.epoch fileId then .unchanged else .payload (some r)

theorem fileInfoById_payload {e : Engine} {fileId epoch : Nat} {r : Option FileInfo}
    (h : e.fileInfoById fileId epoch = .payload r) : e.current fileId = r := by
  unfold fileInfoById at h
  split at h
  · cases h
  · split at h <;> cases h
    assumption

theorem fileInfoById_unchanged {e : Engine} {fileId epoch : Nat}
    (h : e.fileInfoById fileId epoch = .unchanged) : epoch = e.epoch fileId := by
  unfold fileInfoById at h
  split at h
  · cases h
  · split at h
    · assumption
    · cases h

/-- Modelled from the spec: `duckdb_web_fs_get_file_info_by_name`, the same answer for the
file id the name denotes. -/
def fileInfoByName (e : Engine) (fileName : String) (epoch : Nat) : InfoReply FileInfo :=
  match e.fileIdOfName fileName with
  | none => .failure
  | some fileId => e.fileInfoById fileId epoch

/-- Modelled from the spec: `duckdb_web_get_global_file_info`. -/
def globalFileInfo (e : Engine) (epoch : Nat) : InfoReply GlobalFileInfo :=
  match e.currentGlobal with
  | none => .failure
  | some r => if epoch = e.globalEpoch then .unchanged else .payload (some r)

theorem globalFileInfo_payload {e : Engine} {epoch : Nat} {r : Option GlobalFileInfo}
    (h : e.globalFileInfo epoch = .payload r) : e.currentGlobal = r := by
  unfold globalFileInfo at h
  split at h
  · cases h
  · split at h <;> cases h
    assumption

theorem globalFileInfo_unchanged {e : Engine} {epoch : Nat}
    (h : e.globalFileInfo epoch = .unchanged) : epoch = e.globalEpoch := by
  unfold globalFileInfo at h
  split at h
  · cases h
  · split at h
    · assumption
    · cases h

end Engine

/-- What runtime_browser.ts imports from modules that are not under src/ (`../utils`,
`./opfs`, `./runtime`); every result holds for all of them. -/
structure Imports where
  getHTTPUrl : Option S3Config → Option String → String
  assertOPFSHandle : String → String → Option HostObject → Bool → Option Thrown
  getDataProtocolName : Option DataProtocol → String
  fileFlagsRead : Nat
  fileFlagsWrite : Nat
  fileFlagsFileCreate : Nat
  fileFlagsFileCreateNew : Nat
  fileFlagsAppend : Nat

/-- BROWSER_RUNTIME's fields and the host around it. The server answers the `n`-th request
sent with `net n`; `sent` logs every request with its answer; `failures` every `failWith`. -/
structure World where
  files : JsMap FilesKey Nat
  fileInfoCache : JsMap Nat FileInfo
  globalFileInfo : Option GlobalFileInfo
  imports : Imports
  engine : Engine
  heap : Heap
  failures : List String
  globPaths : List String
  net : Nat → Request → Answer
  sent : List (Request × Answer)
  objects : Nat → HostObject
  opfs : Opfs
  now : Nat

/-- How a JavaScript call completes. -/
inductive Completion (α : Type) where
  | normal (value : α)
  | thrown (error : Thrown)
  deriving DecidableEq, Repr

/-- JavaScript run on the world; the world a throw leaves behind is kept. -/
def Js (α : Type) : Type := World → Completion α × World

namespace Js

protected def pure (a : α) : Js α := fun w => (.normal a, w)

protected def bind (m : Js α) (f : α → Js β) : Js β := fun w =>
  match m w with
  | (.normal a, w') => f a w'
  | (.thrown e, w') => (.thrown e, w')

instance : Monad Js where
  pure := Js.pure
  bind := Js.bind

/-- `throw e`. -/
def throw (e : Thrown) : Js α := fun w => (.thrown e, w)

/-- `try { m } catch (e) { handler(e) }`. -/
def tryCatch (m : Js α) (handler : Thrown → Js α) : Js α := fun w =>
  match m w with
  | (.normal a, w') => (.normal a, w')
  | (.thrown e, w') => handler e w'

/-- Reads the world. -/
def read (f : World → α) : Js α := fun w => (.normal (f w), w)

/-- Changes the world. -/
def modify (f : World → World) : Js Unit := fun w => (.normal (), f w)

@[simp] theorem pure_run (a : α) (w : World) : (pure a : Js α) w = (.normal a, w) := rfl

@[simp] theorem bind_run (m : Js α) (f : α → Js β) (w : World) :
    (m >>= f) w = match m w with
      | (.normal a, w') => f a w'
      | (.thrown e, w') => (.thrown e, w') := rfl

@[simp] theorem throw_run (e : Thrown) (w : World) : (throw e : Js α) w = (.thrown e, w) := rfl

@[simp] theorem tryCatch_run (m : Js α) (handler : Thrown → Js α) (w : World) :
    tryCatch m handler w = match m w with
      | (.normal a, w') => (.normal a, w')
      | (.thrown e, w') => handler e w' := rfl

@[simp] theorem read_run (f : World → α) (w : World) : read f w = (.normal (f w), w) := rfl

@[simp] theorem modify_run (f : World → World) (w : World) : modify f w = (.normal (), f w) := rfl

@[simp] theorem map_run (f : α → β) (m : Js α) (w : World) :
    (f <$> m) w = match m w with
      | (.normal a, w') => (.normal (f a), w')
      | (.thrown e, w') => (.thrown e, w') := by
  show Js.bind m (fun a => Js.pure (f a)) w = _
  simp only [Js.bind, Js.pure]

end Js

namespace World

/-- The world after the server answered `r` with `a`. -/
def record (w : World) (r : Request) (a : Answer) : World := { w with sent := w.sent ++ [(r, a)] }

/-- The answer the next request `r` gets. -/
def answer (w : World) (r : Request) : Answer := w.net w.sent.length r

/-- `objects` with the object at `ref` replaced. -/
def setObject (w : World) (ref : Nat) (o : HostObject) : World :=
  { w with objects := fun r => if r = ref then o else w.objects r }

@[simp] theorem record_sent (w : World) (r : Request) (a : Answer) : (w.record r a).sent = w.sent ++ [(r, a)] := rfl

end World

open Js

/-- `xhr.send(body)` for the request `r`: the answer is logged; a network error throws. -/
def send (r : Request) : Js Response := fun w =>
  match w.answer r with
  | .response resp => (.normal resp, w.record r (.response resp))
  | .abort e => (.thrown e, w.record r (.abort e))

theorem send_response {r : Request} {w : World} {resp : Response} (h : w.answer r = .response resp) :
    send r w = (.normal resp, w.record r (.response resp)) := by
  simp only [send, h]

theorem send_abort {r : Request} {w : World} {e : Thrown} (h : w.answer r = .abort e) :
    send r w = (.thrown e, w.record r (.abort e)) := by
  simp only [send, h]

/-- Modelled from the spec: emscripten's `_malloc` is not under src/, and the spec leaves the
allocator open. It is modelled as a bump allocator that hands out 8-aligned blocks at the break
and never reuses memory, so a block it returns lies above every byte in use before it. -/
def malloc (n : Nat) : Js Nat := fun w =>
  (.normal w.heap.brk, { w with heap := { w.heap with
    brk := w.heap.brk + 8 * (n / 8 + 1)
    brk_pos := by omega
    brk_aligned := by have := w.heap.brk_aligned; omega } })

/-- `mod.HEAPU8.set(src, offset)`. -/
def heapSet (src : List UInt8) (offset : Nat) : Js Unit := modify fun w => { w with heap := w.heap.set src offset }

/-- Modelled from the spec: `failWith` comes from `./runtime`, not under src/. The engine records
the message and surfaces it as the call's one terminal failure once the call returns. -/
def failWith (message : String) : Js Unit := modify fun w => { w with failures := w.failures ++ [message] }

/-- `mod.HEAPF64[slot] = v`: the float64 bytes of `v` from byte `8 * slot` of `HEAPU8` on. -/
def setF64 (slot : Nat) (v : JsNumber) : Js Unit := heapSet (f64Bytes v) (8 * slot)

/-- Modelled from the spec: `new OpenedFile(size, buffer).getCppPointer(mod)` of the OPFS
branches is not under src/, and is taken to build the block the explicit `HEAPF64` stores of
openFile build, 16 bytes holding `(size, buffer)`. -/
def openedFile (size : JsNumber) (buffer : Nat) : Js Nat := do
  let result ← malloc (2 * 8)
  setF64 (result / 8) size
  setF64 (result / 8 + 1) (.num buffer)
  pure result

/-- openedFile touches only the heap. -/
theorem openedFile_frame (size : JsNumber) (buffer : Nat) (w : World) :
    (openedFile size buffer w).2 = { w with heap := (openedFile size buffer w).2.heap } := rfl

/-- openedFile returns the block it allocated, which holds `(size, buffer)`, and leaves every
byte below the break it started from. -/
theorem openedFile_spec (size : JsNumber) (buffer : Nat) (w : World) :
    (openedFile size buffer w).1 = .normal w.heap.brk ∧
      (openedFile size buffer w).2.heap.descriptor w.heap.brk = (f64Bytes size, f64Bytes (.num buffer)) ∧
      (∀ i, i < w.heap.brk → (openedFile size buffer w).2.heap.bytes i = w.heap.bytes i) ∧
      (openedFile size buffer w).2.heap.brk = w.heap.brk + 24 := by
  have hslot : 8 * (w.heap.brk / 8) = w.heap.brk := by have := w.heap.brk_aligned; omega
  have hslot' : 8 * (w.heap.brk / 8 + 1) = w.heap.brk + 8 := by omega
  refine ⟨rfl, ?_, fun i hi => ?_, rfl⟩
  · simp only [openedFile, malloc, setF64, heapSet, bind_run, modify_run, pure_run, hslot, hslot', Heap.descriptor]
    refine Prod.ext ?_ ?_
    · rw [Heap.read_congr fun i _ hi => Heap.set_bytes_outside _ _ (.inl (by simpa using hi))]
      simpa using Heap.read_set_self _ (f64Bytes size) w.heap.brk
    · simpa using Heap.read_set_self _ (f64Bytes (.num buffer)) (w.heap.brk + 8)
  · simp only [openedFile, malloc, setF64, heapSet, bind_run, modify_run, pure_run]
    rw [Heap.set_bytes_outside _ _ (.inl (by omega)), Heap.set_bytes_outside _ _ (.inl (by omega))]

/-- openedFile's run: the block at the old break, over the world with only the heap changed. -/
theorem openedFile_run (size : JsNumber) (buffer : Nat) (w : World) :
    openedFile size buffer w = (.normal w.heap.brk, { w with heap := (openedFile size buffer w).2.heap }) :=
  Prod.ext (openedFile_spec size buffer w).1 (openedFile_frame size buffer w)

/-- The buffered descriptor of a downloaded `body`: copied into a fresh buffer. -/
def bufferedFile (body : List UInt8) : Js Nat := do
  let data ← malloc body.length
  heapSet body data
  openedFile (.num body.length) data

/-- bufferedFile copies `body` into a fresh buffer, returns a block describing it, and
touches only the heap. -/
theorem bufferedFile_spec (body : List UInt8) (w : World) :
    ∃ v, (bufferedFile body w).1 = .normal v ∧
      (bufferedFile body w).2 = { w with heap := (bufferedFile body w).2.heap } ∧
      (bufferedFile body w).2.heap.descriptor v = (f64Bytes (.num body.length), f64Bytes (.num w.heap.brk)) ∧
      (bufferedFile body w).2.heap.read w.heap.brk body.length = body := by
  obtain ⟨h1, h2, h3, -⟩ := openedFile_spec (.num body.length) w.heap.brk
    (heapSet body w.heap.brk (malloc body.length w).2).2
  refine ⟨_, h1, rfl, h2, ?_⟩
  erw [Heap.read_congr fun i _ hi => h3 i (by simp [heapSet, malloc]; omega)]
  exact Heap.read_set_self _ body w.heap.brk

/-- `BROWSER_RUNTIME._files.get(fileName)`, resolved to the object it holds. -/
def lookupFile (fileName : String) : Js (Option HostObject) :=
  read fun w => (w.files.get (.name fileName)).map w.objects

end DuckdbWasm
