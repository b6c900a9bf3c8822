import DuckdbWasm.Runtime.Calls

/-! # The size an OPFS open reports

openFileAsync reports `handle.file.size`, the size of the `File` that `getFile()` returned
when the handle was first acquired; closeFile releases the access handle and keeps that
`File`. Writes and truncations through the access handle change the file, not the snapshot,
so after a write, a close and a reopen the reported size is the size at the first open.
-/
namespace DuckdbWasm
open Js

/-- openFileAsync of a file id the engine records as an OPFS file runs acquireOPFSFile on the
file's name, over the world with the refreshed cache entry. -/
theorem openFileAsync_opfs {w : World} {fileId flags : Nat} {file : FileInfo}
    (hcur : w.engine.current fileId = some file) (hepoch : w.engine.epoch fileId ≠ 0)
    (hproto : file.dataProtocol = .BROWSER_FSACCESS) :
    ∃ cache, openFileAsync fileId flags w =
      tryCatch (acquireOPFSFile file.fileName) (fun e => do failWith e.toString; pure 1)
        { w with fileInfoCache := cache } := by
  obtain ⟨cache, hget⟩ := getFileInfo_eq (getFileInfo_after_drop hcur hepoch)
  refine ⟨cache, ?_⟩
  simp only [openFileAsync, tryCatch_run, bind_run, dropCachedFileInfo, modify_run, hget, hproto, if_true]

/-- openFile of a file id the engine records as an OPFS file runs openOPFSFile on the file's
name, over the world with the refreshed cache entry. -/
theorem openFile_opfs {w : World} {fileId flags : Nat} {file : FileInfo}
    (hcur : w.engine.current fileId = some file) (hepoch : w.engine.epoch fileId ≠ 0)
    (hproto : file.dataProtocol = .BROWSER_FSACCESS) :
    ∃ cache, openFile fileId flags w =
      tryCatch (openOPFSFile file.fileName) (fun e => do failWith e.toString; pure 0)
        { w with fileInfoCache := cache } := by
  obtain ⟨cache, hget⟩ := getFileInfo_eq (getFileInfo_after_drop hcur hepoch)
  refine ⟨cache, ?_⟩
  simp only [openFile, tryCatch_run, bind_run, dropCachedFileInfo, modify_run, hget, read_run, hproto]

/-- openOPFSFile on a handle that holds its file handle, its `File` and an access handle
changes nothing before openedFile. -/
theorem openOPFSFile_held {w : World} {ref size : Nat} {fileName : String} {handle : OPFSFileHandle}
    (href : w.files.get (.name fileName) = some ref) (hobj : w.objects ref = .opfs handle)
    (hfh : handle.fileHandle.isSome) (hsnap : handle.file = some size) (hacc : handle.accessHandle.isSome) :
    openOPFSFile fileName w = openedFile (.num size) 0 w := by
  rcases handle with ⟨name, dir, _ | fh, file, access, empty⟩
  · simp at hfh
  · simp only at hsnap hacc
    subst hsnap
    simp [openOPFSFile, lookupFile, href, hobj, hacc]

section Acquire
variable {w : World} {ref size : Nat} {fileName : String} {handle : OPFSFileHandle}

/-- acquireOPFSFile on a handle that holds its file handle, its `File` and an access handle
changes nothing before openedFile. -/
theorem acquireOPFSFile_held (href : w.files.get (.name fileName) = some ref)
    (hobj : w.objects ref = .opfs handle) (hname : handle.fileName.isEmpty = false)
    (hfh : handle.fileHandle.isSome) (hsnap : handle.file = some size) (hacc : handle.accessHandle.isSome) :
    acquireOPFSFile fileName w = openedFile (.num size) 0 w := by
  rcases handle with ⟨name, dir, _ | fh, file, _ | a, empty⟩
  all_goals simp only [Option.isSome_none, Option.isSome_some, Bool.false_eq_true] at hfh hacc
  simp only at hname hsnap
  subst hsnap
  simp [acquireOPFSFile, lookupRef, handleAt, href, hobj, HostObject.opfsHandle, hname, ensureFileHandle,
    ensureFile, ensureAccessHandle]

/-- acquireOPFSFile on a handle without an access handle, when no open one exists on its
file, creates one and hands it to the object before openedFile. -/
theorem acquireOPFSFile_fresh {fileHandle : Nat} (href : w.files.get (.name fileName) = some ref)
    (hobj : w.objects ref = .opfs handle) (hname : handle.fileName.isEmpty = false)
    (hfh : handle.fileHandle = some fileHandle) (hsnap : handle.file = some size)
    (hacc : handle.accessHandle = none)
    (hfree : (w.opfs.accessHandles.any fun a => a.file = fileHandle && a.isOpen) = false) :
    acquireOPFSFile fileName w = openedFile (.num size) 0
      (modifyHandle ref (fun h => { h with accessHandle := some w.opfs.accessHandles.length })
        { w with opfs := { w.opfs with accessHandles := w.opfs.accessHandles ++ [⟨fileHandle, true⟩] } }).2 := by
  rcases handle with ⟨name, dir, fh, file, access, empty⟩
  simp only at hname hfh hsnap hacc
  subst hfh hsnap hacc
  simp [acquireOPFSFile, lookupRef, handleAt, href, hobj, HostObject.opfsHandle, hname, ensureFileHandle,
    ensureFile, ensureAccessHandle, createSyncAccessHandle, hfree, modifyHandle, World.setObject]

/-- acquireOPFSFile on a handle whose file handle and `File` are set reaches openedFile with
the `File`'s size, having changed neither the heap nor any file. -/
theorem acquireOPFSFile_snapshot {fileHandle : Nat} (href : w.files.get (.name fileName) = some ref)
    (hobj : w.objects ref = .opfs handle) (hname : handle.fileName.isEmpty = false)
    (hfh : handle.fileHandle = some fileHandle) (hsnap : handle.file = some size)
    (hfree : handle.accessHandle.isSome ∨
      (w.opfs.accessHandles.any fun a => a.file = fileHandle && a.isOpen) = false) :
    ∃ w₁, w₁.heap = w.heap ∧ w₁.opfs.contents = w.opfs.contents ∧
      acquireOPFSFile fileName w = openedFile (.num size) 0 w₁ := by
  rcases hacc : handle.accessHandle with _ | a
  · rw [hacc] at hfree
    refine ⟨_, ?_, ?_, acquireOPFSFile_fresh href hobj hname hfh hsnap hacc (by simpa using hfree)⟩ <;> rfl
  · exact ⟨w, rfl, rfl, acquireOPFSFile_held href hobj hname (by simp [hfh]) hsnap (by simp [hacc])⟩

end Acquire

/-- openFileAsync of an OPFS file whose handle holds a `File` reports that `File`'s size, which
is not the file's length once the file has changed since. -/
theorem openFileAsync_reports_stale_size {w : World} {fileId flags ref size fileHandle : Nat}
    {file : FileInfo} {handle : OPFSFileHandle} (hcur : w.engine.current fileId = some file)
    (hepoch : w.engine.epoch fileId ≠ 0) (hproto : file.dataProtocol = .BROWSER_FSACCESS)
    (href : w.files.get (.name file.fileName) = some ref) (hobj : w.objects ref = .opfs handle)
    (hname : handle.fileName.isEmpty = false) (hfh : handle.fileHandle = some fileHandle)
    (hsnap : handle.file = some size)
    (hfree : handle.accessHandle.isSome ∨
      (w.opfs.accessHandles.any fun a => a.file = fileHandle && a.isOpen) = false)
    (hstale : (w.opfs.contents fileHandle).length ≠ size) :
    ∃ p, (openFileAsync fileId flags w).1 = .normal p ∧
      (openFileAsync fileId flags w).2.heap.descriptor p = (f64Bytes (.num size), f64Bytes (.num 0)) ∧
      ((openFileAsync fileId flags w).2.opfs.contents fileHandle).length ≠ size := by
  obtain ⟨cache, hget⟩ := getFileInfo_eq (getFileInfo_after_drop hcur hepoch)
  obtain ⟨w₁, hheap, hcontents, hacq⟩ := @acquireOPFSFile_snapshot { w with fileInfoCache := cache } ref size _ handle
    fileHandle href hobj hname hfh hsnap hfree
  have hrun : openFileAsync fileId flags w = openedFile (.num size) 0 w₁ := by
    simp only [openFileAsync, tryCatch_run, bind_run, dropCachedFileInfo, modify_run, hget, hproto, if_true, hacq]
    rw [openedFile_run]
  rw [hrun, openedFile_run]
  exact ⟨w₁.heap.brk, rfl, (openedFile_spec (.num size) 0 w₁).2.1, hcontents ▸ hstale⟩

/-- The OPFS file `db.duckdb` as the engine records it under file id 1. -/
def opfsDatabase : FileInfo := ⟨1, 1, "db.duckdb", .BROWSER_FSACCESS, none, false, false, none⟩

/-- A runtime with `db.duckdb` registered as an OPFS handle on directory 0, in which it is the
empty file 7. -/
def opfsRegistered : World :=
  World.fresh Imports.duckdb (Engine.ofFiles [opfsDatabase])
    offline [(.name "db.duckdb", 0)]
    (fun ref => if ref = 0 then .opfs ⟨"db.duckdb", some 0, none, none, none, false⟩ else .blob [])
    ⟨fun _ => [], fun _ _ => 7, []⟩

/-- `db.duckdb` after an open, a five-byte write and a close. -/
def writtenAndClosed : World := runCalls [.openFileAsync 1 0, .writeFile 1 8 5 0, .closeFile 1] opfsRegistered

theorem openFileAsync_reports_stale_size_reopen :
    writtenAndClosed.engine.current 1 = some opfsDatabase ∧
    writtenAndClosed.files.get (.name "db.duckdb") = some 0 ∧
    writtenAndClosed.objects 0 = .opfs ⟨"db.duckdb", some 0, some 7, some 0, none, false⟩ ∧
    (writtenAndClosed.opfs.accessHandles.any fun a => a.file = 7 && a.isOpen) = false ∧
    (writtenAndClosed.opfs.contents 7).length = 5 ∧
    ∃ p, (openFileAsync 1 0 writtenAndClosed).1 = .normal p ∧
      (openFileAsync 1 0 writtenAndClosed).2.heap.descriptor p = (f64Bytes (.num 0), f64Bytes (.num 0)) ∧
      ((openFileAsync 1 0 writtenAndClosed).2.opfs.contents 7).length ≠ 0 :=
  ⟨rfl, rfl, rfl, rfl, rfl, openFileAsync_reports_stale_size rfl (by decide) rfl rfl rfl rfl rfl rfl (.inr rfl)
    (by decide)⟩

end DuckdbWasm
