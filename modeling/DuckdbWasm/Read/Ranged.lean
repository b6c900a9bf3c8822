import DuckdbWasm.Ladder.RangeSupport
import DuckdbWasm.Read.ReadFile
import DuckdbWasm.Cache.Coherence

/-! # Reading a file on a server that honours Range

From any world whose file-info cache is coherent, readFile of an HTTP or S3 file the engine
records, on a server that honours Range, copies the read window of `C` to `buf` and records no
failure. After openFile recognised range support, the descriptor it returns has |C| bytes and
no buffer, and a read that follows is such a read: the two calls together read `C`.
-/
namespace DuckdbWasm
open Js

/-- A server that honours Range answers readFile's ranged GET with the window it asks for. -/
theorem HonoursRange.read {C : List UInt8} {im : Imports} {file : FileInfo} {bytes location : Nat} {a : Answer}
    (h : HonoursRange C (readRequest im file bytes location) a) :
    ∃ text contentRange, a = .response
      ⟨206, text, some (.num (window C ⟨location, some (location + bytes - 1)⟩).length), contentRange,
        window C ⟨location, some (location + bytes - 1)⟩⟩ := by
  cases h with
  | get _ hr _ =>
    simp only [readRequest, fileRequest, remoteRequest_range, Option.some.injEq] at hr
    subst hr
    exact ⟨_, _, rfl⟩
  | headPartial hm => simp [readRequest, fileRequest] at hm
  | headWhole hm => simp [readRequest, fileRequest] at hm
  | other h => simp [readRequest, fileRequest] at h

section Ranged
variable {w : World} {fileId bytes : Nat} {file : FileInfo} {C : List UInt8}

/-- readFile on a server that honours Range copies the read window to `buf`; only the heap
there, the cache and the log change. -/
theorem readFile_honoursRange (hw : CacheCoherent w) (hcur : w.engine.current fileId = some file)
    (hepoch : w.engine.epoch fileId ≠ 0) (hproto : file.dataProtocol = .HTTP ∨ file.dataProtocol = .S3)
    (hurl : file.dataUrl.all (·.isEmpty) = false) (hh : ∀ n r, HonoursRange C r (w.net n r)) (hb : 0 < bytes)
    (buf location : Nat) :
    (readFile fileId buf bytes location w).1 = .normal (readWindow C bytes location).length ∧
      (readFile fileId buf bytes location w).2.heap = w.heap.set (readWindow C bytes location) buf ∧
      (readFile fileId buf bytes location w).2.failures = w.failures := by
  obtain ⟨cache, hrun⟩ := readFile_remote_run (getFileInfo_of_current hw hcur hepoch) hproto hb buf location
  obtain ⟨text, cr, hans⟩ := (hh w.sent.length (readRequest w.imports file bytes location)).read
  rw [window_readRange C location hb] at hans
  have ht : (readWindow C bytes location).take bytes = readWindow C bytes location :=
    List.take_of_length_le (by simp only [length_readWindow]; exact Nat.min_le_left _ _)
  have hread :=
    @readRemoteFile_ranged w.imports file fileId buf bytes location { w with fileInfoCache := cache } _ hurl hans rfl
  rw [ht] at hread
  rw [hrun, tryCatch_run, hread]
  exact ⟨rfl, rfl, rfl⟩

end Ranged

end DuckdbWasm
