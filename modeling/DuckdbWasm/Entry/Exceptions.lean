import DuckdbWasm.Opfs.Snapshot

/-! # Exceptions that reach the engine

openFile, readFile, truncateFile, glob and checkFile run their work inside a `try` whose
handler reports through failWith (or answers `false`), so they always return. writeFile and
closeFile have no such `try`: for an OPFS file whose registry entry is gone they throw into
the engine, and so does writeFile when the PUT of an S3 write meets a network error.
-/
namespace DuckdbWasm
open Js

/-- `m` returns normally from every world. -/
def Returns (m : Js α) : Prop := ∀ w, ∃ a, (m w).1 = .normal a

namespace Returns
variable {α β : Type}

theorem pure (a : α) : Returns (Pure.pure a : Js α) := fun _ => ⟨a, rfl⟩

theorem read (f : World → α) : Returns (Js.read f) := fun _ => ⟨_, rfl⟩

theorem failWith (message : String) : Returns (failWith message) := fun _ => ⟨(), rfl⟩

theorem bind {m : Js α} {f : α → Js β} (hm : Returns m) (hf : ∀ a, Returns (f a)) : Returns (m >>= f) := by
  intro w
  obtain ⟨a, ha⟩ := hm w
  simp only [bind_run]
  rcases hmw : m w with ⟨c, w'⟩
  rw [hmw] at ha
  subst ha
  exact hf a w'

theorem modify (f : World → World) : Returns (Js.modify f) := fun _ => ⟨(), rfl⟩

theorem not_thrown {m : Js α} (hm : Returns m) (w : World) (e : Thrown) : (m w).1 ≠ .thrown e := fun h => by
  obtain ⟨a, ha⟩ := hm w
  rw [ha] at h
  cases h

/-- A `try` whose handler returns normally returns normally. -/
theorem tryCatch {m : Js α} {handler : Thrown → Js α} (hh : ∀ e, Returns (handler e)) :
    Returns (Js.tryCatch m handler) := by
  intro w
  simp only [tryCatch_run]
  rcases m w with ⟨_ | e, w'⟩
  · exact ⟨_, rfl⟩
  · exact hh e w'

end Returns

theorem getFileInfo_returns (fileId : Nat) : Returns (getFileInfo fileId) :=
  fun w => ⟨_, by rw [getFileInfo_run]⟩

theorem openFile_returns (fileId flags : Nat) : Returns (openFile fileId flags) :=
  Returns.tryCatch fun _ => (Returns.failWith _).bind fun _ => Returns.pure _

theorem readFile_returns (fileId buf bytes location : Nat) : Returns (readFile fileId buf bytes location) := by
  unfold readFile
  split
  · exact Returns.pure _
  · exact Returns.tryCatch fun _ => (Returns.failWith _).bind fun _ => Returns.pure _

theorem truncateFile_returns (fileId newSize : Nat) : Returns (truncateFile fileId newSize) := by
  refine (getFileInfo_returns fileId).bind fun file => ?_
  rcases file with _ | file
  · exact Returns.pure _
  · dsimp only
    split
    all_goals first
      | exact Returns.failWith _
      | exact (Returns.read _).bind fun _ => Returns.tryCatch fun _ => Returns.failWith _

theorem glob_returns (path : String) : Returns (glob path) :=
  Returns.tryCatch fun _ => Returns.failWith _

theorem checkFile_returns (path : String) : Returns (checkFile path) :=
  Returns.tryCatch fun _ => Returns.pure _

theorem moveFile_returns (fromPath toPath : String) : Returns (moveFile fromPath toPath) := by
  refine Returns.bind ?_ fun _ => (Returns.modify _).bind fun _ => Returns.pure _
  refine (Returns.read _).bind fun ref => ?_
  rcases ref with _ | ref
  · exact Returns.pure _
  · exact Returns.modify _

theorem autoThrowWASMError_returns (m : Js Nat) : Returns (autoThrowWASMError m) :=
  Returns.tryCatch fun _ => (Returns.failWith _).bind fun _ => Returns.pure _

theorem getGlobalFileInfo_returns : Returns getGlobalFileInfo := fun w => ⟨_, by rw [getGlobalFileInfo_run]⟩

theorem discard_fst_thrown {m : Js α} {w : World} {e : Thrown} (h : (discard m w).1 = .thrown e) :
    (m w).1 = .thrown e := by
  simp only [discard, map_run] at h
  split at h <;> simp_all

/-- For an OPFS file whose name is no longer registered, writeFile and closeFile throw into
the engine. -/
theorem writeFile_closeFile_throw_unregistered {w : World} {fileId : Nat} {file : FileInfo}
    (hinfo : (getFileInfo fileId w).1 = .normal (some file)) (hproto : file.dataProtocol = .BROWSER_FSACCESS)
    (hmiss : w.files.get (.name file.fileName) = none) (buf bytes location : Nat) :
    (∃ e, (writeFile fileId buf bytes location w).1 = .thrown e) ∧
      (closeFile fileId w).1 = .thrown (undefinedProperty "accessHandle") := by
  obtain ⟨w₁, hget, hfiles, himports⟩ : ∃ w₁, getFileInfo fileId w = (.normal (some file), w₁) ∧
      w₁.files = w.files ∧ w₁.imports = w.imports :=
    ⟨_, Prod.ext hinfo rfl, getFileInfo_files fileId w, getFileInfo_imports fileId w⟩
  constructor
  · simp only [writeFile, bind_run, read_run, hget, hproto, writeOPFSFile, lookupFile, hfiles, hmiss,
      Option.map_none', assertOPFS, himports]
    cases w.imports.assertOPFSHandle "writeFile" file.fileName none true
    · exact ⟨_, rfl⟩
    · exact ⟨_, rfl⟩
  · simp only [closeFile, bind_run, hget, _closeFile, dropCachedFileInfo, modify_run, hproto, lookupRef, read_run,
      hfiles, hmiss]
    rfl

/-- A runtime whose engine knows `db.duckdb`, which the page never registered. -/
def opfsUnregistered : World :=
  World.fresh Imports.duckdb (Engine.ofFiles [opfsDatabase]) offline [] (fun _ => .blob []) Opfs.empty

theorem writeFile_closeFile_throw_unregistered_db :
    (getFileInfo 1 opfsUnregistered).1 = .normal (some opfsDatabase) ∧
    opfsDatabase.dataProtocol = .BROWSER_FSACCESS ∧ opfsUnregistered.files.get (.name opfsDatabase.fileName) = none ∧
    (∃ e, (writeFile 1 8 4 0 opfsUnregistered).1 = .thrown e) ∧
      (closeFile 1 opfsUnregistered).1 = .thrown (undefinedProperty "accessHandle") :=
  ⟨rfl, rfl, rfl, @writeFile_closeFile_throw_unregistered opfsUnregistered 1 opfsDatabase rfl rfl rfl 8 4 0⟩

/-- Where an entry point may throw into the engine: writeFile on an S3 file whose PUT meets a
network error, or on an OPFS file; closeFile and closeFileByName on an OPFS file; and
getLastFileModificationTime on a file-reader file whose name is not registered. -/
def Call.MayThrow (w : World) : Call → Prop
  | .writeFile fileId buf bytes _ => ∃ file, (DuckdbWasm.getFileInfo fileId w).1 = .normal (some file) ∧
      ((file.dataProtocol = .S3 ∧ ∃ e, w.answer (putRequest w.imports file (w.heap.read buf bytes)) = .abort e) ∨
        file.dataProtocol = .BROWSER_FSACCESS)
  | .closeFile fileId =>
    ∃ file, (DuckdbWasm.getFileInfo fileId w).1 = .normal (some file) ∧ file.dataProtocol = .BROWSER_FSACCESS
  | .closeFileByName fileName =>
    ∃ file, (getFileInfoByName fileName w).1 = .normal (some file) ∧ file.dataProtocol = .BROWSER_FSACCESS
  | .getLastFileModificationTime fileId => ∃ file, (DuckdbWasm.getFileInfo fileId w).1 = .normal (some file) ∧
      file.dataProtocol = .BROWSER_FILEREADER ∧ w.files.get (.name file.fileName) = none
  | _ => False

section Thrown
variable {w : World} {e : Thrown}

theorem writeFile_mayThrow {fileId buf bytes location : Nat} (h : (writeFile fileId buf bytes location w).1 = .thrown e) :
    (Call.writeFile fileId buf bytes location).MayThrow w := by
  obtain ⟨r, hr⟩ := getFileInfo_returns fileId w
  obtain ⟨cache, hget⟩ := getFileInfo_eq hr
  simp only [writeFile, bind_run, read_run, hget] at h
  rcases r with _ | file
  · cases h
  · refine ⟨file, hr, ?_⟩
    cases hp : file.dataProtocol <;> simp only [hp] at h
    all_goals first | exact .inr rfl | (simp [failWith] at h) | skip
    · simp only [writeS3File, bind_run, read_run] at h
      rcases ha : w.answer (putRequest w.imports file (w.heap.read buf bytes)) with resp | e'
      · rw [send_response (show ({ w with fileInfoCache := cache } : World).answer _ = _ from ha)] at h
        dsimp only at h
        split_ifs at h <;> simp [failWith] at h
      · exact .inl ⟨rfl, e', rfl⟩

theorem closeFile_mayThrow {fileId : Nat} (h : (closeFile fileId w).1 = .thrown e) :
    (Call.closeFile fileId).MayThrow w := by
  obtain ⟨r, hr⟩ := getFileInfo_returns fileId w
  obtain ⟨cache, hget⟩ := getFileInfo_eq hr
  simp only [closeFile, bind_run, hget] at h
  rcases r with _ | file
  · cases h
  · refine ⟨file, hr, ?_⟩
    by_contra hp
    simp only [_closeFile, bind_run, dropCachedFileInfo, modify_run] at h
    cases h

theorem closeFileByName_mayThrow {fileName : String} (h : (closeFileByName fileName w).1 = .thrown e) :
    (Call.closeFileByName fileName).MayThrow w := by
  obtain ⟨r, hr⟩ : ∃ r, getFileInfoByName fileName w = (.normal r, w) := ⟨_, getFileInfoByName_run fileName w⟩
  simp only [closeFileByName, bind_run, hr] at h
  rcases r with _ | file
  · cases h
  · refine ⟨file, by rw [hr], ?_⟩
    by_contra hp
    simp only [_closeFile, bind_run, dropCachedFileInfo, modify_run] at h
    cases h

theorem getLastFileModificationTime_mayThrow {fileId : Nat} (h : (getLastFileModificationTime fileId w).1 = .thrown e) :
    (Call.getLastFileModificationTime fileId).MayThrow w := by
  obtain ⟨r, hr⟩ := getFileInfo_returns fileId w
  obtain ⟨cache, hget⟩ := getFileInfo_eq hr
  simp only [getLastFileModificationTime, bind_run, hget] at h
  rcases r with _ | file
  · cases h
  · refine ⟨file, hr, ?_⟩
    cases hp : file.dataProtocol <;> simp only [hp] at h <;> try cases h
    simp only [lookupFile, bind_run, read_run] at h
    rcases hf : w.files.get (.name file.fileName) with _ | ref
    · exact ⟨rfl, rfl⟩
    · simp [hf] at h

/-- Only writeFile, closeFile, closeFileByName and getLastFileModificationTime ever throw into
the engine, and each only on the files `Call.MayThrow` names; every other entry point returns
normally from every world. -/
theorem Call.mayThrow_of_thrown {c : Call} (h : (c.run w).1 = .thrown e) : c.MayThrow w := by
  cases c with
  | openFile => exact openFile_returns _ _ |>.not_thrown w e (discard_fst_thrown h)
  | openFileAsync => exact autoThrowWASMError_returns _ |>.not_thrown w e (discard_fst_thrown h)
  | readFile => exact readFile_returns _ _ _ _ |>.not_thrown w e (discard_fst_thrown h)
  | writeFile => exact writeFile_mayThrow (discard_fst_thrown h)
  | truncateFile => exact truncateFile_returns _ _ |>.not_thrown w e h
  | closeFile => exact closeFile_mayThrow h
  | closeFileByName => exact closeFileByName_mayThrow (discard_fst_thrown h)
  | glob => exact glob_returns _ |>.not_thrown w e h
  | checkFile => exact checkFile_returns _ |>.not_thrown w e (discard_fst_thrown h)
  | getLastFileModificationTime => exact getLastFileModificationTime_mayThrow (discard_fst_thrown h)
  | moveFile => exact moveFile_returns _ _ |>.not_thrown w e (discard_fst_thrown h)
  | getFileInfo => exact getFileInfo_returns _ |>.not_thrown w e (discard_fst_thrown h)
  | getGlobalFileInfo => exact getGlobalFileInfo_returns |>.not_thrown w e (discard_fst_thrown h)

end Thrown

/-- closeFile of the unregistered OPFS file throws, on a file the exception map names. -/
theorem closeFile_mayThrow_unregistered :
    ((Call.closeFile 1).run opfsUnregistered).1 = .thrown (undefinedProperty "accessHandle") ∧
      (Call.closeFile 1).MayThrow opfsUnregistered :=
  ⟨rfl, Call.mayThrow_of_thrown rfl⟩

end DuckdbWasm
