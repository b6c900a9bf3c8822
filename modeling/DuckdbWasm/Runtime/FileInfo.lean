import DuckdbWasm.Runtime.World

/-! # File-info lookups

`getFileInfo` asks the engine for a file's record, sending the epoch of its cached copy and
keeping that copy when the engine answers with an empty payload; `getGlobalFileInfo` does the
same for the global record; `getFileInfoByName` never caches.
-/
namespace DuckdbWasm
open Js

/-- `cached?.cacheEpoch || 0`. -/
def cachedEpoch (cached : Option FileInfo) : Nat := (cached.map (·.cacheEpoch)).getD 0

/-- BROWSER_RUNTIME.getFileInfo. -/
def getFileInfo (fileId : Nat) : Js (Option FileInfo) := do
  let cached ← read fun w => w.fileInfoCache.get fileId
  match ← read fun w => w.engine.fileInfoById fileId (cachedEpoch cached) with
  | .failure => pure none
  | .unchanged => pure cached
  | .payload none => pure none
  | .payload (some info) => do
    modify fun w => { w with fileInfoCache := w.fileInfoCache.set fileId info }
    pure (some info)

/-- BROWSER_RUNTIME.getFileInfoByName; the Error an empty payload raises is caught at once. -/
def getFileInfoByName (fileName : String) : Js (Option FileInfo) :=
  if fileName.isEmpty then pure none
  else do
    match ← read fun w => w.engine.fileInfoByName fileName 0 with
    | .failure => pure none
    | .unchanged => pure none
    | .payload info => pure info

/-- `_globalFileInfo?.cacheEpoch || 0`. -/
def cachedGlobalEpoch (cached : Option GlobalFileInfo) : Nat := (cached.map (·.cacheEpoch)).getD 0

/-- BROWSER_RUNTIME.getGlobalFileInfo. -/
def getGlobalFileInfo : Js (Option GlobalFileInfo) := do
  let cached ← read (·.globalFileInfo)
  match ← read fun w => w.engine.globalFileInfo (cachedGlobalEpoch cached) with
  | .failure => pure none
  | .unchanged => pure cached
  | .payload none => pure none
  | .payload (some info) => do
    modify fun w => { w with globalFileInfo := some info }
    pure (some info)

/-- `_fileInfoCache.delete(fileId)`. -/
def dropCachedFileInfo (fileId : Nat) : Js Unit :=
  modify fun w => { w with fileInfoCache := w.fileInfoCache.delete fileId }

/-- What getFileInfo returns, read off the engine's reply. -/
def fileInfoResult (cached : Option FileInfo) : InfoReply FileInfo → Option FileInfo
  | .failure => none
  | .unchanged => cached
  | .payload info => info

/-- The cache getFileInfo leaves. -/
def fileInfoCacheAfter (cache : JsMap Nat FileInfo) (fileId : Nat) : InfoReply FileInfo → JsMap Nat FileInfo
  | .payload (some info) => cache.set fileId info
  | _ => cache

/-- getFileInfo never throws and changes nothing but the cache entry of `fileId`. -/
theorem getFileInfo_run (fileId : Nat) (w : World) :
    getFileInfo fileId w =
      (.normal (fileInfoResult (w.fileInfoCache.get fileId)
        (w.engine.fileInfoById fileId (cachedEpoch (w.fileInfoCache.get fileId)))),
       { w with
          fileInfoCache := fileInfoCacheAfter w.fileInfoCache fileId
            (w.engine.fileInfoById fileId (cachedEpoch (w.fileInfoCache.get fileId))) }) := by
  simp only [getFileInfo, bind_run, read_run]
  rcases w.engine.fileInfoById fileId (cachedEpoch (w.fileInfoCache.get fileId)) with _ | _ | _ | info
  all_goals rfl

/-- getFileInfo touches only the file-info cache. -/
theorem getFileInfo_frame (fileId : Nat) (w : World) :
    (getFileInfo fileId w).2 = { w with fileInfoCache := (getFileInfo fileId w).2.fileInfoCache } := by
  rw [getFileInfo_run]

/-- getFileInfo run on `w`, once its result is known: `w` with another cache. -/
theorem getFileInfo_eq {fileId : Nat} {w : World} {r : Option FileInfo} (h : (getFileInfo fileId w).1 = .normal r) :
    ∃ cache, getFileInfo fileId w = (.normal r, { w with fileInfoCache := cache }) :=
  ⟨_, Prod.ext h (getFileInfo_frame fileId w)⟩

@[simp] theorem getFileInfo_files (fileId : Nat) (w : World) : (getFileInfo fileId w).2.files = w.files := by
  rw [getFileInfo_run]

@[simp] theorem getFileInfo_imports (fileId : Nat) (w : World) : (getFileInfo fileId w).2.imports = w.imports := by
  rw [getFileInfo_run]

/-- After openFile or openFileAsync dropped its cache entry, getFileInfo fetches the engine's record. -/
theorem getFileInfo_after_drop {w : World} {fileId : Nat} {file : FileInfo}
    (hcur : w.engine.current fileId = some file) (hepoch : w.engine.epoch fileId ≠ 0) :
    (getFileInfo fileId { w with fileInfoCache := w.fileInfoCache.delete fileId }).1 = .normal (some file) := by
  rw [getFileInfo_run]
  simp [cachedEpoch, Engine.fileInfoById, hcur, Ne.symm hepoch, fileInfoResult]

theorem getFileInfoByName_run (fileName : String) (w : World) :
    getFileInfoByName fileName w =
      (.normal (if fileName.isEmpty then none else
        match w.engine.fileInfoByName fileName 0 with
        | .payload info => info
        | _ => none), w) := by
  unfold getFileInfoByName
  split
  · simp_all
  · simp only [bind_run, read_run]
    cases w.engine.fileInfoByName fileName 0 <;> simp_all

/-- What getGlobalFileInfo returns, read off the engine's reply. -/
def globalInfoResult (cached : Option GlobalFileInfo) : InfoReply GlobalFileInfo → Option GlobalFileInfo
  | .failure => none
  | .unchanged => cached
  | .payload info => info

/-- The global record getGlobalFileInfo leaves cached. -/
def globalInfoAfter (cached : Option GlobalFileInfo) : InfoReply GlobalFileInfo → Option GlobalFileInfo
  | .payload (some info) => some info
  | _ => cached

theorem getGlobalFileInfo_run (w : World) :
    getGlobalFileInfo w =
      (.normal (globalInfoResult w.globalFileInfo
        (w.engine.globalFileInfo (cachedGlobalEpoch w.globalFileInfo))),
       { w with
          globalFileInfo := globalInfoAfter w.globalFileInfo
            (w.engine.globalFileInfo (cachedGlobalEpoch w.globalFileInfo)) }) := by
  simp only [getGlobalFileInfo, bind_run, read_run]
  rcases w.engine.globalFileInfo (cachedGlobalEpoch w.globalFileInfo) with _ | _ | _ | info
  all_goals rfl

@[simp] theorem getGlobalFileInfo_engine (w : World) : (getGlobalFileInfo w).2.engine = w.engine := by
  rw [getGlobalFileInfo_run]

@[simp] theorem getGlobalFileInfo_answer (w : World) (r : Request) :
    (getGlobalFileInfo w).2.answer r = w.answer r := by
  rw [getGlobalFileInfo_run]
  rfl

@[simp] theorem getGlobalFileInfo_sent (w : World) : (getGlobalFileInfo w).2.sent = w.sent := by
  rw [getGlobalFileInfo_run]

/-- The engine's answer to the global record a first lookup left cached gives the same result
and keeps that record. -/
theorem globalInfo_settled (e : Engine) (cached : Option GlobalFileInfo) :
    globalInfoResult (globalInfoAfter cached (e.globalFileInfo (cachedGlobalEpoch cached)))
        (e.globalFileInfo (cachedGlobalEpoch (globalInfoAfter cached (e.globalFileInfo (cachedGlobalEpoch cached))))) =
      globalInfoResult cached (e.globalFileInfo (cachedGlobalEpoch cached)) ∧
    globalInfoAfter (globalInfoAfter cached (e.globalFileInfo (cachedGlobalEpoch cached)))
        (e.globalFileInfo (cachedGlobalEpoch (globalInfoAfter cached (e.globalFileInfo (cachedGlobalEpoch cached))))) =
      globalInfoAfter cached (e.globalFileInfo (cachedGlobalEpoch cached)) := by
  unfold Engine.globalFileInfo
  rcases hc : e.currentGlobal with _ | cur
  · simp [globalInfoAfter]
  · by_cases he : cachedGlobalEpoch cached = e.globalEpoch
    · simp [he, globalInfoAfter]
    · have hcur : cachedGlobalEpoch (some cur) = e.globalEpoch := Engine.currentGlobal_epoch hc
      simp [he, hcur, globalInfoAfter, globalInfoResult]

/-- A second getGlobalFileInfo over the cache the first one left, against the same engine,
answers the same and changes nothing. -/
theorem getGlobalFileInfo_again {w w' : World}
    (hc : w'.globalFileInfo = (getGlobalFileInfo w).2.globalFileInfo) (he : w'.engine = w.engine) :
    getGlobalFileInfo w' = ((getGlobalFileInfo w).1, w') := by
  rw [getGlobalFileInfo_run] at hc
  dsimp only at hc
  obtain ⟨h1, h2⟩ := globalInfo_settled w.engine w.globalFileInfo
  rw [getGlobalFileInfo_run w', getGlobalFileInfo_run w, he, hc, h1, h2, ← hc, ← he]

end DuckdbWasm
