import DuckdbWasm.Frame.Keeps
import DuckdbWasm.Ladder.ReadOpen

/-! # The file-info cache never serves a stale record

`getFileInfo` sends the epoch of its cached copy and keeps that copy when the engine answers
with an empty payload. The copy is right because a cached record's epoch never exceeds the
engine's epoch for its id, and while the two are equal the engine still holds that record:
the engine moves an id to a later epoch whenever it changes what the id denotes, and the
runtime only ever stores what the engine just sent or deletes entries.
-/
namespace DuckdbWasm
open Js

/-- A cached record is the engine's current one unless the engine's epoch has moved past it. -/
def EpochCoherent (epoch : Nat) (current : Option α) (cacheEpoch : Nat) (info : α) : Prop :=
  cacheEpoch ≤ epoch ∧ (cacheEpoch = epoch → current = some info)

/-- Every cache entry of the runtime is epoch-coherent with the engine. -/
structure CacheCoherent (w : World) : Prop where
  files : ∀ fileId info, w.fileInfoCache.get fileId = some info →
    EpochCoherent (w.engine.epoch fileId) (w.engine.current fileId) info.cacheEpoch info
  global : ∀ info, w.globalFileInfo = some info →
    EpochCoherent w.engine.globalEpoch w.engine.currentGlobal info.cacheEpoch info

theorem epochCoherent_current {epoch : Nat} {current : Option α} {cacheEpoch : Nat} {info : α}
    (h : current = some info) (he : cacheEpoch = epoch) : EpochCoherent epoch current cacheEpoch info :=
  ⟨he.le, fun _ => h⟩

/-- What getFileInfo returns is the engine's current record, from a coherent cache. -/
theorem getFileInfo_current {w : World} (hw : CacheCoherent w) {fileId : Nat} {info : FileInfo}
    (h : (getFileInfo fileId w).1 = .normal (some info)) : w.engine.current fileId = some info := by
  rw [getFileInfo_run, Completion.normal.injEq] at h
  generalize hr : w.engine.fileInfoById fileId _ = reply at h
  cases reply with
  | failure => cases h
  | unchanged =>
    have he := Engine.fileInfoById_unchanged hr
    rcases hcached : w.fileInfoCache.get fileId with _ | cached <;> rw [hcached] at h he <;> cases h
    exact (hw.files fileId info hcached).2 he
  | payload r => exact (Engine.fileInfoById_payload hr).trans h

/-- From a coherent cache, getFileInfo of a file the engine records returns its current record. -/
theorem getFileInfo_of_current {w : World} (hw : CacheCoherent w) {fileId : Nat} {file : FileInfo}
    (hcur : w.engine.current fileId = some file) (hepoch : w.engine.epoch fileId ≠ 0) :
    (getFileInfo fileId w).1 = .normal (some file) := by
  rw [getFileInfo_run]
  rcases hcached : w.fileInfoCache.get fileId with _ | cached
  · simp [Engine.fileInfoById, hcur, cachedEpoch, Ne.symm hepoch, fileInfoResult]
  · by_cases he : cached.cacheEpoch = w.engine.epoch fileId
    · obtain rfl : cached = file := Option.some.inj (((hw.files fileId cached hcached).2 he).symm.trans hcur)
      simp [Engine.fileInfoById, hcur, cachedEpoch, he, fileInfoResult]
    · simp [Engine.fileInfoById, hcur, cachedEpoch, he, fileInfoResult]

/-- What getGlobalFileInfo returns is the engine's current global record, from a coherent cache. -/
theorem getGlobalFileInfo_current {w : World} (hw : CacheCoherent w) {info : GlobalFileInfo}
    (h : (getGlobalFileInfo w).1 = .normal (some info)) : w.engine.currentGlobal = some info := by
  rw [getGlobalFileInfo_run, Completion.normal.injEq] at h
  generalize hr : w.engine.globalFileInfo _ = reply at h
  cases reply with
  | failure => cases h
  | unchanged =>
    have he := Engine.globalFileInfo_unchanged hr
    rcases hcached : w.globalFileInfo with _ | cached <;> rw [hcached] at h he <;> cases h
    exact (hw.global info hcached).2 he
  | payload r => exact (Engine.globalFileInfo_payload hr).trans h

/-- From a coherent cache, getGlobalFileInfo returns the engine's global record once it has one. -/
theorem getGlobalFileInfo_of_current {w : World} (hw : CacheCoherent w) {info : GlobalFileInfo}
    (hcur : w.engine.currentGlobal = some info) (hepoch : w.engine.globalEpoch ≠ 0) :
    (getGlobalFileInfo w).1 = .normal (some info) := by
  rw [getGlobalFileInfo_run]
  rcases hcached : w.globalFileInfo with _ | cached
  · simp [Engine.globalFileInfo, hcur, cachedGlobalEpoch, Ne.symm hepoch, globalInfoResult]
  · by_cases he : cached.cacheEpoch = w.engine.globalEpoch
    · obtain rfl : cached = info := Option.some.inj (((hw.global cached hcached).2 he).symm.trans hcur)
      simp [Engine.globalFileInfo, hcur, cachedGlobalEpoch, he, globalInfoResult]
    · simp [Engine.globalFileInfo, hcur, cachedGlobalEpoch, he, globalInfoResult]

/-- The cache after getFileInfo: the entry it stores is the engine's current record. -/
theorem keeps_getFileInfo (fileId : Nat) : Keeps CacheCoherent (getFileInfo fileId) := by
  intro w hw
  rw [getFileInfo_run]
  refine ⟨fun id info hget => ?_, hw.global⟩
  simp only at hget
  unfold fileInfoCacheAfter at hget
  split at hget
  · rename_i hr
    by_cases hid : fileId = id
    · subst hid
      simp only [JsMap.get_set_self, Option.some.injEq] at hget
      subst hget
      have hc := Engine.fileInfoById_payload hr
      exact epochCoherent_current hc (Engine.current_epoch hc)
    · rw [JsMap.get_set_ne _ _ hid] at hget
      exact hw.files id info hget
  · exact hw.files id info hget

theorem keeps_getGlobalFileInfo : Keeps CacheCoherent getGlobalFileInfo := by
  intro w hw
  rw [getGlobalFileInfo_run]
  refine ⟨hw.files, fun info hget => ?_⟩
  simp only at hget
  unfold globalInfoAfter at hget
  split at hget
  · rename_i hr
    rw [Option.some.inj hget] at hr
    have hc := Engine.globalFileInfo_payload hr
    exact epochCoherent_current hc (Engine.currentGlobal_epoch hc)
  · exact hw.global info hget

/-- Deleting cache entries keeps coherence. -/
theorem cacheCoherent_of_get {w w' : World} (hw : CacheCoherent w) (he : w'.engine = w.engine)
    (hg : w'.globalFileInfo = w.globalFileInfo)
    (hc : ∀ id info, w'.fileInfoCache.get id = some info → w.fileInfoCache.get id = some info) :
    CacheCoherent w' :=
  ⟨fun id info h => he ▸ hw.files id info (hc id info h), fun info h => he ▸ hw.global info (hg ▸ h)⟩

theorem get_delete_some {m : JsMap Nat FileInfo} {k id : Nat} {info : FileInfo}
    (h : (m.delete k).get id = some info) : m.get id = some info := by
  by_cases hk : k = id
  · subst hk
    simp at h
  · rwa [JsMap.get_delete_ne _ hk] at h

theorem keeps_dropCachedFileInfo (fileId : Nat) : Keeps CacheCoherent (dropCachedFileInfo fileId) :=
  fun _ hw => cacheCoherent_of_get hw rfl rfl fun _ _ => get_delete_some

theorem keeps_dropCachedUrl (fromPath : String) :
    Keeps CacheCoherent (modify fun w => { w with fileInfoCache := dropFirstCachedUrl w.fileInfoCache fromPath }) := by
  intro w hw
  refine cacheCoherent_of_get hw rfl rfl fun id info h => ?_
  simp only [modify_run, dropFirstCachedUrl] at h
  split at h
  · exact get_delete_some h
  · exact h

/-- A computation that leaves the cache, the global record and the engine alone keeps coherence. -/
theorem keeps_cacheCoherent_of_frame {m : Js α}
    (hm : ∀ w, (m w).2.fileInfoCache = w.fileInfoCache ∧ (m w).2.globalFileInfo = w.globalFileInfo ∧
      (m w).2.engine = w.engine) : Keeps CacheCoherent m := by
  intro w hw
  obtain ⟨hc, hg, he⟩ := hm w
  exact cacheCoherent_of_get hw he hg fun id info h => hc ▸ h

theorem keeps_of_opfsStep {m : Js α} (hm : ∀ w, OpfsStep w (m w).2) : Keeps CacheCoherent m :=
  keeps_cacheCoherent_of_frame fun w => by rw [hm w]; exact ⟨rfl, rfl, rfl⟩

/-- Coherence is kept by each effect of the runtime. -/
theorem cacheCoherent_keptByEffects : KeptByEffects CacheCoherent where
  send r _ := keeps_cacheCoherent_of_frame fun w => by unfold send; split <;> exact ⟨rfl, rfl, rfl⟩
  malloc _ := keeps_cacheCoherent_of_frame fun _ => ⟨rfl, rfl, rfl⟩
  heapSet _ _ := keeps_cacheCoherent_of_frame fun _ => ⟨rfl, rfl, rfl⟩
  failWith _ := keeps_cacheCoherent_of_frame fun _ => ⟨rfl, rfl, rfl⟩
  globAddPath _ := keeps_cacheCoherent_of_frame fun _ => ⟨rfl, rfl, rfl⟩
  getFileInfo := keeps_getFileInfo
  getGlobalFileInfo := keeps_getGlobalFileInfo
  dropCachedFileInfo := keeps_dropCachedFileInfo
  ensureFileHandle ref fileName := keeps_of_opfsStep (ensureFileHandle_opfsStep ref fileName)
  ensureFile ref := keeps_of_opfsStep (ensureFile_opfsStep ref)
  ensureAccessHandle ref := keeps_of_opfsStep (ensureAccessHandle_opfsStep ref)
  accessWrite a input offset := keeps_of_opfsStep (accessWrite_opfsStep a input offset)
  accessTruncate a newSize := keeps_of_opfsStep (accessTruncate_opfsStep a newSize)
  releaseAccessHandle ref := keeps_of_opfsStep (releaseAccessHandle_opfsStep ref)
  rebindFile _ _ := keeps_cacheCoherent_of_frame fun _ => ⟨rfl, rfl, rfl⟩
  dropCachedUrl := keeps_dropCachedUrl

/-- An engine change keeps coherence: an entry whose epoch the engine reaches again was
never replaced. -/
theorem CacheCoherent.advance {w : World} (hw : CacheCoherent w) {e : Engine} (he : w.engine.Advances e) :
    CacheCoherent { w with engine := e } := by
  constructor
  · intro fileId info hget
    obtain ⟨hle, hcur⟩ := hw.files fileId info hget
    refine ⟨hle.trans (he.epoch_mono fileId), fun heq => ?_⟩
    have hsame : w.engine.epoch fileId = e.epoch fileId := le_antisymm (he.epoch_mono fileId) (heq ▸ hle)
    have hrec : e.record fileId = w.engine.record fileId :=
      Classical.byContradiction fun hne => absurd hsame (he.epoch_bump fileId hne).ne
    have := hcur (heq.trans hsame.symm)
    simpa only [Engine.current, hrec, hsame] using this
  · intro info hget
    obtain ⟨hle, hcur⟩ := hw.global info hget
    refine ⟨hle.trans he.globalEpoch_mono, fun heq => ?_⟩
    have hsame : w.engine.globalEpoch = e.globalEpoch := le_antisymm he.globalEpoch_mono (heq ▸ hle)
    have hrec : e.globalRecord = w.engine.globalRecord :=
      Classical.byContradiction fun hne => absurd hsame (he.globalEpoch_bump hne).ne
    have := hcur (heq.trans hsame.symm)
    simpa only [Engine.currentGlobal, hrec, hsame] using this

/-- Coherence holds in every world a run reaches from a coherent start. -/
theorem Reach.cacheCoherent {w₀ w : World} (hr : Reach w₀ w) (h₀ : CacheCoherent w₀) : CacheCoherent w := by
  induction hr with
  | init => exact h₀
  | call c _ ih => exact cacheCoherent_keptByEffects.call c _ ih
  | engine e _ he ih => exact ih.advance he

/-- A fresh runtime, whose caches are empty, is coherent with any engine. -/
theorem cacheCoherent_of_empty {w : World} (hc : w.fileInfoCache = []) (hg : w.globalFileInfo = none) :
    CacheCoherent w :=
  ⟨fun _ _ h => by simp [hc] at h, fun _ h => by simp [hg] at h⟩

/-- Over every interleaving of runtime calls and engine changes from a fresh runtime, the lookups
answer with the engine's current records: what getFileInfo returns is the current record for the
id, and for an id the engine records past epoch 0 it returns that record; likewise for
getGlobalFileInfo and the global record. -/
theorem fileInfo_lookups_current {w₀ w : World} (hc : w₀.fileInfoCache = []) (hg : w₀.globalFileInfo = none)
    (hr : Reach w₀ w) :
    (∀ fileId info, (getFileInfo fileId w).1 = .normal (some info) → w.engine.current fileId = some info) ∧
    (∀ fileId file, w.engine.current fileId = some file → w.engine.epoch fileId ≠ 0 →
      (getFileInfo fileId w).1 = .normal (some file)) ∧
    (∀ info, (getGlobalFileInfo w).1 = .normal (some info) → w.engine.currentGlobal = some info) ∧
    (∀ info, w.engine.currentGlobal = some info → w.engine.globalEpoch ≠ 0 →
      (getGlobalFileInfo w).1 = .normal (some info)) :=
  have hw := hr.cacheCoherent (cacheCoherent_of_empty hc hg)
  ⟨fun _ _ => getFileInfo_current hw, fun _ _ => getFileInfo_of_current hw,
    fun _ => getGlobalFileInfo_current hw, fun _ => getGlobalFileInfo_of_current hw⟩

/-- The record the engine holds for file id 1 once `data.bin` is moved to `moved.bin`. -/
def movedBin : FileInfo := { httpBinary with fileName := "moved.bin", dataUrl := some "moved.bin" }

/-- The engine after the move, with both the file and the first global settings at epoch 2. -/
def movedEngine : Engine where
  record fileId := if fileId = 1 then some movedBin else none
  epoch fileId := if fileId = 1 then 2 else 1
  fileIdOfName fileName := if fileName = "moved.bin" then some 1 else none
  globalRecord := some ⟨0, none, false⟩
  globalEpoch := 2

theorem ofFiles_advances_movedEngine : (Engine.ofFiles [httpBinary]).Advances movedEngine where
  epoch_mono fileId := by dsimp only [Engine.ofFiles, movedEngine]; split <;> omega
  epoch_bump fileId h := by
    by_cases hid : fileId = 1
    · simp [Engine.ofFiles, movedEngine, hid]
    · simp [Engine.ofFiles, movedEngine, httpBinary, hid, Ne.symm hid] at h
  globalEpoch_mono := by decide
  globalEpoch_bump _ := by decide

/-- getFileInfo caches `data.bin` at epoch 1, then the engine moves it. -/
def movedRuntime : World := { ((Call.getFileInfo 1).run rangedBinary).2 with engine := movedEngine }

theorem fileInfo_lookups_current_movedRuntime :
    rangedBinary.fileInfoCache = [] ∧ rangedBinary.globalFileInfo = none ∧
    Reach rangedBinary movedRuntime ∧ movedRuntime.fileInfoCache.get 1 = some httpBinary ∧
    (getFileInfo 1 movedRuntime).1 = .normal (some { movedBin with cacheEpoch := 2 }) ∧
    (getGlobalFileInfo movedRuntime).1 = .normal (some ⟨2, none, false⟩) :=
  have hr : Reach rangedBinary movedRuntime :=
    .engine movedEngine (.call (.getFileInfo 1) .init) ofFiles_advances_movedEngine
  have h := fileInfo_lookups_current rfl rfl hr
  ⟨rfl, rfl, hr, rfl, h.2.1 1 _ rfl (by decide), h.2.2.2 _ rfl (by decide)⟩

end DuckdbWasm
