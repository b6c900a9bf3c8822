import DuckdbWasm.Frame.Keeps
import DuckdbWasm.Opfs.Snapshot

/-! # OPFS access sessions

An OPFSFileHandle holds at most one access handle: the first openFileAsync that finds none
creates it, and the next close of any file id of its name flushes, closes and drops it. In
every state a run reaches, each access handle an object holds is open and held by no other
object, so no read, write or truncate goes through a closed access handle. No open fails for
exclusivity: a name whose object holds an access handle is opened again by reusing it.
-/
namespace DuckdbWasm
open Js

/-- The access handle the object at `ref` holds. -/
def heldAccessHandle (w : World) (ref : Nat) : Option Nat := (w.objects ref).opfsHandle.accessHandle

/-- Every access handle an object holds is open, and no other object holds it. -/
structure SessionsExclusive (w : World) : Prop where
  held_open : ∀ ref a, heldAccessHandle w ref = some a →
    ∃ s, w.opfs.accessHandles[a]? = some s ∧ s.isOpen = true
  unshared : ∀ ref ref' a, heldAccessHandle w ref = some a → heldAccessHandle w ref' = some a → ref = ref'

/-- A step that keeps every object's access handle and the access handles themselves keeps
exclusivity. -/
theorem keeps_sessions_of_frame {m : Js α}
    (hm : ∀ w, (∀ ref, heldAccessHandle (m w).2 ref = heldAccessHandle w ref) ∧
      (m w).2.opfs.accessHandles = w.opfs.accessHandles) : Keeps SessionsExclusive m := by
  intro w hw
  obtain ⟨ho, ha⟩ := hm w
  refine ⟨fun ref a h => ?_, fun ref ref' a h h' => ?_⟩
  · rw [ha]
    exact hw.held_open ref a (ho ref ▸ h)
  · exact hw.unshared ref ref' a (ho ref ▸ h) (ho ref' ▸ h')

/-- An assignment to a field other than `accessHandle` keeps every held access handle. -/
theorem heldAccessHandle_modifyHandle {ref : Nat} {f : OPFSFileHandle → OPFSFileHandle}
    (hf : ∀ h, (f h).accessHandle = h.accessHandle) (w : World) (r : Nat) :
    heldAccessHandle (modifyHandle ref f w).2 r = heldAccessHandle w r := by
  by_cases hr : r = ref
  · subst hr
    simp [modifyHandle, World.setObject, heldAccessHandle, HostObject.opfsHandle, hf]
  · simp [modifyHandle, World.setObject, heldAccessHandle, hr]

theorem keeps_sessions_ensureFileHandle (ref : Nat) (fileName : String) :
    Keeps SessionsExclusive (ensureFileHandle ref fileName) := by
  refine keeps_sessions_of_frame fun w => ?_
  simp only [ensureFileHandle, handleAt, bind_run, read_run]
  rcases (w.objects ref).opfsHandle with ⟨_, _ | _, _ | _, _, _, _⟩
  all_goals try simp only [bind_run, read_run]
  all_goals first
    | exact ⟨fun _ => rfl, rfl⟩
    | exact ⟨fun r => heldAccessHandle_modifyHandle (by intros; rfl) w r, rfl⟩

theorem keeps_sessions_ensureFile (ref : Nat) : Keeps SessionsExclusive (ensureFile ref) := by
  refine keeps_sessions_of_frame fun w => ?_
  simp only [ensureFile, handleAt, bind_run, read_run]
  rcases (w.objects ref).opfsHandle with ⟨_, _, _ | _, _ | _, _, _⟩
  all_goals try simp only [bind_run, read_run]
  all_goals first
    | exact ⟨fun _ => rfl, rfl⟩
    | exact ⟨fun r => heldAccessHandle_modifyHandle (by intros; rfl) w r, rfl⟩

theorem SessionsExclusive.held_lt {w : World} (hw : SessionsExclusive w) {ref a : Nat}
    (h : heldAccessHandle w ref = some a) : a < w.opfs.accessHandles.length := by
  obtain ⟨s, hs, -⟩ := hw.held_open ref a h
  exact (List.getElem?_eq_some_iff.mp hs).1

/-- The objects' access handles after `handle.accessHandle = v` on the object at `ref`. -/
theorem heldAccessHandle_setAccess (ref : Nat) (v : Option Nat) (w : World) (r : Nat) :
    heldAccessHandle (modifyHandle ref (fun h => { h with accessHandle := v }) w).2 r =
      if r = ref then v else heldAccessHandle w r := by
  by_cases hr : r = ref <;> simp [modifyHandle, World.setObject, heldAccessHandle, HostObject.opfsHandle, hr]

/-- A new open access handle, taken by the object at `ref`, keeps exclusivity. -/
theorem SessionsExclusive.take_new {w : World} (hw : SessionsExclusive w) (ref fileHandle : Nat) :
    SessionsExclusive (modifyHandle ref (fun h => { h with accessHandle := some w.opfs.accessHandles.length })
      { w with opfs := { w.opfs with accessHandles := w.opfs.accessHandles ++ [⟨fileHandle, true⟩] } }).2 := by
  constructor
  · intro r a h
    rw [heldAccessHandle_setAccess] at h
    split_ifs at h with hr
    · cases h
      exact ⟨⟨fileHandle, true⟩, by simp [modifyHandle, World.setObject], rfl⟩
    · obtain ⟨s, hs, ho⟩ := hw.held_open r a h
      exact ⟨s, by simp [modifyHandle, World.setObject, List.getElem?_append_left (hw.held_lt h), hs], ho⟩
  · intro r r' a h h'
    rw [heldAccessHandle_setAccess] at h h'
    split_ifs at h h' with hr hr'
    · rw [hr, hr']
    · cases h
      exact absurd (hw.held_lt h') (lt_irrefl _)
    · cases h'
      exact absurd (hw.held_lt h) (lt_irrefl _)
    · exact hw.unshared r r' a h h'

theorem keeps_sessions_ensureAccessHandle (ref : Nat) : Keeps SessionsExclusive (ensureAccessHandle ref) := by
  intro w hw
  simp only [ensureAccessHandle, handleAt, bind_run, read_run]
  rcases (w.objects ref).opfsHandle with ⟨_, _, _ | fh, _, _ | _, _⟩
  all_goals try exact hw
  simp only [bind_run, createSyncAccessHandle]
  split_ifs
  · exact hw
  · exact hw.take_new ref fh

/-- Closing the access handle an object holds and dropping it keeps exclusivity. -/
theorem SessionsExclusive.release {w : World} (hw : SessionsExclusive w) {ref a : Nat}
    (hheld : heldAccessHandle w ref = some a) :
    SessionsExclusive (modifyHandle ref (fun h => { h with accessHandle := none }) (accessClose a w).2).2 := by
  have hclose : ∀ r, heldAccessHandle (accessClose a w).2 r = heldAccessHandle w r := fun _ => rfl
  constructor
  · intro r a' h
    rw [heldAccessHandle_setAccess] at h
    split_ifs at h with hr
    rw [hclose] at h
    have hne : a ≠ a' := fun he => hr (hw.unshared r ref a' h (he ▸ hheld))
    obtain ⟨s, hs, ho⟩ := hw.held_open r a' h
    exact ⟨s, by simp [modifyHandle, World.setObject, accessClose, List.getElem?_modify_ne _ _ hne, hs], ho⟩
  · intro r r' a' h h'
    rw [heldAccessHandle_setAccess] at h h'
    split_ifs at h h'
    exact hw.unshared r r' a' h h'

theorem keeps_sessions_releaseAccessHandle (ref : Nat) : Keeps SessionsExclusive (releaseAccessHandle ref) := by
  intro w hw
  simp only [releaseAccessHandle, bind_run, read_run]
  rcases hobj : w.objects ref with _ | ⟨_, _, _, _, _ | a, _⟩
  · exact hw
  · exact hw
  · have hheld : heldAccessHandle w ref = some a := by simp [heldAccessHandle, hobj, HostObject.opfsHandle]
    simp only [bind_run]
    have h := accessFlush_frame a w
    revert h
    rcases accessFlush a w with ⟨_ | _, w'⟩ <;> intro h <;> cases h
    · exact hw.release hheld
    · exact hw

theorem keeps_sessions_of_objects {m : Js α}
    (hm : ∀ w, (m w).2.objects = w.objects ∧ (m w).2.opfs.accessHandles = w.opfs.accessHandles) :
    Keeps SessionsExclusive m :=
  keeps_sessions_of_frame fun w => ⟨fun r => by rw [heldAccessHandle, (hm w).1]; rfl, (hm w).2⟩

theorem accessWrite_sessions_frame (a : Nat) (input : List UInt8) (offset : Nat) (w : World) :
    (accessWrite a input offset w).2.objects = w.objects ∧
      (accessWrite a input offset w).2.opfs.accessHandles = w.opfs.accessHandles := by
  simp only [accessWrite, bind_run]
  have h := openAccessHandle_frame a w
  revert h
  rcases openAccessHandle a w with ⟨_ | _, w'⟩ <;> intro h <;> cases h <;> exact ⟨rfl, rfl⟩

theorem accessTruncate_sessions_frame (a newSize : Nat) (w : World) :
    (accessTruncate a newSize w).2.objects = w.objects ∧
      (accessTruncate a newSize w).2.opfs.accessHandles = w.opfs.accessHandles := by
  simp only [accessTruncate, bind_run]
  have h := openAccessHandle_frame a w
  revert h
  rcases openAccessHandle a w with ⟨_ | _, w'⟩ <;> intro h <;> cases h <;> exact ⟨rfl, rfl⟩

/-- Exclusivity is kept by each effect of the runtime. -/
theorem sessionsExclusive_keptByEffects : KeptByEffects SessionsExclusive where
  send r _ := keeps_sessions_of_objects fun w => by unfold send; split <;> exact ⟨rfl, rfl⟩
  malloc _ := keeps_sessions_of_objects fun _ => ⟨rfl, rfl⟩
  heapSet _ _ := keeps_sessions_of_objects fun _ => ⟨rfl, rfl⟩
  failWith _ := keeps_sessions_of_objects fun _ => ⟨rfl, rfl⟩
  globAddPath _ := keeps_sessions_of_objects fun _ => ⟨rfl, rfl⟩
  getFileInfo fileId := keeps_sessions_of_objects fun w => by rw [getFileInfo_frame]; exact ⟨rfl, rfl⟩
  getGlobalFileInfo := keeps_sessions_of_objects fun w => by rw [getGlobalFileInfo_run]; exact ⟨rfl, rfl⟩
  dropCachedFileInfo _ := keeps_sessions_of_objects fun _ => ⟨rfl, rfl⟩
  ensureFileHandle := keeps_sessions_ensureFileHandle
  ensureFile := keeps_sessions_ensureFile
  ensureAccessHandle := keeps_sessions_ensureAccessHandle
  accessWrite a input offset := keeps_sessions_of_objects (accessWrite_sessions_frame a input offset)
  accessTruncate a newSize := keeps_sessions_of_objects (accessTruncate_sessions_frame a newSize)
  releaseAccessHandle := keeps_sessions_releaseAccessHandle
  rebindFile _ _ := keeps_sessions_of_objects fun _ => ⟨rfl, rfl⟩
  dropCachedUrl _ := keeps_sessions_of_objects fun _ => ⟨rfl, rfl⟩

/-- Exclusivity holds in every world a run reaches from an exclusive start. -/
theorem Reach.sessionsExclusive {w₀ w : World} (hr : Reach w₀ w) (h₀ : SessionsExclusive w₀) :
    SessionsExclusive w := by
  induction hr with
  | init => exact h₀
  | call c _ ih => exact sessionsExclusive_keptByEffects.call c _ ih
  | engine e _ _ ih => exact ⟨ih.held_open, ih.unshared⟩

/-- A read, write or truncate through an access handle an object holds finds it open. -/
theorem SessionsExclusive.openAccessHandle_held {w : World} (hw : SessionsExclusive w) {ref a : Nat}
    (h : heldAccessHandle w ref = some a) : ∃ s, openAccessHandle a w = (.normal s, w) ∧ s.isOpen = true := by
  obtain ⟨s, hs, ho⟩ := hw.held_open ref a h
  exact ⟨s, by simp [openAccessHandle, hs, ho], ho⟩

/-- openFileAsync of an OPFS name whose object holds its file handle and `File` returns the
descriptor, keeping the access handle the object holds or, when it holds none and no open one
exists on the file, taking a new one, numbered after all created before. -/
theorem openFileAsync_takes_session {w : World} {fileId flags ref size fileHandle : Nat} {file : FileInfo}
    {handle : OPFSFileHandle} (hcur : w.engine.current fileId = some file) (hepoch : w.engine.epoch fileId ≠ 0)
    (hproto : file.dataProtocol = .BROWSER_FSACCESS) (href : w.files.get (.name file.fileName) = some ref)
    (hobj : w.objects ref = .opfs handle) (hname : handle.fileName.isEmpty = false)
    (hfh : handle.fileHandle = some fileHandle) (hsnap : handle.file = some size)
    (hfree : handle.accessHandle.isSome ∨
      (w.opfs.accessHandles.any fun a => a.file = fileHandle && a.isOpen) = false) :
    (openFileAsync fileId flags w).1 = .normal w.heap.brk ∧
      (openFileAsync fileId flags w).2.failures = w.failures ∧
      heldAccessHandle (openFileAsync fileId flags w).2 ref =
        some (handle.accessHandle.getD w.opfs.accessHandles.length) := by
  obtain ⟨cache, hrun⟩ := @openFileAsync_opfs w fileId flags file hcur hepoch hproto
  obtain ⟨w₁, hacq, hheap, hfail, hheld⟩ : ∃ w₁,
      acquireOPFSFile file.fileName { w with fileInfoCache := cache } = openedFile (.num size) 0 w₁ ∧
      w₁.heap = w.heap ∧ w₁.failures = w.failures ∧
      heldAccessHandle w₁ ref = some (handle.accessHandle.getD w.opfs.accessHandles.length) := by
    rcases hacc : handle.accessHandle with _ | a
    · rw [hacc] at hfree
      exact ⟨_, @acquireOPFSFile_fresh { w with fileInfoCache := cache } ref size file.fileName handle fileHandle
        href hobj hname hfh hsnap hacc (by simpa using hfree), rfl, rfl, by simp [heldAccessHandle_setAccess]⟩
    · exact ⟨_, @acquireOPFSFile_held { w with fileInfoCache := cache } ref size file.fileName handle
        href hobj hname (by simp [hfh]) hsnap (by simp [hacc]), rfl, rfl,
        by simp [heldAccessHandle, hobj, HostObject.opfsHandle, hacc]⟩
  rw [hrun, tryCatch_run, hacq, openedFile_run, ← hheap]
  exact ⟨rfl, hfail, hheld⟩

/-- closeFile of an OPFS file whose object holds an access handle closes it and drops it from
the object. -/
theorem closeFile_releases {w : World} (hw : SessionsExclusive w) {fileId ref a : Nat} {file : FileInfo}
    (hinfo : (getFileInfo fileId w).1 = .normal (some file)) (hproto : file.dataProtocol = .BROWSER_FSACCESS)
    (href : w.files.get (.name file.fileName) = some ref) (hheld : heldAccessHandle w ref = some a) :
    (closeFile fileId w).1 = .normal () ∧ heldAccessHandle (closeFile fileId w).2 ref = none ∧
      ((closeFile fileId w).2.opfs.accessHandles[a]?).map (·.isOpen) = some false := by
  obtain ⟨cache, hget⟩ := getFileInfo_eq hinfo
  obtain ⟨handle, hobj, hacc⟩ : ∃ handle, w.objects ref = .opfs handle ∧ handle.accessHandle = some a := by
    unfold heldAccessHandle at hheld
    rcases hobj : w.objects ref with _ | handle
    · simp [hobj, HostObject.opfsHandle] at hheld
    · exact ⟨handle, rfl, by simpa [hobj, HostObject.opfsHandle] using hheld⟩
  obtain ⟨s, hs, hopen⟩ := hw.held_open ref a hheld
  simp only [closeFile, bind_run, hget, _closeFile, dropCachedFileInfo, modify_run, hproto, lookupRef, read_run, href,
    releaseAccessHandle, hobj, hacc, accessFlush, openAccessHandle, hs, hopen, if_true, pure_run, accessClose]
  refine ⟨rfl, by rw [heldAccessHandle_setAccess, if_pos rfl], ?_⟩
  simp [modifyHandle, World.setObject, hs]

/-- A runtime whose objects hold no access handle has exclusive sessions. -/
theorem sessionsExclusive_of_none_held {w : World} (h : ∀ ref, heldAccessHandle w ref = none) :
    SessionsExclusive w :=
  ⟨fun ref a ha => by simp [h ref] at ha, fun ref _ a ha => by simp [h ref] at ha⟩

/-- openFile of an OPFS name whose object holds its file handle, `File` and access handle
returns the descriptor and keeps that access handle. -/
theorem openFile_shares_session {w : World} {fileId flags ref size : Nat} {file : FileInfo}
    {handle : OPFSFileHandle} (hcur : w.engine.current fileId = some file) (hepoch : w.engine.epoch fileId ≠ 0)
    (hproto : file.dataProtocol = .BROWSER_FSACCESS) (href : w.files.get (.name file.fileName) = some ref)
    (hobj : w.objects ref = .opfs handle) (hfh : handle.fileHandle.isSome) (hsnap : handle.file = some size)
    (hacc : handle.accessHandle.isSome) :
    (openFile fileId flags w).1 = .normal w.heap.brk ∧ (openFile fileId flags w).2.failures = w.failures ∧
      heldAccessHandle (openFile fileId flags w).2 ref = handle.accessHandle := by
  obtain ⟨cache, hrun⟩ := @openFile_opfs w fileId flags file hcur hepoch hproto
  have hacq := @openOPFSFile_held { w with fileInfoCache := cache } ref size file.fileName handle
    href hobj hfh hsnap hacc
  rw [hrun, tryCatch_run, hacq, openedFile_run]
  exact ⟨rfl, rfl, by simp [heldAccessHandle, hobj, HostObject.opfsHandle]⟩

/-- A method called on an access handle an object holds finds it open. -/
def HeldUsable (w : World) : Prop :=
  ∀ ref a, heldAccessHandle w ref = some a → ∃ s, openAccessHandle a w = (.normal s, w) ∧ s.isOpen = true

/-- An open of an OPFS name whose object holds its file handle and `File` returns the
descriptor without a failure: openFileAsync keeps the access handle the object holds or, when
it holds none and no open one exists on the file, takes a new one numbered after all created
before; openFile, which needs one, keeps it. -/
def OpensShareSession (w : World) : Prop :=
  (∀ fileId flags ref size fileHandle (file : FileInfo) (handle : OPFSFileHandle),
    w.engine.current fileId = some file → w.engine.epoch fileId ≠ 0 →
    file.dataProtocol = .BROWSER_FSACCESS → w.files.get (.name file.fileName) = some ref →
    w.objects ref = .opfs handle → handle.fileName.isEmpty = false → handle.fileHandle = some fileHandle →
    handle.file = some size →
    (handle.accessHandle.isSome ∨ (w.opfs.accessHandles.any fun a => a.file = fileHandle && a.isOpen) = false) →
    (openFileAsync fileId flags w).1 = .normal w.heap.brk ∧
      (openFileAsync fileId flags w).2.failures = w.failures ∧
      heldAccessHandle (openFileAsync fileId flags w).2 ref =
        some (handle.accessHandle.getD w.opfs.accessHandles.length)) ∧
  (∀ fileId flags ref size (file : FileInfo) (handle : OPFSFileHandle),
    w.engine.current fileId = some file → w.engine.epoch fileId ≠ 0 →
    file.dataProtocol = .BROWSER_FSACCESS → w.files.get (.name file.fileName) = some ref →
    w.objects ref = .opfs handle → handle.fileHandle.isSome → handle.file = some size →
    handle.accessHandle.isSome →
    (openFile fileId flags w).1 = .normal w.heap.brk ∧ (openFile fileId flags w).2.failures = w.failures ∧
      heldAccessHandle (openFile fileId flags w).2 ref = handle.accessHandle)

/-- closeFile of an OPFS file id whose name's object holds an access handle closes it and drops
it from the object, for every file id sharing that object. -/
def ClosesRelease (w : World) : Prop :=
  ∀ fileId ref a (file : FileInfo), (getFileInfo fileId w).1 = .normal (some file) →
    file.dataProtocol = .BROWSER_FSACCESS → w.files.get (.name file.fileName) = some ref →
    heldAccessHandle w ref = some a →
    (closeFile fileId w).1 = .normal () ∧ heldAccessHandle (closeFile fileId w).2 ref = none ∧
      ((closeFile fileId w).2.opfs.accessHandles[a]?).map (·.isOpen) = some false

theorem opensShareSession (w : World) : OpensShareSession w :=
  ⟨fun _ _ _ _ _ _ _ hcur hepoch hproto href hobj hname hfh hsnap hfree =>
      openFileAsync_takes_session hcur hepoch hproto href hobj hname hfh hsnap hfree,
    fun _ _ _ _ _ _ hcur hepoch hproto href hobj hfh hsnap hacc =>
      openFile_shares_session hcur hepoch hproto href hobj hfh hsnap hacc⟩

/-- In every state a run reaches from exclusive sessions, sessions stay exclusive, every held
access handle is usable, opens of a name share its session, and a close releases it. -/
theorem opfs_sessions_shared {w₀ w : World} (h₀ : SessionsExclusive w₀) (hr : Reach w₀ w) :
    SessionsExclusive w ∧ HeldUsable w ∧ OpensShareSession w ∧ ClosesRelease w := by
  have hw := hr.sessionsExclusive h₀
  exact ⟨hw, fun _ _ h => hw.openAccessHandle_held h, opensShareSession w,
    fun _ _ _ _ hinfo hproto href hheld => closeFile_releases hw hinfo hproto href hheld⟩

/-- A runtime whose engine records `db.duckdb` under file ids 1 and 2, registered as an OPFS
handle on directory 0, in which it is the empty file 7. -/
def opfsTwoIds : World :=
  World.fresh Imports.duckdb (Engine.ofFiles [opfsDatabase,
      ⟨1, 2, "db.duckdb", .BROWSER_FSACCESS, none, false, false, none⟩])
    offline [(.name "db.duckdb", 0)]
    (fun ref => if ref = 0 then .opfs ⟨"db.duckdb", some 0, none, none, none, false⟩ else .blob [])
    ⟨fun _ => [], fun _ _ => 7, []⟩

/-- `db.duckdb` opened through file id 1. -/
def openedThroughOne : World := runCalls [.openFileAsync 1 0] opfsTwoIds

theorem opfsTwoIds_sessionsExclusive : SessionsExclusive opfsTwoIds :=
  sessionsExclusive_of_none_held fun ref => by
    by_cases h : ref = 0 <;> simp [heldAccessHandle, opfsTwoIds, World.fresh, h, HostObject.opfsHandle]

theorem opfs_sessions_shared_openedThroughOne :
    SessionsExclusive opfsTwoIds ∧ Reach opfsTwoIds openedThroughOne ∧
      SessionsExclusive openedThroughOne ∧ HeldUsable openedThroughOne ∧
      OpensShareSession openedThroughOne ∧ ClosesRelease openedThroughOne :=
  ⟨opfsTwoIds_sessionsExclusive, Reach.init.runCalls _,
    opfs_sessions_shared opfsTwoIds_sessionsExclusive (Reach.init.runCalls _)⟩

/-- While file id 1 holds `db.duckdb`'s access handle, openFileAsync of file id 2 on the same
name returns a descriptor without any failure, sharing access handle 0. -/
theorem second_open_shares_session :
    heldAccessHandle openedThroughOne 0 = some 0 ∧ openedThroughOne.failures = [] ∧
    (autoThrowWASMError (openFileAsync 2 0) openedThroughOne).1 = .normal (some 32) ∧
    (autoThrowWASMError (openFileAsync 2 0) openedThroughOne).2.failures = [] ∧
    heldAccessHandle (autoThrowWASMError (openFileAsync 2 0) openedThroughOne).2 0 = some 0 :=
  ⟨rfl, rfl, rfl, rfl, rfl⟩

end DuckdbWasm
