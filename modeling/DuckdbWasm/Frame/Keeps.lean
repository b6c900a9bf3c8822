import DuckdbWasm.Runtime.Calls

/-! # Invariants kept by every call

A property of worlds is kept by a computation when every run of it from a world with the
property ends in one with it, thrown or not. The runtime changes the world only through a
handful of effects (sending a request, the heap, `failWith`, the caches, the OPFS handles);
a property kept by each of them is kept by every entry point, and so along every run.
-/
namespace DuckdbWasm
open Js

/-- Every run of `m` from a world satisfying `P` ends in a world satisfying `P`. -/
def Keeps (P : World → Prop) (m : Js α) : Prop := ∀ w, P w → P (m w).2

namespace Keeps
variable {P : World → Prop} {α β : Type}

theorem pure (a : α) : Keeps P (Pure.pure a : Js α) := fun _ h => h

theorem throw (e : Thrown) : Keeps P (Js.throw e : Js α) := fun _ h => h

theorem read (f : World → α) : Keeps P (Js.read f) := fun _ h => h

theorem bind {m : Js α} {f : α → Js β} (hm : Keeps P m) (hf : ∀ a, Keeps P (f a)) :
    Keeps P (m >>= f) := by
  intro w h
  have h' := hm w h
  simp only [bind_run]
  revert h'
  rcases m w with ⟨_ | _, w'⟩
  · exact hf _ w'
  · exact id

theorem tryCatch {m : Js α} {handler : Thrown → Js α} (hm : Keeps P m) (hh : ∀ e, Keeps P (handler e)) :
    Keeps P (Js.tryCatch m handler) := by
  intro w h
  have h' := hm w h
  simp only [tryCatch_run]
  revert h'
  rcases m w with ⟨_ | e, w'⟩
  · exact id
  · exact hh e w'

theorem map {m : Js α} (f : α → β) (hm : Keeps P m) : Keeps P (f <$> m) := by
  intro w h
  have h' := hm w h
  simp only [map_run]
  revert h'
  rcases m w with ⟨_ | _, w'⟩ <;> exact id

theorem ite {c : Prop} {_ : Decidable c} {m m' : Js α} (hm : Keeps P m) (hm' : Keeps P m') :
    Keeps P (if c then m else m') := by
  split
  · exact hm
  · exact hm'

end Keeps

/-- The requests the runtime builds: those of remoteRequest signed for the method they are
sent with (every fileRequest, and the HEADs of glob and checkFile), glob's ranged fallback GET
signed for HEAD, and writeFile's PUT. -/
inductive RuntimeRequest : Request → Prop
  | remote (im : Imports) (isS3 : Bool) (config : Option S3Config) (method : HttpMethod) (path : Option String)
      (range : Option ByteRange) : RuntimeRequest (remoteRequest im isS3 config method path range method)
  | globFallback (im : Imports) (globalInfo : Option GlobalFileInfo) (path : String) :
      RuntimeRequest (pathRequest im globalInfo .GET path (some rangeFirstByte) .HEAD)
  | put (im : Imports) (file : FileInfo) (buffer : List UInt8) : RuntimeRequest (putRequest im file buffer)

theorem RuntimeRequest.file (im : Imports) (file : FileInfo) (method : HttpMethod) (range : Option ByteRange) :
    RuntimeRequest (fileRequest im file method range) := .remote ..

theorem RuntimeRequest.path (im : Imports) (globalInfo : Option GlobalFileInfo) (method : HttpMethod)
    (path : String) (range : Option ByteRange) : RuntimeRequest (pathRequest im globalInfo method path range method) :=
  .remote ..

/-- `P` is kept by each effect through which the runtime changes the world. -/
structure KeptByEffects (P : World → Prop) : Prop where
  send : ∀ r, RuntimeRequest r → Keeps P (send r)
  malloc : ∀ n, Keeps P (malloc n)
  heapSet : ∀ src offset, Keeps P (heapSet src offset)
  failWith : ∀ message, Keeps P (failWith message)
  globAddPath : ∀ path, Keeps P (globAddPath path)
  getFileInfo : ∀ fileId, Keeps P (getFileInfo fileId)
  getGlobalFileInfo : Keeps P getGlobalFileInfo
  dropCachedFileInfo : ∀ fileId, Keeps P (dropCachedFileInfo fileId)
  ensureFileHandle : ∀ ref fileName, Keeps P (ensureFileHandle ref fileName)
  ensureFile : ∀ ref, Keeps P (ensureFile ref)
  ensureAccessHandle : ∀ ref, Keeps P (ensureAccessHandle ref)
  accessWrite : ∀ a input offset, Keeps P (accessWrite a input offset)
  accessTruncate : ∀ a newSize, Keeps P (accessTruncate a newSize)
  releaseAccessHandle : ∀ ref, Keeps P (releaseAccessHandle ref)
  rebindFile : ∀ handle toPath, Keeps P (rebindFile handle toPath)
  dropCachedUrl : ∀ fromPath,
    Keeps P (modify fun w => { w with fileInfoCache := dropFirstCachedUrl w.fileInfoCache fromPath })

/-- Computations that change nothing keep every property. -/
theorem keeps_of_frame {m : Js α} (hm : ∀ w, (m w).2 = w) (P : World → Prop) : Keeps P m :=
  fun w h => (hm w).symm ▸ h

theorem openAccessHandle_frame (a : Nat) (w : World) : (openAccessHandle a w).2 = w := by
  simp only [openAccessHandle]
  split
  · split <;> rfl
  · rfl

theorem uint8ArrayView_frame (buffer : List UInt8) (offset : Nat) (length : Int) (w : World) :
    (uint8ArrayView buffer offset length w).2 = w := by
  simp only [uint8ArrayView]
  split <;> rfl

theorem accessHandleOf_frame (method : String) (handle : Option HostObject) (w : World) :
    (accessHandleOf method handle w).2 = w := by
  rcases handle with _ | ⟨_ | ⟨_, _, _, _, _ | a, _⟩⟩ <;> rfl

theorem assertOPFS_frame (name fileName : String) (handle : Option HostObject) (w : World) :
    (assertOPFS name fileName handle w).2 = w := by
  simp only [assertOPFS, bind_run, read_run]
  cases w.imports.assertOPFSHandle name fileName handle true <;> rfl

theorem accessRead_frame (a bytes offset : Nat) (w : World) : (accessRead a bytes offset w).2 = w := by
  simp only [accessRead, bind_run]
  have h := openAccessHandle_frame a w
  revert h
  rcases openAccessHandle a w with ⟨_ | _, w'⟩ <;> intro h <;> simpa using h

theorem accessFlush_frame (a : Nat) (w : World) : (accessFlush a w).2 = w := by
  simp only [accessFlush, bind_run]
  have h := openAccessHandle_frame a w
  revert h
  rcases openAccessHandle a w with ⟨_ | _, w'⟩ <;> intro h <;> simpa using h

theorem Keeps.readFailed {P : World → Prop} (file : FileInfo) (error : Option Thrown) :
    Keeps P (readFailed file error) := by
  cases error <;> first | exact Keeps.pure _ | exact Keeps.throw _

/-- `w'` differs from `w` at most in the JavaScript objects and the OPFS. -/
def OpfsStep (w w' : World) : Prop := w' = { w with objects := w'.objects, opfs := w'.opfs }

theorem OpfsStep.refl (w : World) : OpfsStep w w := rfl

/-- `w'` differs from `w` at most in the JavaScript objects and the OPFS access handles: every
OPFS file keeps its bytes. -/
def HandleStep (w w' : World) : Prop :=
  w' = { w with objects := w'.objects, opfs := { w.opfs with accessHandles := w'.opfs.accessHandles } }

theorem HandleStep.opfsStep {w w' : World} (h : HandleStep w w') : OpfsStep w w' := by
  rw [OpfsStep, h]

theorem ensureFileHandle_handleStep (ref : Nat) (fileName : String) (w : World) :
    HandleStep w (ensureFileHandle ref fileName w).2 := by
  simp only [ensureFileHandle, handleAt, bind_run, read_run]
  rcases (w.objects ref).opfsHandle with ⟨_, _ | _, _ | _, _, _, _⟩ <;> rfl

theorem ensureFile_handleStep (ref : Nat) (w : World) : HandleStep w (ensureFile ref w).2 := by
  simp only [ensureFile, handleAt, bind_run, read_run]
  rcases (w.objects ref).opfsHandle with ⟨_, _, _ | _, _ | _, _, _⟩ <;> rfl

theorem ensureAccessHandle_handleStep (ref : Nat) (w : World) : HandleStep w (ensureAccessHandle ref w).2 := by
  simp only [ensureAccessHandle, handleAt, bind_run, read_run]
  rcases (w.objects ref).opfsHandle with ⟨_, _, _ | fh, _, _ | _, _⟩
  all_goals try rfl
  simp only [bind_run, createSyncAccessHandle]
  split_ifs <;> rfl

theorem ensureFileHandle_opfsStep (ref : Nat) (fileName : String) (w : World) :
    OpfsStep w (ensureFileHandle ref fileName w).2 :=
  (ensureFileHandle_handleStep ref fileName w).opfsStep

theorem ensureFile_opfsStep (ref : Nat) (w : World) : OpfsStep w (ensureFile ref w).2 :=
  (ensureFile_handleStep ref w).opfsStep

theorem ensureAccessHandle_opfsStep (ref : Nat) (w : World) : OpfsStep w (ensureAccessHandle ref w).2 :=
  (ensureAccessHandle_handleStep ref w).opfsStep

theorem accessWrite_opfsStep (a : Nat) (input : List UInt8) (offset : Nat) (w : World) :
    OpfsStep w (accessWrite a input offset w).2 := by
  simp only [accessWrite, bind_run]
  have h := openAccessHandle_frame a w
  revert h
  rcases openAccessHandle a w with ⟨_ | _, w'⟩ <;> intro h <;> cases h <;> rfl

theorem accessTruncate_opfsStep (a newSize : Nat) (w : World) :
    OpfsStep w (accessTruncate a newSize w).2 := by
  simp only [accessTruncate, bind_run]
  have h := openAccessHandle_frame a w
  revert h
  rcases openAccessHandle a w with ⟨_ | _, w'⟩ <;> intro h <;> cases h <;> rfl

theorem releaseAccessHandle_handleStep (ref : Nat) (w : World) :
    HandleStep w (releaseAccessHandle ref w).2 := by
  simp only [releaseAccessHandle, bind_run, read_run]
  rcases w.objects ref with _ | ⟨_, _, _, _, _ | a, _⟩
  · rfl
  · rfl
  · dsimp only
    simp only [bind_run]
    have h := accessFlush_frame a w
    revert h
    rcases accessFlush a w with ⟨_ | _, w'⟩ <;> intro h <;> cases h <;> rfl

theorem releaseAccessHandle_opfsStep (ref : Nat) (w : World) : OpfsStep w (releaseAccessHandle ref w).2 :=
  (releaseAccessHandle_handleStep ref w).opfsStep

/-- A bind whose first step, started in `P`, returns only values satisfying `Q`. -/
theorem Keeps.bind_of {P : World → Prop} {α β : Type} {Q : α → Prop} {m : Js α} {f : α → Js β} (hm : Keeps P m)
    (hq : ∀ w, P w → ∀ a, (m w).1 = .normal a → Q a) (hf : ∀ a, Q a → Keeps P (f a)) : Keeps P (m >>= f) := by
  intro w h
  have h' := hm w h
  have hq' := hq w h
  simp only [bind_run]
  revert h' hq'
  rcases m w with ⟨_ | _, w'⟩
  · exact fun h' hq' => hf _ (hq' _ rfl) w' h'
  · exact fun h' _ => h'

/-- A typed-array view is no longer than asked. -/
theorem uint8ArrayView_length {buffer : List UInt8} {offset : Nat} {length : Int} {w : World} {src : List UInt8}
    (h : (uint8ArrayView buffer offset length w).1 = .normal src) : src.length ≤ length.toNat := by
  unfold uint8ArrayView at h
  split_ifs at h
  · cases h
  · cases h
    exact List.length_take_le _ _

/-- accessRead fills a buffer of exactly `bytes` bytes. -/
theorem accessRead_length {a bytes offset : Nat} {w : World} {data : List UInt8} {num : Nat}
    (h : (accessRead a bytes offset w).1 = .normal (data, num)) : data.length = bytes := by
  simp only [accessRead, bind_run] at h
  revert h
  rcases openAccessHandle a w with ⟨s | _, w'⟩
  · intro h
    simp only [read_run, pure_run, Completion.normal.injEq, Prod.mk.injEq] at h
    rw [← h.1, List.length_append, List.length_replicate]
    have := List.length_take_le bytes ((w'.opfs.contents s.file).drop offset)
    omega
  · intro h
    cases h

/-- `P` is kept by each step any call may take but failWith: every effect but readFile's copy
into the engine's buffer, glob's registration of its path, an access handle's write and
truncate, and failWith, with the heap written only in a block just allocated. -/
structure KeptByQuietSteps (P : World → Prop) : Prop where
  send : ∀ r, RuntimeRequest r → Keeps P (send r)
  malloc : ∀ n, Keeps P (malloc n)
  alloc : ∀ {β : Type} (n : Nat) (src : List UInt8) (f : Nat → Js β), (∀ p, Keeps P (f p)) →
    Keeps P (DuckdbWasm.malloc n >>= fun p => heapSet src p >>= fun _ => f p)
  openedFile : ∀ size buffer, Keeps P (openedFile size buffer)
  emptyBufferedFile : Keeps P emptyBufferedFile
  getFileInfo : ∀ fileId, Keeps P (getFileInfo fileId)
  getGlobalFileInfo : Keeps P getGlobalFileInfo
  dropCachedFileInfo : ∀ fileId, Keeps P (dropCachedFileInfo fileId)
  ensureFileHandle : ∀ ref fileName, Keeps P (ensureFileHandle ref fileName)
  ensureFile : ∀ ref, Keeps P (ensureFile ref)
  ensureAccessHandle : ∀ ref, Keeps P (ensureAccessHandle ref)
  releaseAccessHandle : ∀ ref, Keeps P (releaseAccessHandle ref)
  rebindFile : ∀ handle toPath, Keeps P (rebindFile handle toPath)
  dropCachedUrl : ∀ fromPath,
    Keeps P (modify fun w => { w with fileInfoCache := dropFirstCachedUrl w.fileInfoCache fromPath })

/-- `P` is kept by each step any call may take, failWith included. -/
structure KeptBySteps (P : World → Prop) extends KeptByQuietSteps P : Prop where
  failWith : ∀ message, Keeps P (failWith message)

/-- What a call does on the engine's behalf beyond those steps: readFile copies at most
`bytes` bytes to `buf`, writeFile and truncateFile store bytes through an access handle, and
glob registers its path. -/
def Call.Delivers (P : World → Prop) : Call → Prop
  | .readFile _ buf bytes _ => ∀ src : List UInt8, src.length ≤ bytes → Keeps P (heapSet src buf)
  | .writeFile .. => ∀ a input offset, Keeps P (accessWrite a input offset)
  | .truncateFile .. => ∀ a newSize, Keeps P (accessTruncate a newSize)
  | .glob path => Keeps P (globAddPath path)
  | _ => True

namespace KeptByQuietSteps
variable {P : World → Prop} (h : KeptByQuietSteps P)
include h

theorem bufferedFile (body : List UInt8) : Keeps P (bufferedFile body) :=
  h.alloc _ _ _ fun _ => h.openedFile _ _

theorem rangedHead (im : Imports) (file : FileInfo) : Keeps P (rangedHead im file) :=
  Keeps.ite (Keeps.tryCatch (Keeps.map _ (h.send _ (.file ..))) fun _ => Keeps.pure _) (Keeps.pure _)

theorem presumeLength (im : Imports) (file : FileInfo) (contentRange contentLength : Option JsNumber) :
    Keeps P (presumeLength im file contentRange contentLength) := by
  unfold DuckdbWasm.presumeLength
  split
  · exact Keeps.pure _
  · exact Keeps.ite (Keeps.pure _) ((h.send _ (.file ..)).bind fun _ => Keeps.pure _)

theorem firstByteSettle (xhr : Response) (presumedLength contentLength : Option JsNumber) :
    Keeps P (firstByteSettle xhr presumedLength contentLength) := by
  unfold DuckdbWasm.firstByteSettle
  split
  · exact Keeps.map _ (h.openedFile _ _)
  · exact Keeps.ite (Keeps.map _ (h.bufferedFile _)) (Keeps.pure _)

theorem firstByteProbe (im : Imports) (file : FileInfo) (contentLength : Option JsNumber) :
    Keeps P (firstByteProbe im file contentLength) :=
  (h.send _ (.file ..)).bind fun _ => (h.presumeLength _ _ _ _).bind fun _ => h.firstByteSettle _ _ _

theorem fullRead (im : Imports) (file : FileInfo) (error : Option Thrown) : Keeps P (fullRead im file error) :=
  (h.send _ (.file ..)).bind fun _ => Keeps.ite (h.bufferedFile _) (Keeps.readFailed _ _)

theorem fallBack (im : Imports) (file : FileInfo) (contentLength : Option JsNumber) (error : Option Thrown) :
    Keeps P (fallBack im file contentLength error) := by
  refine Keeps.ite ((h.firstByteProbe _ _ _).bind fun r => ?_) (Keeps.readFailed _ _)
  rcases r with _ | _
  · exact h.fullRead _ _ _
  · exact Keeps.pure _

theorem openForRead (im : Imports) (file : FileInfo) : Keeps P (openForRead im file) := by
  refine (h.rangedHead _ _).bind fun probe => ?_
  rcases probe with _ | _
  · exact h.openedFile _ _
  · exact h.fallBack _ _ _ _

theorem openForWrite (im : Imports) (file : FileInfo) (flags : Nat) : Keeps P (openForWrite im file flags) :=
  (h.send _ (.file ..)).bind fun _ => Keeps.ite (Keeps.throw _) (Keeps.ite (Keeps.throw _)
    (h.alloc _ _ _ fun _ => h.openedFile _ _))

theorem openRemoteFile (im : Imports) (file : FileInfo) (flags : Nat) : Keeps P (openRemoteFile im file flags) :=
  Keeps.ite (Keeps.throw _) (Keeps.ite (Keeps.throw _) (Keeps.ite (h.openForWrite _ _ _)
    (Keeps.ite (Keeps.throw _) (h.openForRead _ _))))

theorem openFileReaderFile (file : FileInfo) : Keeps P (openFileReaderFile file) := by
  refine (Keeps.read _).bind fun handle => ?_
  rcases handle with _ | _
  · exact h.emptyBufferedFile
  · exact h.openedFile _ _

theorem openOPFSFile (fileName : String) : Keeps P (openOPFSFile fileName) := by
  refine (Keeps.read _).bind fun handle => ?_
  rcases handle with _ | ⟨_ | ⟨_, _, _ | _, _ | _, _, _⟩⟩
  all_goals first
    | exact Keeps.throw _
    | exact Keeps.ite (h.openedFile _ _) (Keeps.throw _)

theorem acquireOPFSFile (fileName : String) : Keeps P (acquireOPFSFile fileName) := by
  unfold DuckdbWasm.acquireOPFSFile
  refine (Keeps.read _).bind fun ref => ?_
  rcases ref with _ | ref
  · exact Keeps.throw _
  · refine (Keeps.read _).bind fun handle => Keeps.ite (Keeps.throw _) ((h.ensureFileHandle _ _).bind fun _ =>
      (h.ensureFile _).bind fun _ => (h.ensureAccessHandle _).bind fun _ => (Keeps.read _).bind fun handle => ?_)
    rcases handle with ⟨_, _, _, _ | _, _, _⟩
    · exact Keeps.throw _
    · exact h.openedFile _ _

section Read
variable {buf bytes : Nat} (hcopy : ∀ src : List UInt8, src.length ≤ bytes → Keeps P (heapSet src buf))
include hcopy

theorem readRemoteFile (im : Imports) (file : FileInfo) (fileId location : Nat) :
    Keeps P (readRemoteFile im file fileId buf bytes location) :=
  Keeps.ite (Keeps.throw _) (Keeps.tryCatch ((h.send _ (.file ..)).bind fun _ =>
    Keeps.ite (Keeps.bind_of (keeps_of_frame (uint8ArrayView_frame _ _ _) P)
      (fun _ _ _ hs => (uint8ArrayView_length hs).trans (by omega)) fun _ hs => (hcopy _ hs).bind fun _ =>
      Keeps.pure _)
    (Keeps.ite (Keeps.bind_of (keeps_of_frame (uint8ArrayView_frame _ _ _) P)
      (fun _ _ _ hs => (uint8ArrayView_length hs).trans (by omega)) fun _ hs => (hcopy _ hs).bind fun _ =>
      Keeps.pure _) (Keeps.throw _))) fun _ => Keeps.throw _)

omit h in
theorem readBlobFile (file : FileInfo) (location : Nat) : Keeps P (readBlobFile file buf bytes location) := by
  refine (Keeps.read _).bind fun o => ?_
  rcases o with _ | _ | _
  · exact Keeps.throw _
  · exact (hcopy _ (List.length_take_le _ _)).bind fun _ => Keeps.pure _
  · exact Keeps.throw _

omit h in
theorem readOPFSFile (fileName : String) (location : Nat) : Keeps P (readOPFSFile fileName buf bytes location) :=
  (Keeps.read _).bind fun _ => (keeps_of_frame (assertOPFS_frame _ _ _) P).bind fun _ =>
    (keeps_of_frame (accessHandleOf_frame _ _) P).bind fun _ =>
      Keeps.bind_of (keeps_of_frame (accessRead_frame _ _ _) P) (fun _ _ _ hr => (accessRead_length hr).le)
        fun _ hd => (hcopy _ hd).bind fun _ => Keeps.pure _

end Read

omit h in
theorem writeOPFSFile (hwrite : ∀ a input offset, Keeps P (accessWrite a input offset))
    (fileName : String) (buf bytes location : Nat) : Keeps P (writeOPFSFile fileName buf bytes location) :=
  (Keeps.read _).bind fun _ => (keeps_of_frame (assertOPFS_frame _ _ _) P).bind fun _ =>
    (Keeps.read _).bind fun _ => (keeps_of_frame (accessHandleOf_frame _ _) P).bind fun _ =>
      hwrite _ _ _

theorem _closeFile (file : FileInfo) : Keeps P (_closeFile file) := by
  refine (h.dropCachedFileInfo _).bind fun _ => ?_
  split
  · refine (Keeps.read _).bind fun ref => ?_
    rcases ref with _ | ref
    · exact Keeps.throw _
    · exact h.releaseAccessHandle _
  · exact Keeps.pure _

theorem closeFile (fileId : Nat) : Keeps P (closeFile fileId) := by
  refine (h.getFileInfo _).bind fun file => ?_
  rcases file with _ | file
  · exact Keeps.pure _
  · exact h._closeFile _

theorem closeFileByName (fileName : String) : Keeps P (closeFileByName fileName) := by
  refine (keeps_of_frame (fun w => by rw [getFileInfoByName_run]) P).bind fun file => ?_
  rcases file with _ | file
  · exact Keeps.pure _
  · exact (h._closeFile _).bind fun _ => Keeps.pure _

theorem getLastFileModificationTime (fileId : Nat) : Keeps P (getLastFileModificationTime fileId) := by
  refine (h.getFileInfo _).bind fun file => ?_
  rcases file with _ | file
  · exact Keeps.pure _
  · dsimp only
    split
    all_goals first
      | exact Keeps.pure _
      | exact Keeps.read _
      | exact (Keeps.read _).bind fun o => by rcases o with _ | _ <;> first | exact Keeps.throw _ | exact Keeps.pure _

theorem globalInfoFor (path : String) : Keeps P (globalInfoFor path) :=
  Keeps.ite h.getGlobalFileInfo (Keeps.pure _)

theorem checkFile (path : String) : Keeps P (checkFile path) := by
  refine Keeps.tryCatch ((Keeps.read _).bind fun o => ?_) fun _ => Keeps.pure _
  rcases o with _ | _
  · exact Keeps.ite ((Keeps.read _).bind fun _ => (h.globalInfoFor _).bind fun _ =>
      (h.send _ (.path ..)).bind fun _ => Keeps.pure _) (Keeps.pure _)
  · exact Keeps.pure _

theorem moveFile (fromPath toPath : String) : Keeps P (moveFile fromPath toPath) := by
  refine Keeps.bind ?_ fun _ => (h.dropCachedUrl _).bind fun _ => Keeps.pure _
  refine (Keeps.read _).bind fun ref => ?_
  rcases ref with _ | ref
  · exact Keeps.pure _
  · exact h.rebindFile _ _

end KeptByQuietSteps

namespace KeptBySteps
variable {P : World → Prop} (h : KeptBySteps P)
include h

theorem openFile (fileId flags : Nat) : Keeps P (openFile fileId flags) := by
  refine Keeps.tryCatch ((h.dropCachedFileInfo _).bind fun _ => (h.getFileInfo _).bind fun file =>
    (Keeps.read _).bind fun im => ?_) fun _ => (h.failWith _).bind fun _ => Keeps.pure _
  rcases file with _ | file
  · exact Keeps.throw _
  · dsimp only
    split
    all_goals first
      | exact Keeps.throw _
      | exact h.openRemoteFile _ _ _
      | exact h.openFileReaderFile _
      | exact h.openOPFSFile _

theorem openFileAsync (fileId flags : Nat) : Keeps P (openFileAsync fileId flags) := by
  refine Keeps.tryCatch ((h.dropCachedFileInfo _).bind fun _ => (h.getFileInfo _).bind fun file => ?_)
    fun _ => (h.failWith _).bind fun _ => Keeps.pure _
  rcases file with _ | file
  · exact Keeps.throw _
  · exact Keeps.ite (h.acquireOPFSFile _) ((Keeps.read _).bind fun _ => Keeps.throw _)

theorem autoThrowWASMError {m : Js Nat} (hm : Keeps P m) : Keeps P (autoThrowWASMError m) :=
  Keeps.tryCatch (Keeps.map _ hm) fun _ => (h.failWith _).bind fun _ => Keeps.pure _

section Read
variable {buf bytes : Nat} (hcopy : ∀ src : List UInt8, src.length ≤ bytes → Keeps P (heapSet src buf))
include hcopy

theorem readFile (fileId location : Nat) : Keeps P (readFile fileId buf bytes location) := by
  refine Keeps.ite (Keeps.pure _) (Keeps.tryCatch ((Keeps.read _).bind fun im =>
    (h.getFileInfo _).bind fun file => ?_) fun _ => (h.failWith _).bind fun _ => Keeps.pure _)
  rcases file with _ | file
  · exact Keeps.pure _
  · dsimp only
    split
    all_goals first
      | exact Keeps.pure _
      | exact h.readRemoteFile hcopy _ _ _ _
      | exact KeptByQuietSteps.readBlobFile hcopy _ _
      | exact KeptByQuietSteps.readOPFSFile hcopy _ _

end Read

theorem writeS3File (im : Imports) (file : FileInfo) (buf bytes : Nat) : Keeps P (writeS3File im file buf bytes) :=
  (Keeps.read _).bind fun _ => (h.send _ (.put ..)).bind fun _ =>
    Keeps.ite ((h.failWith _).bind fun _ => Keeps.pure _) (Keeps.pure _)

theorem writeFile (hwrite : ∀ a input offset, Keeps P (accessWrite a input offset)) (fileId buf bytes location : Nat) :
    Keeps P (writeFile fileId buf bytes location) := by
  refine (Keeps.read _).bind fun im => (h.getFileInfo _).bind fun file => ?_
  rcases file with _ | file
  · exact Keeps.pure _
  · dsimp only
    split
    all_goals first
      | exact Keeps.pure _
      | exact (h.failWith _).bind fun _ => Keeps.pure _
      | exact h.writeS3File _ _ _ _
      | exact KeptByQuietSteps.writeOPFSFile hwrite _ _ _ _

theorem truncateFile (htruncate : ∀ a newSize, Keeps P (accessTruncate a newSize)) (fileId newSize : Nat) :
    Keeps P (truncateFile fileId newSize) := by
  refine (h.getFileInfo _).bind fun file => ?_
  rcases file with _ | file
  · exact Keeps.pure _
  · dsimp only
    split
    all_goals first
      | exact h.failWith _
      | exact (Keeps.read _).bind fun _ => Keeps.tryCatch
          ((keeps_of_frame (assertOPFS_frame _ _ _) P).bind fun _ =>
            (keeps_of_frame (accessHandleOf_frame _ _) P).bind fun _ => htruncate _ _)
          fun _ => h.failWith _

section Glob
variable {path : String} (hadd : Keeps P (globAddPath path))
include hadd

theorem globFallback (im : Imports) : Keeps P (globFallback im path) :=
  h.getGlobalFileInfo.bind fun _ => Keeps.ite (h.failWith _) ((h.globalInfoFor _).bind fun _ =>
    (h.send _ (.globFallback ..)).bind fun _ => Keeps.ite (h.failWith _) hadd)

theorem glob : Keeps P (glob path) :=
  Keeps.tryCatch (Keeps.ite ((Keeps.read _).bind fun _ => (h.globalInfoFor _).bind fun _ =>
    (h.send _ (.path ..)).bind fun _ => Keeps.ite (h.globFallback hadd _) hadd) (Keeps.pure _))
    fun _ => h.failWith _

end Glob

/-- Every entry point keeps a property its steps keep, given what it delivers. -/
theorem call (c : Call) (hc : c.Delivers P) : Keeps P c.run := by
  cases c with
  | openFile => exact Keeps.map _ (h.openFile _ _)
  | openFileAsync => exact Keeps.map _ (h.autoThrowWASMError (h.openFileAsync _ _))
  | readFile => exact Keeps.map _ (h.readFile hc _ _)
  | writeFile => exact Keeps.map _ (h.writeFile hc _ _ _ _)
  | truncateFile => exact h.truncateFile hc _ _
  | closeFile => exact h.closeFile _
  | closeFileByName => exact Keeps.map _ (h.closeFileByName _)
  | glob => exact h.glob hc
  | checkFile => exact Keeps.map _ (h.checkFile _)
  | getLastFileModificationTime => exact Keeps.map _ (h.getLastFileModificationTime _)
  | moveFile => exact Keeps.map _ (h.moveFile _ _)
  | getFileInfo => exact Keeps.map _ (h.getFileInfo _)
  | getGlobalFileInfo => exact Keeps.map _ h.getGlobalFileInfo

/-- A property the steps keep holds after a sequence of calls that each deliver it. -/
theorem runCalls {cs : List Call} (hc : ∀ c ∈ cs, c.Delivers P) : ∀ w, P w → P (DuckdbWasm.runCalls cs w) := by
  induction cs with
  | nil => exact fun _ hw => hw
  | cons c cs ih =>
    exact fun w hw => ih (fun c' h' => hc c' (List.mem_cons_of_mem c h')) _
      (h.call c (hc c (List.mem_cons_self c cs)) w hw)

end KeptBySteps

namespace KeptByEffects
variable {P : World → Prop} (h : KeptByEffects P)
include h

/-- A property every effect keeps is kept by the steps, and delivered by every call. -/
theorem toSteps : KeptBySteps P where
  send := h.send
  malloc := h.malloc
  alloc _ _ _ hf := (h.malloc _).bind fun p => (h.heapSet _ _).bind fun _ => hf p
  openedFile _ _ := (h.malloc _).bind fun _ => (h.heapSet _ _).bind fun _ => (h.heapSet _ _).bind fun _ =>
    Keeps.pure _
  emptyBufferedFile := (h.malloc _).bind fun _ => (h.malloc _).bind fun _ => (h.heapSet _ _).bind fun _ =>
    (h.heapSet _ _).bind fun _ => Keeps.pure _
  failWith := h.failWith
  getFileInfo := h.getFileInfo
  getGlobalFileInfo := h.getGlobalFileInfo
  dropCachedFileInfo := h.dropCachedFileInfo
  ensureFileHandle := h.ensureFileHandle
  ensureFile := h.ensureFile
  ensureAccessHandle := h.ensureAccessHandle
  releaseAccessHandle := h.releaseAccessHandle
  rebindFile := h.rebindFile
  dropCachedUrl := h.dropCachedUrl

theorem delivers (c : Call) : c.Delivers P := by
  cases c
  all_goals first
    | exact trivial
    | exact fun _ _ => h.heapSet _ _
    | exact h.accessWrite
    | exact h.accessTruncate
    | exact h.globAddPath _

theorem openFile (fileId flags : Nat) : Keeps P (openFile fileId flags) := h.toSteps.openFile _ _

/-- Every entry point keeps a property its effects keep. -/
theorem call (c : Call) : Keeps P c.run := h.toSteps.call c (h.delivers c)

/-- A property the effects keep holds after every sequence of calls. -/
theorem runCalls (cs : List Call) : ∀ w, P w → P (DuckdbWasm.runCalls cs w) :=
  h.toSteps.runCalls fun c _ => h.delivers c

end KeptByEffects

/-- `w'` has the engine, the network and the helpers of `w`. -/
def SameHost (w w' : World) : Prop := w'.engine = w.engine ∧ w'.net = w.net ∧ w'.imports = w.imports

theorem keeps_sameHost_of_frame {α : Type} {m : Js α} (w₀ : World) (hm : ∀ w, SameHost w (m w).2) :
    Keeps (SameHost w₀) m :=
  fun w ⟨he, hn, hi⟩ => let ⟨he', hn', hi'⟩ := hm w; ⟨he'.trans he, hn'.trans hn, hi'.trans hi⟩

theorem OpfsStep.sameHost {w w' : World} (h : OpfsStep w w') : SameHost w w' := by
  rw [h]
  exact ⟨rfl, rfl, rfl⟩

/-- The runtime changes neither the engine, nor the network, nor the helpers it imports. -/
theorem sameHost_keptByEffects (w₀ : World) : KeptByEffects (SameHost w₀) where
  send r _ := keeps_sameHost_of_frame w₀ fun w => by unfold send; split <;> exact ⟨rfl, rfl, rfl⟩
  malloc _ := keeps_sameHost_of_frame w₀ fun _ => ⟨rfl, rfl, rfl⟩
  heapSet _ _ := keeps_sameHost_of_frame w₀ fun _ => ⟨rfl, rfl, rfl⟩
  failWith _ := keeps_sameHost_of_frame w₀ fun _ => ⟨rfl, rfl, rfl⟩
  globAddPath _ := keeps_sameHost_of_frame w₀ fun _ => ⟨rfl, rfl, rfl⟩
  getFileInfo fileId := keeps_sameHost_of_frame w₀ fun w => by rw [getFileInfo_frame]; exact ⟨rfl, rfl, rfl⟩
  getGlobalFileInfo := keeps_sameHost_of_frame w₀ fun w => by rw [getGlobalFileInfo_run]; exact ⟨rfl, rfl, rfl⟩
  dropCachedFileInfo _ := keeps_sameHost_of_frame w₀ fun _ => ⟨rfl, rfl, rfl⟩
  ensureFileHandle ref fileName := keeps_sameHost_of_frame w₀ fun w => (ensureFileHandle_opfsStep ref fileName w).sameHost
  ensureFile ref := keeps_sameHost_of_frame w₀ fun w => (ensureFile_opfsStep ref w).sameHost
  ensureAccessHandle ref := keeps_sameHost_of_frame w₀ fun w => (ensureAccessHandle_opfsStep ref w).sameHost
  accessWrite a input offset := keeps_sameHost_of_frame w₀ fun w => (accessWrite_opfsStep a input offset w).sameHost
  accessTruncate a newSize := keeps_sameHost_of_frame w₀ fun w => (accessTruncate_opfsStep a newSize w).sameHost
  releaseAccessHandle ref := keeps_sameHost_of_frame w₀ fun w => (releaseAccessHandle_opfsStep ref w).sameHost
  rebindFile _ _ := keeps_sameHost_of_frame w₀ fun _ => ⟨rfl, rfl, rfl⟩
  dropCachedUrl _ := keeps_sameHost_of_frame w₀ fun _ => ⟨rfl, rfl, rfl⟩

theorem runCalls_sameHost (cs : List Call) (w : World) : SameHost w (runCalls cs w) :=
  (sameHost_keptByEffects w).runCalls cs w ⟨rfl, rfl, rfl⟩

end DuckdbWasm
