import DuckdbWasm.Frame.Keeps

/-! # Failures reported to the engine

The engine learns of a failed call through failWith, which the runtime calls in its catch
blocks and in the branches that refuse a file or a request. No entry point calls it twice:
every step but failWith leaves the failures alone, each catch block runs after a body that
reported nothing, and what follows a failWith only returns. So every call records at most one
failure, and a call that throws into the engine records none.
-/
namespace DuckdbWasm
open Js

/-- `m` records no failure. -/
def Quiet (m : Js α) : Prop := ∀ w, (m w).2.failures = w.failures

/-- `m` records at most one failure, and none when it throws. -/
def ReportsOnce (m : Js α) : Prop :=
  ∀ w, (m w).2.failures = w.failures ∨
    (∃ a, (m w).1 = .normal a) ∧ ∃ message, (m w).2.failures = w.failures ++ [message]

theorem keeps_failures {m : Js α} (hm : ∀ w, (m w).2.failures = w.failures) (k : List String) :
    Keeps (fun w => w.failures = k) m := fun w h => (hm w).trans h

theorem keeps_failures_of_opfsStep {m : Js α} (hm : ∀ w, OpfsStep w (m w).2) (k : List String) :
    Keeps (fun w => w.failures = k) m :=
  keeps_failures (fun w => by rw [hm w]) k

/-- Every step but failWith leaves the failures alone. -/
theorem failures_keptByQuietSteps (k : List String) : KeptByQuietSteps (fun w => w.failures = k) where
  send _ _ := keeps_failures (fun w => by unfold send; split <;> rfl) k
  malloc _ := keeps_failures (fun _ => rfl) k
  alloc _ _ _ hf := (keeps_failures (fun _ => rfl) k).bind fun p =>
    (keeps_failures (fun _ => rfl) k).bind fun _ => hf p
  openedFile _ _ := keeps_failures (fun _ => rfl) k
  emptyBufferedFile := keeps_failures (fun _ => rfl) k
  getFileInfo _ := keeps_failures (fun w => by rw [getFileInfo_frame]) k
  getGlobalFileInfo := keeps_failures (fun w => by rw [getGlobalFileInfo_run]) k
  dropCachedFileInfo _ := keeps_failures (fun _ => rfl) k
  ensureFileHandle ref fileName := keeps_failures_of_opfsStep (ensureFileHandle_opfsStep ref fileName) k
  ensureFile ref := keeps_failures_of_opfsStep (ensureFile_opfsStep ref) k
  ensureAccessHandle ref := keeps_failures_of_opfsStep (ensureAccessHandle_opfsStep ref) k
  releaseAccessHandle ref := keeps_failures_of_opfsStep (releaseAccessHandle_opfsStep ref) k
  rebindFile _ _ := keeps_failures (fun _ => rfl) k
  dropCachedUrl _ := keeps_failures (fun _ => rfl) k

/-- A computation built from the steps but failWith records no failure. -/
theorem quiet {m : Js α}
    (h : ∀ k, KeptByQuietSteps (fun w => w.failures = k) → Keeps (fun w => w.failures = k) m) : Quiet m :=
  fun w => h _ (failures_keptByQuietSteps _) w rfl

/-- heapSet and glob's registration record no failure. -/
theorem heapSet_failures (src : List UInt8) (offset : Nat) (k : List String) :
    Keeps (fun w => w.failures = k) (heapSet src offset) :=
  keeps_failures (fun _ => rfl) k

theorem globAddPath_quiet (path : String) : Quiet (globAddPath path) := fun _ => rfl

namespace ReportsOnce
variable {α β : Type} {m : Js α}

theorem of_quiet (h : Quiet m) : ReportsOnce m := fun w => .inl (h w)

theorem failWith (message : String) : ReportsOnce (failWith message) := fun _ => .inr ⟨⟨(), rfl⟩, message, rfl⟩

theorem map (f : α → β) (hm : ReportsOnce m) : ReportsOnce (f <$> m) := fun w => by
  have hw := hm w
  simp only [map_run]
  rcases hr : m w with ⟨a | e, w'⟩ <;> rw [hr] at hw <;> dsimp only at hw ⊢
  · rcases hw with h | ⟨_, message, h⟩
    · exact .inl h
    · exact .inr ⟨⟨f a, rfl⟩, message, h⟩
  · exact .inl (hw.resolve_right fun ⟨⟨_, h⟩, _⟩ => by cases h)

/-- What follows a failWith only returns. -/
theorem then_pure (hm : ReportsOnce m) (b : β) : ReportsOnce (m >>= fun _ => pure b) :=
  hm.map fun _ => b

/-- A step that records nothing may come first. -/
theorem bind_quiet {f : α → Js β} (hm : Quiet m) (hf : ∀ a, ReportsOnce (f a)) : ReportsOnce (m >>= f) :=
  fun w => by
    have hw := hm w
    simp only [bind_run]
    rcases hr : m w with ⟨a | e, w'⟩ <;> rw [hr] at hw <;> dsimp only at hw ⊢
    · rw [← hw]
      exact hf a w'
    · exact .inl hw

/-- A catch block runs after a body that threw, which recorded nothing. -/
theorem tryCatch {handler : Thrown → Js α} (hm : ReportsOnce m) (hh : ∀ e, ReportsOnce (handler e)) :
    ReportsOnce (Js.tryCatch m handler) := fun w => by
  have hw := hm w
  simp only [tryCatch_run]
  rcases hr : m w with ⟨a | e, w'⟩ <;> rw [hr] at hw <;> dsimp only at hw ⊢
  · exact hw
  · rw [← hw.resolve_right fun ⟨⟨_, h⟩, _⟩ => by cases h]
    exact hh e w'

theorem ite {c : Prop} {_ : Decidable c} {m m' : Js α} (hm : ReportsOnce m) (hm' : ReportsOnce m') :
    ReportsOnce (if c then m else m') := by
  split
  · exact hm
  · exact hm'

end ReportsOnce

theorem openFile_reportsOnce (fileId flags : Nat) : ReportsOnce (openFile fileId flags) := by
  refine .tryCatch (.of_quiet (quiet fun _ h => (h.dropCachedFileInfo _).bind fun _ => (h.getFileInfo _).bind
    fun file => (Keeps.read _).bind fun im => ?_)) fun _ => (ReportsOnce.failWith _).then_pure _
  rcases file with _ | file
  · exact Keeps.throw _
  · dsimp only
    split
    all_goals first
      | exact Keeps.throw _
      | exact h.openRemoteFile _ _ _
      | exact h.openFileReaderFile _
      | exact h.openOPFSFile _

theorem openFileAsync_reportsOnce (fileId flags : Nat) :
    ReportsOnce (autoThrowWASMError (openFileAsync fileId flags)) := by
  refine .tryCatch (.map _ (.tryCatch (.of_quiet (quiet fun _ h => (h.dropCachedFileInfo _).bind fun _ =>
    (h.getFileInfo _).bind fun file => ?_)) fun _ => (ReportsOnce.failWith _).then_pure _))
    fun _ => (ReportsOnce.failWith _).then_pure _
  rcases file with _ | file
  · exact Keeps.throw _
  · exact Keeps.ite (h.acquireOPFSFile _) ((Keeps.read _).bind fun _ => Keeps.throw _)

theorem readFile_reportsOnce (fileId buf bytes location : Nat) :
    ReportsOnce (readFile fileId buf bytes location) := by
  refine .ite (.of_quiet fun _ => rfl) (.tryCatch (.of_quiet (quiet fun k h => (Keeps.read _).bind fun im =>
    (h.getFileInfo _).bind fun file => ?_)) fun _ => (ReportsOnce.failWith _).then_pure _)
  have hcopy : ∀ src : List UInt8, src.length ≤ bytes → Keeps (fun w => w.failures = k) (heapSet src buf) :=
    fun _ _ => heapSet_failures _ _ k
  rcases file with _ | file
  · exact Keeps.pure _
  · dsimp only
    split
    all_goals first
      | exact Keeps.pure _
      | exact h.readRemoteFile hcopy _ _ _ _
      | exact KeptByQuietSteps.readBlobFile hcopy _ _
      | exact KeptByQuietSteps.readOPFSFile hcopy _ _

theorem writeFile_reportsOnce (fileId buf bytes location : Nat) :
    ReportsOnce (writeFile fileId buf bytes location) := by
  refine .bind_quiet (fun _ => rfl) fun im => .bind_quiet (quiet fun _ h => h.getFileInfo fileId) fun file => ?_
  rcases file with _ | file
  · exact .of_quiet fun _ => rfl
  · dsimp only
    split
    all_goals first
      | exact .of_quiet fun _ => rfl
      | exact (ReportsOnce.failWith _).then_pure _
      | exact .of_quiet (quiet fun k _ => KeptByQuietSteps.writeOPFSFile
          (fun a input offset => keeps_failures_of_opfsStep (accessWrite_opfsStep a input offset) k) _ _ _ _)
      | exact .bind_quiet (fun _ => rfl) fun _ => .bind_quiet (quiet fun _ h => h.send _ (.put ..)) fun _ =>
          .ite ((ReportsOnce.failWith _).then_pure _) (.of_quiet fun _ => rfl)

theorem truncateFile_reportsOnce (fileId newSize : Nat) : ReportsOnce (truncateFile fileId newSize) := by
  refine .bind_quiet (quiet fun _ h => h.getFileInfo fileId) fun file => ?_
  rcases file with _ | file
  · exact .of_quiet fun _ => rfl
  · dsimp only
    split
    all_goals first
      | exact ReportsOnce.failWith _
      | exact .bind_quiet (fun _ => rfl) fun _ => .tryCatch (.of_quiet (quiet fun k _ =>
          (keeps_of_frame (assertOPFS_frame _ _ _) _).bind fun _ => (keeps_of_frame (accessHandleOf_frame _ _) _).bind
            fun _ => keeps_failures_of_opfsStep (accessTruncate_opfsStep _ _) k))
          fun _ => ReportsOnce.failWith _

theorem glob_reportsOnce (path : String) : ReportsOnce (glob path) :=
  .tryCatch (.ite (.bind_quiet (fun _ => rfl) fun _ => .bind_quiet (quiet fun _ h => h.globalInfoFor path) fun _ =>
    .bind_quiet (quiet fun _ h => h.send _ (.path ..)) fun _ =>
      .ite (.bind_quiet (quiet fun _ h => h.getGlobalFileInfo) fun _ => .ite (.failWith _)
          (.bind_quiet (quiet fun _ h => h.globalInfoFor path) fun _ =>
            .bind_quiet (quiet fun _ h => h.send _ (.globFallback ..)) fun _ =>
              .ite (.failWith _) (.of_quiet (globAddPath_quiet path))))
        (.of_quiet (globAddPath_quiet path)))
    (.of_quiet fun _ => rfl))
    fun _ => .failWith _

/-- Every entry point records at most one failure through failWith, and none when it throws
into the engine. -/
theorem Call.reportsOnce (c : Call) (w : World) :
    (c.run w).2.failures = w.failures ∨
      (∃ a, (c.run w).1 = .normal a) ∧ ∃ message, (c.run w).2.failures = w.failures ++ [message] := by
  have h : ReportsOnce c.run := by
    cases c with
    | openFile => exact (openFile_reportsOnce _ _).map _
    | openFileAsync => exact (openFileAsync_reportsOnce _ _).map _
    | readFile => exact (readFile_reportsOnce _ _ _ _).map _
    | writeFile => exact (writeFile_reportsOnce _ _ _ _).map _
    | truncateFile => exact truncateFile_reportsOnce _ _
    | closeFile => exact .of_quiet (quiet fun _ h => h.closeFile _)
    | closeFileByName => exact .of_quiet (quiet fun _ h => Keeps.map _ (h.closeFileByName _))
    | glob => exact glob_reportsOnce _
    | checkFile => exact .of_quiet (quiet fun _ h => Keeps.map _ (h.checkFile _))
    | getLastFileModificationTime => exact .of_quiet (quiet fun _ h => Keeps.map _ (h.getLastFileModificationTime _))
    | moveFile => exact .of_quiet (quiet fun _ h => Keeps.map _ (h.moveFile _ _))
    | getFileInfo => exact .of_quiet (quiet fun _ h => Keeps.map _ (h.getFileInfo _))
    | getGlobalFileInfo => exact .of_quiet (quiet fun _ h => Keeps.map _ h.getGlobalFileInfo)
  exact h w

end DuckdbWasm
