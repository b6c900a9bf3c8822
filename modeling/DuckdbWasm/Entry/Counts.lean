import DuckdbWasm.Entry.Exceptions
import DuckdbWasm.Frame.Keeps
import DuckdbWasm.Ladder.ReadOpen
import DuckdbWasm.Opfs.Store

/-! # The counts readFile and writeFile report

The engine takes readFile's result as the number of bytes it may use at `buf`, and
writeFile's as the number of bytes written. Every branch of readFile bounds its copy by
`bytes`: the HTTP branch views at most `min(length, bytes)` bytes of the body, Blob.slice
takes at most `bytes`, and an access handle reads into a `bytes`-long buffer. writeFile
returns 0 on every branch that refuses or fails, and otherwise the whole count: the S3 branch
returns `bytes`, and the OPFS branch the length of the `bytes` heap bytes it wrote.
-/
namespace DuckdbWasm
open Js

/-- Every normal return of `m` satisfies `Q`. -/
def Ensures (Q : α → Prop) (m : Js α) : Prop := ∀ w a, (m w).1 = .normal a → Q a

namespace Ensures
variable {α β : Type} {Q : α → Prop} {m : Js α}

theorem any (m : Js α) : Ensures (fun _ => True) m := fun _ _ _ => trivial

theorem pure {a : α} (h : Q a) : Ensures Q (Pure.pure a : Js α) := fun _ _ ha => by
  cases ha
  exact h

theorem throw (e : Thrown) : Ensures Q (Js.throw e : Js α) := fun _ _ h => by cases h

theorem bind {R : β → Prop} {f : α → Js β} (hm : Ensures Q m) (hf : ∀ a, Q a → Ensures R (f a)) :
    Ensures R (m >>= f) := fun w b h => by
  simp only [bind_run] at h
  rcases hr : m w with ⟨a | e, w'⟩ <;> rw [hr] at h
  · exact hf a (hm w a (by rw [hr])) w' b h
  · cases h

theorem tryCatch {handler : Thrown → Js α} (hm : Ensures Q m) (hh : ∀ e, Ensures Q (handler e)) :
    Ensures Q (Js.tryCatch m handler) := fun w b h => by
  simp only [tryCatch_run] at h
  rcases hr : m w with ⟨a | e, w'⟩ <;> rw [hr] at h
  · cases h
    exact hm w _ (by rw [hr])
  · exact hh e w' b h

theorem ite {c : Prop} {_ : Decidable c} {m m' : Js α} (hm : Ensures Q m) (hm' : Ensures Q m') :
    Ensures Q (if c then m else m') := by
  split
  · exact hm
  · exact hm'

end Ensures

theorem uint8ArrayView_count (buffer : List UInt8) (offset : Nat) (length : Int) :
    Ensures (·.length ≤ length.toNat) (uint8ArrayView buffer offset length) :=
  fun _ _ hs => uint8ArrayView_length hs

theorem heapRead_count (buf bytes : Nat) : Ensures (·.length = bytes) (read fun w => w.heap.read buf bytes) :=
  fun _ _ h => by
    cases h
    simp [Heap.read]

section Read
variable {buf bytes : Nat}

theorem readRemoteFile_count (im : Imports) (file : FileInfo) (fileId location : Nat) :
    Ensures (· ≤ bytes) (readRemoteFile im file fileId buf bytes location) :=
  .ite (.throw _) (.tryCatch ((Ensures.any _).bind fun _ _ =>
    .ite ((uint8ArrayView_count _ _ _).bind fun _ hs => (Ensures.any _).bind fun _ _ => .pure (hs.trans (by omega)))
      (.ite ((uint8ArrayView_count _ _ _).bind fun _ hs => (Ensures.any _).bind fun _ _ =>
        .pure (hs.trans (by omega))) (.throw _))) fun _ => .throw _)

theorem readBlobFile_count (file : FileInfo) (location : Nat) :
    Ensures (· ≤ bytes) (readBlobFile file buf bytes location) := by
  refine (Ensures.any _).bind fun o _ => ?_
  rcases o with _ | _ | _
  · exact .throw _
  · exact (Ensures.any _).bind fun _ _ => .pure (List.length_take_le _ _)
  · exact .throw _

theorem accessRead_count (a offset : Nat) : Ensures (·.2 ≤ bytes) (accessRead a bytes offset) := fun w r h => by
  simp only [accessRead, bind_run] at h
  revert h
  rcases openAccessHandle a w with ⟨_ | _, _⟩
  · intro h
    simp only [read_run, pure_run, Completion.normal.injEq] at h
    rw [← h]
    exact List.length_take_le _ _
  · intro h
    cases h

theorem readOPFSFile_count (fileName : String) (location : Nat) :
    Ensures (· ≤ bytes) (readOPFSFile fileName buf bytes location) :=
  (Ensures.any _).bind fun _ _ => (Ensures.any _).bind fun _ _ => (Ensures.any _).bind fun _ _ =>
    (accessRead_count _ _).bind fun _ hn => (Ensures.any _).bind fun _ _ => .pure hn

end Read

/-- readFile always returns, with a count of at most `bytes`, from every world and whatever
the server answers. -/
theorem readFile_count (fileId buf bytes location : Nat) (w : World) :
    ∃ n, (readFile fileId buf bytes location w).1 = .normal n ∧ n ≤ bytes := by
  have h : Ensures (· ≤ bytes) (readFile fileId buf bytes location) := by
    refine .ite (.pure (Nat.zero_le _)) (.tryCatch ((Ensures.any _).bind fun _ _ => (Ensures.any _).bind
      fun file _ => ?_) fun _ => (Ensures.any _).bind fun _ _ => .pure (Nat.zero_le _))
    rcases file with _ | file
    · exact .pure (Nat.zero_le _)
    · dsimp only
      split
      all_goals first
        | exact readRemoteFile_count _ _ _ _
        | exact readBlobFile_count _ _
        | exact readOPFSFile_count _ _
        | exact .pure (Nat.zero_le _)
  obtain ⟨n, hn⟩ := readFile_returns fileId buf bytes location w
  exact ⟨n, hn, h w n hn⟩

theorem writeOPFSFile_count (fileName : String) (buf bytes location : Nat) :
    Ensures (· = bytes) (writeOPFSFile fileName buf bytes location) :=
  (Ensures.any _).bind fun _ _ => (Ensures.any _).bind fun _ _ =>
    (heapRead_count buf bytes).bind fun _ hi =>
      (Ensures.any _).bind fun _ _ => (Ensures.any _).bind fun _ _ => (Ensures.any _).bind fun _ _ =>
        (Ensures.any _).bind fun _ _ => .pure hi

/-- The S3 branch of writeFile returns the whole count exactly when its PUT is answered 200. -/
theorem writeS3File_count {im : Imports} {file : FileInfo} {buf bytes n : Nat} {w : World} {resp : Response}
    (hresp : w.answer (putRequest im file (w.heap.read buf bytes)) = .response resp)
    (h : (writeS3File im file buf bytes w).1 = .normal n) : n = if resp.status = 200 then bytes else 0 := by
  simp only [writeS3File, bind_run, read_run, send_response hresp] at h
  by_cases hs : resp.status = 200 <;> simp [hs, failWith] at h ⊢ <;> exact h.symm

/-- The S3 object `data.parquet` under file id 1. -/
def s3Parquet : FileInfo := ⟨1, 1, "data.parquet", .S3, some "s3://bucket/data.parquet", false, false, some ⟨[]⟩⟩

/-- The answer of an S3 endpoint that accepts a request. -/
def s3Accepted : Response := ⟨200, "OK", none, none, []⟩

/-- A runtime writing `data.parquet` to an S3 endpoint that accepts every request. -/
def s3Accepting : World :=
  World.fresh Imports.duckdb (Engine.ofFiles [s3Parquet]) (fun _ _ => .response s3Accepted) [] (fun _ => .blob [])
    Opfs.empty

end DuckdbWasm
