import DuckdbWasm.Frame.Keeps

/-! # What the runtime writes in the wasm heap

Below the break a call starts from lies the engine's memory. The runtime stores bytes there only
in readFile's window `[buf, buf + bytes)`; every other byte it stores, by `HEAPU8.set` or in a
`HEAPF64` slot of a descriptor, lies in a block `_malloc` has just handed out. With `_malloc` a
bump allocator, a byte below the starting break outside every readFile window of a run keeps
its value.
-/
namespace DuckdbWasm
open Js

/-- `w` has the heap bytes `w₀` had below its break, except at the addresses `W` allows, and
a break no lower. -/
def HeapKept (W : Nat → Prop) (w₀ w : World) : Prop :=
  w₀.heap.brk ≤ w.heap.brk ∧ ∀ i, i < w₀.heap.brk → ¬ W i → w.heap.bytes i = w₀.heap.bytes i

/-- The heap addresses a call may write below the break it starts from: readFile's window. -/
def Call.writes : Call → Nat → Prop
  | .readFile _ buf bytes _, i => buf ≤ i ∧ i < buf + bytes
  | _, _ => False

namespace HeapKept
variable {W : Nat → Prop} {w₀ : World} {α β : Type}

theorem refl (W : Nat → Prop) (w : World) : HeapKept W w w := ⟨le_rfl, fun _ _ _ => rfl⟩

/-- A computation that leaves the heap as it was. -/
theorem of_heap {m : Js α} (hm : ∀ w, (m w).2.heap = w.heap) : Keeps (HeapKept W w₀) m := fun w h => by
  unfold HeapKept
  rw [hm w]
  exact h

theorem of_opfsStep {m : Js α} (hm : ∀ w, OpfsStep w (m w).2) : Keeps (HeapKept W w₀) m :=
  of_heap fun w => by rw [hm w]

theorem malloc (n : Nat) : Keeps (HeapKept W w₀) (malloc n) := fun _ h =>
  ⟨Nat.le_trans h.1 (Nat.le_add_right _ _), h.2⟩

/-- What follows an allocation may store into the new block: it is 8-aligned and lies above
`w₀`'s break. -/
theorem malloc_bind {f : Nat → Js β} (n : Nat)
    (hf : ∀ p, w₀.heap.brk ≤ p ∧ p % 8 = 0 → Keeps (HeapKept W w₀) (f p)) :
    Keeps (HeapKept W w₀) (DuckdbWasm.malloc n >>= f) :=
  (malloc n).bind_of (fun w h _ ha => by cases ha; exact ⟨h.1, w.heap.brk_aligned⟩) hf

theorem heapSet_fresh {src : List UInt8} {offset : Nat} (ho : w₀.heap.brk ≤ offset) :
    Keeps (HeapKept W w₀) (heapSet src offset) := fun w h =>
  ⟨h.1, fun i hi hW => (Heap.set_bytes_outside w.heap src (.inl (by omega))).trans (h.2 i hi hW)⟩

/-- A HEAPF64 store into a slot of an 8-aligned block above `w₀`'s break. -/
theorem setF64_fresh {p : Nat} (hp : w₀.heap.brk ≤ p ∧ p % 8 = 0) (k : Nat) (v : JsNumber) :
    Keeps (HeapKept W w₀) (setF64 (p / 8 + k) v) :=
  heapSet_fresh (by omega)

theorem heapSet_within {src : List UInt8} {offset : Nat} (hw : ∀ i, offset ≤ i → i < offset + src.length → W i) :
    Keeps (HeapKept W w₀) (heapSet src offset) := fun w h =>
  ⟨h.1, fun i hi hW => (Heap.set_bytes_outside w.heap src (by
    by_contra hc
    exact hW (hw i (by omega) (by omega)))).trans (h.2 i hi hW)⟩

/-- Every step any call takes keeps the heap below the break, whatever `W` allows. -/
theorem keptBySteps (W : Nat → Prop) (w₀ : World) : KeptBySteps (HeapKept W w₀) where
  send _ _ := of_heap fun w => by unfold send; split <;> rfl
  malloc := malloc
  alloc _ _ _ hf := malloc_bind _ fun p hp => (heapSet_fresh hp.1).bind fun _ => hf p
  openedFile _ _ := malloc_bind _ fun _ hp => (setF64_fresh hp 0 _).bind fun _ =>
    (setF64_fresh hp 1 _).bind fun _ => Keeps.pure _
  emptyBufferedFile := malloc_bind _ fun _ hp => (malloc _).bind fun _ => (setF64_fresh hp 0 _).bind fun _ =>
    (setF64_fresh hp 1 _).bind fun _ => Keeps.pure _
  failWith _ := of_heap fun _ => rfl
  getFileInfo _ := of_heap fun w => by rw [getFileInfo_frame]
  getGlobalFileInfo := of_heap fun w => by rw [getGlobalFileInfo_run]
  dropCachedFileInfo _ := of_heap fun _ => rfl
  ensureFileHandle ref fileName := of_opfsStep (ensureFileHandle_opfsStep ref fileName)
  ensureFile ref := of_opfsStep (ensureFile_opfsStep ref)
  ensureAccessHandle ref := of_opfsStep (ensureAccessHandle_opfsStep ref)
  releaseAccessHandle ref := of_opfsStep (releaseAccessHandle_opfsStep ref)
  rebindFile _ _ := of_heap fun _ => rfl
  dropCachedUrl _ := of_heap fun _ => rfl

/-- A call delivers the heap frame of any `W` that holds its window. -/
theorem delivers (c : Call) (hW : ∀ i, c.writes i → W i) : c.Delivers (HeapKept W w₀) := by
  cases c with
  | readFile _ buf bytes _ => exact fun _ hs => heapSet_within fun i h1 h2 => hW i ⟨h1, by omega⟩
  | writeFile => exact fun a input offset => of_opfsStep (accessWrite_opfsStep a input offset)
  | truncateFile => exact fun a newSize => of_opfsStep (accessTruncate_opfsStep a newSize)
  | glob => exact of_heap fun _ => rfl
  | _ => trivial

end HeapKept

/-- Along every run of calls, with the bump allocator, the break never goes down, and a heap
byte below the break the run started from keeps its value unless it lies in the window of one
of the run's readFile calls. -/
theorem runCalls_heapKept (cs : List Call) (w : World) :
    HeapKept (fun i => ∃ c ∈ cs, c.writes i) w (runCalls cs w) :=
  (HeapKept.keptBySteps _ w).runCalls (fun c hc => HeapKept.delivers c fun _ h => ⟨c, hc, h⟩) w
    (HeapKept.refl _ w)

end DuckdbWasm
