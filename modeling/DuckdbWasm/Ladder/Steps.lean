import DuckdbWasm.Runtime.OpenFile

/-! # The steps of openFile's read ladder

Each step of the ladder run on a world whose server's next answer is known: what the step
returns and which requests it logs. The properties of the whole ladder are assembled from
these lemmas and never unfold a step, so a change to one step of the code is a change to
one lemma here. `Grows w w' new` is how far a step may move the world: it sends the
requests `new` and may allocate on the heap; nothing else changes before openFile's catch.
-/
namespace DuckdbWasm
open Js

/-- `w'` is `w` after the requests `new` were sent, with its heap possibly changed. -/
structure Grows (w w' : World) (new : List (Request × Answer)) : Prop where
  sent : w'.sent = w.sent ++ new
  rest : w' = { w with sent := w'.sent, heap := w'.heap }

namespace Grows
variable {w w₁ w₂ : World} {n₁ n₂ : List (Request × Answer)}

theorem refl (w : World) : Grows w w [] := ⟨(List.append_nil _).symm, rfl⟩

theorem record (w : World) (r : Request) (a : Answer) : Grows w (w.record r a) [(r, a)] := ⟨rfl, rfl⟩

theorem of_heap (h : w₁ = { w with heap := w₁.heap }) : Grows w w₁ [] where
  sent := by rw [h]; exact (List.append_nil _).symm
  rest := by rw [h]

theorem trans (h₁ : Grows w w₁ n₁) (h₂ : Grows w₁ w₂ n₂) : Grows w w₂ (n₁ ++ n₂) where
  sent := by rw [h₂.sent, h₁.sent, List.append_assoc]
  rest := h₂.rest.trans (congrArg (fun x : World => { x with sent := w₂.sent, heap := w₂.heap }) h₁.rest)

theorem failures (h : Grows w w₁ n₁) : w₁.failures = w.failures := by rw [h.rest]

theorem net (h : Grows w w₁ n₁) : w₁.net = w.net := by rw [h.rest]

end Grows

/-- Every request in `log` got a response: none met a network error. -/
def AllAnswered (log : List (Request × Answer)) : Prop := ∀ e ∈ log, ∃ r, e.2 = .response r

theorem AllAnswered.append {l₁ l₂ : List (Request × Answer)} (h₁ : AllAnswered l₁) (h₂ : AllAnswered l₂) :
    AllAnswered (l₁ ++ l₂) := by
  intro e he
  rcases List.mem_append.mp he with h | h
  exacts [h₁ e h, h₂ e h]

theorem AllAnswered.response (r : Request) (resp : Response) : AllAnswered [(r, .response resp)] := by
  simp [AllAnswered]

/-- The block at `v` of heap `h` describes `C`: its size is |C|, and its buffer, unless it is
0 (reads then go to the server with ranges), holds `C`. -/
def Describes (C : List UInt8) (h : Heap) (v : Nat) : Prop :=
  ∃ buffer : Nat, h.descriptor v = (f64Bytes (.num C.length), f64Bytes (.num buffer)) ∧
    (buffer ≠ 0 → h.read buffer C.length = C)

theorem openedFile_grows (size : JsNumber) (buffer : Nat) (w : World) :
    Grows w (openedFile size buffer w).2 [] :=
  Grows.of_heap (openedFile_frame size buffer w)

/-- The ranged descriptor of a file of |C| bytes describes `C`. -/
theorem openedFile_describes (C : List UInt8) (w : World) :
    (openedFile (.num C.length) 0 w).1 = .normal w.heap.brk ∧
      Describes C (openedFile (.num C.length) 0 w).2.heap w.heap.brk := by
  obtain ⟨h1, h2, -⟩ := openedFile_spec (.num C.length) 0 w
  exact ⟨h1, 0, h2, fun h => absurd rfl h⟩

/-- The buffered descriptor of a download of `C` describes `C`, with a buffer that is not 0. -/
theorem bufferedFile_describes (C : List UInt8) (w : World) :
    ∃ v, (bufferedFile C w).1 = .normal v ∧ Grows w (bufferedFile C w).2 [] ∧
      (bufferedFile C w).2.heap.descriptor v = (f64Bytes (.num C.length), f64Bytes (.num w.heap.brk)) ∧
      Describes C (bufferedFile C w).2.heap v := by
  obtain ⟨v, h1, h2, h3, h4⟩ := bufferedFile_spec C w
  exact ⟨v, h1, Grows.of_heap h2, h3, w.heap.brk, h3, fun _ => h4⟩

/-- The bytes of `C` a Range header asks for: `bytes=first-` or `bytes=first-last`. -/
def window (C : List UInt8) (range : ByteRange) : List UInt8 :=
  match range.last with
  | none => C.drop range.first
  | some last => (C.drop range.first).take (last + 1 - range.first)

@[simp] theorem window_rangeAll (C : List UInt8) : window C rangeAll = C := rfl

section Steps
variable {im : Imports} {file : FileInfo} {w : World}

theorem World.answer_record (w : World) (r r' : Request) (a : Answer) :
    (w.record r a).answer r' = w.net (w.sent.length + 1) r' := by
  simp [World.answer]
  rfl

/-- A HEAD answered with any status but 206 falls through, with no error. -/
theorem HeadProbe.ofResponse_of_ne {xhr : Response} (h : xhr.status ≠ 206) :
    ∃ contentLength, HeadProbe.ofResponse xhr = .fallThrough contentLength none := by
  unfold HeadProbe.ofResponse
  split
  · exact ⟨_, if_neg h⟩
  · exact ⟨_, rfl⟩

/-- A HEAD answer falls through unless it is a 206 carrying a Content-Length. -/
theorem HeadProbe.ofResponse_fallThrough {xhr : Response} {contentLength : Option JsNumber} {error : Option Thrown}
    (h : HeadProbe.ofResponse xhr = .fallThrough contentLength error) : xhr.status ≠ 206 ∨ xhr.contentLength = none := by
  unfold HeadProbe.ofResponse at h
  rcases hl : xhr.contentLength with _ | l
  · exact .inr rfl
  · rw [hl] at h
    exact .inl fun h206 => by simp [h206] at h

/-- A HEAD answered 200 falls through with its Content-Length. -/
theorem HeadProbe.ofResponse_ok (text : String) (contentLength : Option JsNumber) (contentRange : Option ContentRange)
    (body : List UInt8) :
    HeadProbe.ofResponse ⟨200, text, contentLength, contentRange, body⟩ = .fallThrough contentLength none := by
  cases contentLength <;> rfl

theorem rangedHead_skipped (h : (file.reliableHeadRequests || !file.allowFullHttpReads) = false) :
    rangedHead im file w = (.normal (.fallThrough none none), w) := by
  simp only [rangedHead, h, Bool.false_eq_true, if_false, pure_run]

theorem rangedHead_answered {r : Response} (h : (file.reliableHeadRequests || !file.allowFullHttpReads) = true)
    (ha : w.answer (rangedHeadRequest im file) = .response r) :
    rangedHead im file w =
      (.normal (HeadProbe.ofResponse r), w.record (rangedHeadRequest im file) (.response r)) := by
  simp only [rangedHead, h, if_true, tryCatch_run, map_run, send_response ha]

theorem rangedHead_aborted {e : Thrown} (h : (file.reliableHeadRequests || !file.allowFullHttpReads) = true)
    (ha : w.answer (rangedHeadRequest im file) = .abort e) :
    rangedHead im file w =
      (.normal (.fallThrough none (some e)), w.record (rangedHeadRequest im file) (.abort e)) := by
  simp only [rangedHead, h, if_true, tryCatch_run, map_run, send_abort ha, pure_run]

theorem presumeLength_shown (total : JsNumber) (contentLength : Option JsNumber) :
    presumeLength im file (some total) contentLength w = (.normal (some total, contentLength), w) := rfl

theorem presumeLength_trusted (hrel : file.reliableHeadRequests = true) (contentLength : Option JsNumber) :
    presumeLength im file none contentLength w = (.normal (none, contentLength), w) := by
  simp only [presumeLength, hrel, if_true, pure_run]

theorem presumeLength_answered {head : Response} (hrel : file.reliableHeadRequests = false)
    (ha : w.answer (rangedHeadRequest im file) = .response head) (contentLength : Option JsNumber) :
    presumeLength im file none contentLength w =
      (.normal (if head.contentLength.any (·.gt 1) then head.contentLength else none, head.contentLength),
        w.record (rangedHeadRequest im file) (.response head)) := by
  simp only [presumeLength, hrel, Bool.false_eq_true, if_false, bind_run, send_response ha, pure_run]

theorem presumeLength_aborted {e : Thrown} (hrel : file.reliableHeadRequests = false)
    (ha : w.answer (rangedHeadRequest im file) = .abort e) (contentLength : Option JsNumber) :
    presumeLength im file none contentLength w = (.thrown e, w.record (rangedHeadRequest im file) (.abort e)) := by
  simp only [presumeLength, hrel, Bool.false_eq_true, if_false, bind_run, send_abort ha]

theorem firstByteSettle_ranged {xhr : Response} {presumedLength contentLength : Option JsNumber}
    {length : JsNumber} (h : firstByteRanged xhr presumedLength = some length) :
    firstByteSettle xhr presumedLength contentLength w = (.normal (some w.heap.brk), (openedFile length 0 w).2) := by
  simp only [firstByteSettle, h, map_run]
  rfl

theorem firstByteSettle_complete {xhr : Response} {presumedLength contentLength : Option JsNumber}
    (h : firstByteRanged xhr presumedLength = none) (hc : firstByteComplete xhr contentLength = true) :
    firstByteSettle xhr presumedLength contentLength w = (some <$> bufferedFile xhr.body) w := by
  simp only [firstByteSettle, h, hc, if_true]

theorem firstByteSettle_unsettled {xhr : Response} {presumedLength contentLength : Option JsNumber}
    (h : firstByteRanged xhr presumedLength = none) (hc : firstByteComplete xhr contentLength = false) :
    firstByteSettle xhr presumedLength contentLength w = (.normal none, w) := by
  simp only [firstByteSettle, h, hc, Bool.false_eq_true, if_false, pure_run]

theorem firstByteProbe_answered {xhr : Response} (ha : w.answer (firstByteRequest im file) = .response xhr)
    (contentLength : Option JsNumber) :
    firstByteProbe im file contentLength w =
      (presumeLength im file (xhr.contentRange.bind (·.total)) contentLength >>= fun p =>
        firstByteSettle xhr p.1 p.2) (w.record (firstByteRequest im file) (.response xhr)) := by
  simp only [firstByteProbe, bind_run, send_response ha]

theorem firstByteProbe_aborted {e : Thrown} (ha : w.answer (firstByteRequest im file) = .abort e)
    (contentLength : Option JsNumber) :
    firstByteProbe im file contentLength w = (.thrown e, w.record (firstByteRequest im file) (.abort e)) := by
  simp only [firstByteProbe, bind_run, send_abort ha]

theorem fullRead_ok {xhr : Response} {error : Option Thrown} (ha : w.answer (fullRequest im file) = .response xhr)
    (hs : xhr.status = 200) :
    fullRead im file error w = bufferedFile xhr.body (w.record (fullRequest im file) (.response xhr)) := by
  simp only [fullRead, bind_run, send_response ha, hs, if_true]

theorem fullRead_refused {xhr : Response} {error : Option Thrown}
    (ha : w.answer (fullRequest im file) = .response xhr) (hs : xhr.status ≠ 200) :
    fullRead im file error w = readFailed file error (w.record (fullRequest im file) (.response xhr)) := by
  simp only [fullRead, bind_run, send_response ha, hs, if_false]

theorem fullRead_aborted {e : Thrown} {error : Option Thrown} (ha : w.answer (fullRequest im file) = .abort e) :
    fullRead im file error w = (.thrown e, w.record (fullRequest im file) (.abort e)) := by
  simp only [fullRead, bind_run, send_abort ha]

theorem fallBack_disallowed (h : file.allowFullHttpReads = false) (contentLength : Option JsNumber)
    (error : Option Thrown) : fallBack im file contentLength error w = readFailed file error w := by
  simp only [fallBack, h, Bool.false_eq_true, if_false]

theorem fallBack_allowed (h : file.allowFullHttpReads = true) (contentLength : Option JsNumber)
    (error : Option Thrown) :
    fallBack im file contentLength error w =
      match firstByteProbe im file contentLength w with
      | (.normal (some result), w') => (.normal result, w')
      | (.normal none, w') => fullRead im file error w'
      | (.thrown e, w') => (.thrown e, w') := by
  simp only [fallBack, h, if_true, bind_run]
  rcases firstByteProbe im file contentLength w with ⟨(_ | _) | _, _⟩ <;> rfl

/-- How step 2 may end, from a world reached from `w₀` by the requests `pre`, for a
predicate `E` on how the whole ladder ends: settled or thrown as `E` allows, or unsettled
after requests that all got a response. -/
inductive ProbeEnd (E : Completion Nat × World → Prop) (w₀ : World) (pre : List (Request × Answer)) :
    Completion (Option Nat) × World → Prop
  | settled {v : Nat} {w : World} : E (.normal v, w) → ProbeEnd E w₀ pre (.normal (some v), w)
  | thrown {e : Thrown} {w : World} : E (.thrown e, w) → ProbeEnd E w₀ pre (.thrown e, w)
  | unsettled {w : World} {new : List (Request × Answer)} :
      Grows w₀ w (pre ++ new) → AllAnswered new → ProbeEnd E w₀ pre (.normal none, w)

/-- With full reads allowed, steps 2 and 3 end as `E` allows when step 2 does and step 3
does wherever step 2 leaves off. -/
theorem fallBack_of_probe {E : Completion Nat × World → Prop} {w₀ : World} {pre : List (Request × Answer)}
    {contentLength : Option JsNumber} {error : Option Thrown} (hfull : file.allowFullHttpReads = true)
    (hp : ProbeEnd E w₀ pre (firstByteProbe im file contentLength w))
    (h3 : ∀ w' new, Grows w₀ w' (pre ++ new) → AllAnswered new → E (fullRead im file error w')) :
    E (fallBack im file contentLength error w) := by
  rw [fallBack_allowed hfull]
  generalize firstByteProbe im file contentLength w = r at hp ⊢
  cases hp with
  | settled h => exact h
  | thrown h => exact h
  | unsettled h hnew => exact h3 _ _ h hnew

end Steps

/-- openFile of an HTTP or S3 file id the engine records runs the flag checks over the world
with the refreshed cache entry, inside its catch. -/
theorem openFile_remote {w : World} {fileId flags : Nat} {file : FileInfo}
    (hcur : w.engine.current fileId = some file) (hepoch : w.engine.epoch fileId ≠ 0)
    (hproto : file.dataProtocol = .HTTP ∨ file.dataProtocol = .S3) :
    ∃ cache, openFile fileId flags w =
      tryCatch (openRemoteFile w.imports file flags) (fun e => do failWith e.toString; pure 0)
        { w with fileInfoCache := cache } := by
  obtain ⟨cache, hget⟩ := getFileInfo_eq (getFileInfo_after_drop hcur hepoch)
  refine ⟨cache, ?_⟩
  rcases hproto with h | h <;>
  · simp only [openFile, tryCatch_run, bind_run, dropCachedFileInfo, modify_run, hget, read_run, h]

/-- With READ set and WRITE and APPEND clear, the flag checks pass to the ladder. -/
theorem openFile_read {w : World} {fileId flags : Nat} {file : FileInfo}
    (hcur : w.engine.current fileId = some file) (hepoch : w.engine.epoch fileId ≠ 0)
    (hproto : file.dataProtocol = .HTTP ∨ file.dataProtocol = .S3)
    (hread : hasFlag flags w.imports.fileFlagsRead = true) (hwrite : hasFlag flags w.imports.fileFlagsWrite = false)
    (happend : hasFlag flags w.imports.fileFlagsAppend = false) :
    ∃ cache, openFile fileId flags w =
      tryCatch (openForRead w.imports file) (fun e => do failWith e.toString; pure 0)
        { w with fileInfoCache := cache } := by
  have hremote : openRemoteFile w.imports file flags = openForRead w.imports file := by
    simp [openRemoteFile, hread, hwrite, happend]
  rw [← hremote]
  exact openFile_remote hcur hepoch hproto

end DuckdbWasm
