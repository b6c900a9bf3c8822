import DuckdbWasm.Ladder.RangeSupport

/-! # The full-read fallback

On a server that ignores Range, with full reads allowed, openFile buffers all of `C`. Step 2
keeps the body of its first-byte GET, already all of `C`, only when that answer carries a
Content-Length and the HEAD's Content-Length matches it; otherwise step 3 downloads `C` a
second time. Which HEAD counts depends on `reliableHeadRequests`: the ranged HEAD of step 1,
or the second HEAD of step 2.
-/
namespace DuckdbWasm
open Js

/-- How a server that ignores Range, holding `C`, may answer `r`: a GET with 200 and all of
`C`, its Content-Length |C| or absent; a HEAD with 200 and any Content-Length; neither with a
Content-Range. -/
inductive WholeOnly (C : List UInt8) (r : Request) : Answer → Prop
  | get {text : String} {contentLength : Option JsNumber} : r.method = .GET →
      (contentLength = none ∨ contentLength = some (.num C.length)) →
      WholeOnly C r (.response ⟨200, text, contentLength, none, C⟩)
  | head {text : String} {contentLength : Option JsNumber} {body : List UInt8} : r.method = .HEAD →
      WholeOnly C r (.response ⟨200, text, contentLength, none, body⟩)
  | put {a : Answer} : r.method = .PUT → WholeOnly C r a

namespace WholeOnly
variable {C : List UInt8} {im : Imports} {file : FileInfo} {a : Answer}

theorem get_answer {r : Request} (h : WholeOnly C r a) (hm : r.method = .GET) :
    ∃ text contentLength, a = .response ⟨200, text, contentLength, none, C⟩ ∧
      (contentLength = none ∨ contentLength = some (.num C.length)) := by
  cases h with
  | get _ hcl => exact ⟨_, _, rfl, hcl⟩
  | head hm' => rw [hm] at hm'; cases hm'
  | put hm' => rw [hm] at hm'; cases hm'

theorem rangedHead (h : WholeOnly C (rangedHeadRequest im file) a) :
    ∃ text contentLength body, a = .response ⟨200, text, contentLength, none, body⟩ := by
  cases h with
  | get hm => simp [rangedHeadRequest, fileRequest] at hm
  | head => exact ⟨_, _, _, rfl⟩
  | put hm => simp [rangedHeadRequest, fileRequest] at hm

end WholeOnly

/-- The Content-Length an answer carries; a network error carries none. -/
def Answer.contentLength : Answer → Option JsNumber
  | .response r => r.contentLength
  | .abort _ => none

/-- Whether step 2 keeps the first-byte GET's download, on a server that ignores Range, from
the answers `net` gives from request number `n` on: that GET's answer carries a
Content-Length, and the HEAD's, the ranged HEAD before it when HEAD requests are reliable or
the one after it otherwise, is |C|. -/
def keepsProbe (C : List UInt8) (im : Imports) (file : FileInfo) (net : Nat → Request → Answer) (n : Nat) : Bool :=
  if file.reliableHeadRequests then
    (net (n + 1) (firstByteRequest im file)).contentLength.isSome &&
      decide ((net n (rangedHeadRequest im file)).contentLength = some (.num C.length))
  else
    (net n (firstByteRequest im file)).contentLength.isSome &&
      decide ((net (n + 1) (rangedHeadRequest im file)).contentLength = some (.num C.length))

/-- The GETs in `log` whose answer carried all of `C`. -/
def fullTransfers (C : List UInt8) (log : List (Request × Answer)) : Nat :=
  log.countP fun e => e.1.method == .GET && match e.2 with
    | .response r => r.body == C
    | .abort _ => false

theorem fullTransfers_append (C : List UInt8) (l₁ l₂ : List (Request × Answer)) :
    fullTransfers C (l₁ ++ l₂) = fullTransfers C l₁ + fullTransfers C l₂ :=
  List.countP_append _ _ _

/-- A HEAD transfers nothing. -/
theorem fullTransfers_head (C : List UInt8) {r : Request} (hr : r.method = .HEAD) (a : Answer)
    (l : List (Request × Answer)) : fullTransfers C ((r, a) :: l) = fullTransfers C l :=
  List.countP_cons_of_neg _ _ (by simp [hr])

/-- Step 2's check on a 200 answer carrying all of `C`: both lengths present and equal. -/
theorem firstByteComplete_whole {C : List UInt8} {text : String} {contentLength headLength : Option JsNumber}
    (hcl : contentLength = none ∨ contentLength = some (.num C.length)) :
    firstByteComplete ⟨200, text, contentLength, none, C⟩ headLength =
      (contentLength.isSome && decide (headLength = some (.num C.length))) := by
  rcases hcl with rfl | rfl
  · rfl
  · rcases headLength with _ | _ | b
    · rfl
    · rfl
    · rw [Bool.eq_iff_iff]
      simp only [firstByteComplete, JsNumber.looseEq_num, Option.isSome_some, Bool.true_and, decide_eq_true_eq,
        beq_iff_eq, Option.some.injEq, JsNumber.num.injEq, decide_True]
      exact eq_comm

section Whole
variable {C : List UInt8} {im : Imports} {file : FileInfo}

/-- Step 2's verdict on a 200 answer carrying all of `C`, then step 3 when it is unsettled:
the download is buffered once more only when the check fails. -/
theorem settle_whole (im : Imports) (file : FileInfo) (w : World) (hw : ∀ n r, WholeOnly C r (w.net n r))
    (text : String) (contentLength presumed headLength : Option JsNumber) (error : Option Thrown) :
    ∃ w' new v, Grows w w' new ∧ (bufferedFile C w').1 = .normal v ∧
      (match firstByteSettle ⟨200, text, contentLength, none, C⟩ presumed headLength w with
        | (.normal (some result), w') => (.normal result, w')
        | (.normal none, w') => fullRead im file error w'
        | (.thrown e, w') => (.thrown e, w')) = (.normal v, (bufferedFile C w').2) ∧
      fullTransfers C new = if firstByteComplete ⟨200, text, contentLength, none, C⟩ headLength then 0 else 1 := by
  have hr : firstByteRanged ⟨200, text, contentLength, none, C⟩ presumed = none := by simp [firstByteRanged]
  obtain ⟨v, h1, -⟩ := bufferedFile_spec C w
  cases hk : firstByteComplete ⟨200, text, contentLength, none, C⟩ headLength
  · rw [firstByteSettle_unsettled hr hk]
    obtain ⟨text', cl, hy, -⟩ := (hw w.sent.length (fullRequest im file)).get_answer
      (by simp [fullRequest, fileRequest])
    obtain ⟨v', h1', -⟩ := bufferedFile_spec C (w.record (fullRequest im file) (.response ⟨200, text', cl, none, C⟩))
    refine ⟨_, _, v', Grows.record _ _ _, h1', ?_, by simp [fullTransfers, fullRequest, fileRequest]⟩
    dsimp only
    rw [fullRead_ok hy rfl]
    exact Prod.ext h1' rfl
  · rw [firstByteSettle_complete hr hk]
    refine ⟨w, [], v, Grows.refl w, h1, ?_, rfl⟩
    rw [map_run, show bufferedFile C w = (.normal v, (bufferedFile C w).2) from Prod.ext h1 rfl]

/-- Step 2's second HEAD, on a server that ignores Range, transfers no copy of `C`; the
length it hands to the check is the caller's when HEAD requests are reliable, and the HEAD's
otherwise. -/
theorem presumeLength_whole (im : Imports) (file : FileInfo) (w : World) (hw : ∀ n r, WholeOnly C r (w.net n r))
    (contentLength : Option JsNumber) :
    ∃ w' new presumed, Grows w w' new ∧ fullTransfers C new = 0 ∧
      presumeLength im file none contentLength w = (.normal (presumed,
        if file.reliableHeadRequests then contentLength
        else (w.answer (rangedHeadRequest im file)).contentLength), w') := by
  cases hrel : file.reliableHeadRequests
  · obtain ⟨text, hl, body, hh⟩ := (hw w.sent.length (rangedHeadRequest im file)).rangedHead
    rw [presumeLength_answered hrel hh, World.answer, hh]
    exact ⟨_, _, _, Grows.record _ _ _, fullTransfers_head C (by simp [rangedHeadRequest, fileRequest]) _ [], rfl⟩
  · exact ⟨w, [], none, Grows.refl w, rfl, presumeLength_trusted hrel _⟩

/-- Steps 2 and 3, with full reads allowed, on a server that ignores Range: all of `C` is
buffered, after one GET carrying it when step 2's check passes and two otherwise. The check
wants a Content-Length on the first-byte GET's answer and |C| from the HEAD: step 1's, left
in `contentLength`, when HEAD requests are reliable, and step 2's own HEAD otherwise. -/
theorem fallBack_whole (im : Imports) (file : FileInfo) (w : World) (hfull : file.allowFullHttpReads = true)
    (hw : ∀ n r, WholeOnly C r (w.net n r)) (contentLength : Option JsNumber) (error : Option Thrown) :
    ∃ w' new v, Grows w w' new ∧ (bufferedFile C w').1 = .normal v ∧
      fallBack im file contentLength error w = (.normal v, (bufferedFile C w').2) ∧
      fullTransfers C new =
        if (w.answer (firstByteRequest im file)).contentLength.isSome &&
          decide ((if file.reliableHeadRequests then contentLength
            else (w.net (w.sent.length + 1) (rangedHeadRequest im file)).contentLength) = some (.num C.length))
        then 1 else 2 := by
  rw [fallBack_allowed hfull]
  obtain ⟨text, cl, hx, hcl⟩ := (hw w.sent.length (firstByteRequest im file)).get_answer
    (by simp [firstByteRequest, fileRequest])
  rw [firstByteProbe_answered hx]
  obtain ⟨w₁, new₁, presumed, hg₁, hn₁, hp⟩ := presumeLength_whole im file
    (w.record (firstByteRequest im file) (.response ⟨200, text, cl, none, C⟩)) hw contentLength
  have hg₁' := (Grows.record _ _ _).trans hg₁
  obtain ⟨w', new, v, hg, hv, hrun, hn⟩ := settle_whole im file w₁ (hg₁'.net ▸ hw) text cl presumed _ error
  refine ⟨w', _, v, hg₁'.trans hg, hv, ?_, ?_⟩
  · simp only [bind_run, Option.none_bind, hp]
    exact hrun
  · have hget : fullTransfers C [(firstByteRequest im file, .response ⟨200, text, cl, none, C⟩)] = 1 := by
      simp [fullTransfers, firstByteRequest, fileRequest]
    rw [fullTransfers_append, fullTransfers_append, hget, hn₁, hn, firstByteComplete_whole hcl, World.answer_record,
      World.answer, hx]
    exact (by decide : ∀ b : Bool, 1 + 0 + (if b then 0 else 1) = if b then 1 else 2) _

/-- With full reads allowed, on a server that ignores Range, the ladder buffers all of `C`,
after one GET carrying it when step 2's check passes and two otherwise. -/
theorem openForRead_whole (im : Imports) (file : FileInfo) (w : World) (hfull : file.allowFullHttpReads = true)
    (hw : ∀ n r, WholeOnly C r (w.net n r)) :
    ∃ w' new v, Grows w w' new ∧ (bufferedFile C w').1 = .normal v ∧
      openForRead im file w = (.normal v, (bufferedFile C w').2) ∧
      fullTransfers C new = if keepsProbe C im file w.net w.sent.length then 1 else 2 := by
  simp only [openForRead, bind_run]
  unfold keepsProbe
  cases hrel : file.reliableHeadRequests
  · have hcond : (file.reliableHeadRequests || !file.allowFullHttpReads) = false := by simp [hrel, hfull]
    rw [rangedHead_skipped hcond]
    obtain ⟨w', new, v, hg, hv, hrun, hn⟩ := fallBack_whole im file w hfull hw none none
    rw [hrel] at hn
    exact ⟨w', new, v, hg, hv, hrun, hn⟩
  · have hcond : (file.reliableHeadRequests || !file.allowFullHttpReads) = true := by simp [hrel]
    obtain ⟨text, hl, body, hh⟩ := (hw w.sent.length (rangedHeadRequest im file)).rangedHead
    rw [rangedHead_answered hcond hh, HeadProbe.ofResponse_ok]
    obtain ⟨w', new, v, hg, hv, hrun, hn⟩ := fallBack_whole im file
      (w.record (rangedHeadRequest im file) (.response ⟨200, text, hl, none, body⟩)) hfull hw hl none
    refine ⟨w', _, v, (Grows.record _ _ _).trans hg, hv, hrun, ?_⟩
    rw [List.singleton_append, fullTransfers_head C (by simp [rangedHeadRequest, fileRequest]), hn, hrel,
      World.answer_record, hh]
    rfl

end Whole

/-- openFile of an HTTP or S3 file for reading, with full reads allowed, on a server that
ignores Range and holds `C`, returns a buffered descriptor holding `C`, with no failWith; it
fetches `C` once when step 2's check passes on the answers it gets, and twice otherwise. -/
theorem openFile_full_read {w : World} {fileId flags : Nat} {file : FileInfo} {C : List UInt8}
    (hcur : w.engine.current fileId = some file) (hepoch : w.engine.epoch fileId ≠ 0)
    (hproto : file.dataProtocol = .HTTP ∨ file.dataProtocol = .S3)
    (hread : hasFlag flags w.imports.fileFlagsRead = true) (hwrite : hasFlag flags w.imports.fileFlagsWrite = false)
    (happend : hasFlag flags w.imports.fileFlagsAppend = false) (hfull : file.allowFullHttpReads = true)
    (hw : ∀ n r, WholeOnly C r (w.net n r)) :
    ∃ (v buffer : Nat) (new : List (Request × Answer)), (openFile fileId flags w).1 = .normal v ∧
      (openFile fileId flags w).2.failures = w.failures ∧
      (openFile fileId flags w).2.heap.descriptor v = (f64Bytes (.num C.length), f64Bytes (.num buffer)) ∧ 0 < buffer ∧
      (openFile fileId flags w).2.heap.read buffer C.length = C ∧
      (openFile fileId flags w).2.sent = w.sent ++ new ∧
      fullTransfers C new = if keepsProbe C w.imports file w.net w.sent.length then 1 else 2 := by
  obtain ⟨cache, hopen⟩ := openFile_read hcur hepoch hproto hread hwrite happend
  obtain ⟨w', new, v, hg, hv, hrun, hn⟩ := openForRead_whole w.imports file { w with fileInfoCache := cache } hfull hw
  obtain ⟨v', h1, h2, h3, h4⟩ := bufferedFile_spec C w'
  rw [h1] at hv
  cases hv
  rw [hopen, tryCatch_run, hrun]
  refine ⟨v, w'.heap.brk, new, rfl, ?_, h3, w'.heap.brk_pos, h4, ?_, hn⟩
  · rw [h2]
    exact hg.failures
  · rw [h2]
    exact hg.sent

theorem wholeServer_wholeOnly (C : List UInt8) (n : Nat) (r : Request) : WholeOnly C r (wholeServer C n r) := by
  rcases hm : r.method with _ | _ | _
  · exact .head hm
  · exact .get hm (.inr rfl)
  · exact .put hm

/-- A runtime reading `data.bin`, full reads allowed, from a server that ignores Range. -/
def fullBinary : World :=
  World.fresh Imports.duckdb (Engine.ofFiles [httpBinary]) (wholeServer [1, 2, 3]) [] (fun _ => .blob []) Opfs.empty

theorem openFile_full_read_fullBinary :
    fullBinary.engine.current 1 = some httpBinary ∧ fullBinary.engine.epoch 1 ≠ 0 ∧
    (httpBinary.dataProtocol = .HTTP ∨ httpBinary.dataProtocol = .S3) ∧
    hasFlag 1 fullBinary.imports.fileFlagsRead = true ∧ hasFlag 1 fullBinary.imports.fileFlagsWrite = false ∧
    hasFlag 1 fullBinary.imports.fileFlagsAppend = false ∧ httpBinary.allowFullHttpReads = true ∧
    (∀ n r, WholeOnly [1, 2, 3] r (fullBinary.net n r)) ∧
    ∃ (v buffer : Nat) (new : List (Request × Answer)), (openFile 1 1 fullBinary).1 = .normal v ∧
      (openFile 1 1 fullBinary).2.failures = [] ∧
      (openFile 1 1 fullBinary).2.heap.descriptor v = (f64Bytes (.num 3), f64Bytes (.num buffer)) ∧ 0 < buffer ∧
      (openFile 1 1 fullBinary).2.heap.read buffer 3 = [1, 2, 3] ∧
      (openFile 1 1 fullBinary).2.sent = [] ++ new ∧
      fullTransfers [1, 2, 3] new = if keepsProbe [1, 2, 3] fullBinary.imports httpBinary fullBinary.net 0 then 1 else 2 :=
  ⟨rfl, by decide, .inl rfl, rfl, rfl, rfl, rfl, wholeServer_wholeOnly _,
    @openFile_full_read fullBinary 1 1 httpBinary [1, 2, 3] rfl (by decide) (.inl rfl) rfl rfl rfl rfl
      (wholeServer_wholeOnly _)⟩

/-- A server that ignores Range and sends no Content-Length with an answer to a GET. -/
def lengthlessServer (C : List UInt8) : Nat → Request → Answer := fun _ r =>
  if r.method = .GET then .response ⟨200, "OK", none, none, C⟩
  else .response ⟨200, "OK", some (.num C.length), none, []⟩

theorem lengthlessServer_wholeOnly (C : List UInt8) (n : Nat) (r : Request) :
    WholeOnly C r (lengthlessServer C n r) := by
  unfold lengthlessServer
  split
  · exact .get ‹_› (.inl rfl)
  · rcases hm : r.method with _ | _ | _
    · exact .head hm
    · contradiction
    · exact .put hm

/-- A runtime reading `data.bin`, full reads allowed, from a server that sends no
Content-Length with a GET. -/
def lengthlessBinary : World :=
  World.fresh Imports.duckdb (Engine.ofFiles [httpBinary]) (lengthlessServer [1, 2, 3]) [] (fun _ => .blob [])
    Opfs.empty

/-- Without a Content-Length on the first-byte GET's answer, openFile downloads the whole
file twice. -/
theorem openFile_downloads_twice :
    (∀ n r, WholeOnly [1, 2, 3] r (lengthlessBinary.net n r)) ∧
    fullTransfers [1, 2, 3] (openFile 1 1 lengthlessBinary).2.sent = 2 :=
  ⟨lengthlessServer_wholeOnly _, rfl⟩

end DuckdbWasm
