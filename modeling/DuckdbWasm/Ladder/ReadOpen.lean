import DuckdbWasm.Ladder.Steps
import DuckdbWasm.Runtime.Calls

/-! # How openFile of a remote file ends

For a server that answers each request for a resource `C` correctly, with a status outside
2xx, or not at all, openFile returns a descriptor of `C`, or 0 after a failWith, or 0 without
one: the ladder's `return 0` once the ranged HEAD was refused with full reads not allowed, or
step 3's GET was refused, and no network error was caught. The second HEAD's status is never
checked, so an error answer to it may also size a ranged descriptor.
-/
namespace DuckdbWasm
open Js

/-- How a server holding `C` may answer a request `r`: with the window of `C` its Range asks
for (206, Content-Range showing |C| or hidden from the page); ignoring Range, with all of `C`
(200); with a status outside 2xx and any headers; or with a network error. -/
inductive Serves (C : List UInt8) (r : Request) : Answer → Prop
  | window {range : ByteRange} {text : String} {contentRange : Option ContentRange} :
      r.range = some range → (contentRange = none ∨ contentRange = some ⟨some (.num C.length)⟩) →
      Serves C r (.response ⟨206, text, some (.num (window C range).length), contentRange, window C range⟩)
  | whole {text : String} {contentRange : Option ContentRange} :
      Serves C r (.response ⟨200, text, some (.num C.length), contentRange, C⟩)
  | failed {resp : Response} : ¬(200 ≤ resp.status ∧ resp.status < 300) → Serves C r (.response resp)
  | aborted {e : Thrown} : Serves C r (.abort e)

namespace Serves
variable {C : List UInt8} {r : Request} {x : Response}

theorem body_of_ok (h : Serves C r (.response x)) (h200 : x.status = 200) : x.body = C := by
  cases h with
  | window => cases h200
  | whole => rfl
  | failed hst => omega

/-- A 206 answer shows |C| in its Content-Range, or hides it. -/
theorem total_of_partial (h : Serves C r (.response x)) (h206 : x.status = 206) :
    x.contentRange.bind (·.total) = none ∨ x.contentRange.bind (·.total) = some (.num C.length) := by
  cases h with
  | window _ hcr => rcases hcr with rfl | rfl <;> simp
  | whole => cases h206
  | failed hst => omega

/-- A correct answer to the ranged HEAD carries |C| as its Content-Length. -/
theorem head_length {im : Imports} {file : FileInfo} (h : Serves C (rangedHeadRequest im file) (.response x)) :
    x.contentLength = some (.num C.length) ∨ ¬(200 ≤ x.status ∧ x.status < 300) := by
  cases h with
  | window hr => simp only [rangedHeadRequest, fileRequest, remoteRequest_range, Option.some.injEq] at hr; simp [← hr]
  | whole => exact .inl rfl
  | failed hst => exact .inr hst

/-- The ranged HEAD settles only the size |C|. -/
theorem headProbe {im : Imports} {file : FileInfo} (h : Serves C (rangedHeadRequest im file) (.response x)) :
    HeadProbe.ofResponse x = .supportsRanges (.num C.length) ∨ ∃ cl, HeadProbe.ofResponse x = .fallThrough cl none := by
  unfold HeadProbe.ofResponse
  rcases hl : x.contentLength with _ | len
  · exact .inr ⟨_, rfl⟩
  · by_cases h206 : x.status = 206
    · rcases h.head_length with hc | hst
      · rw [hc] at hl; cases hl; simp [h206]
      · omega
    · simp [h206]

end Serves

/-- A rangeServer holding `C`: every ranged request gets its window with Content-Range, every
other request all of `C`. -/
def rangeServer (C : List UInt8) : Nat → Request → Answer := fun _ r =>
  match r.range with
  | some range => .response ⟨206, "Partial Content", some (.num (window C range).length),
      some ⟨some (.num C.length)⟩, window C range⟩
  | none => .response ⟨200, "OK", some (.num C.length), none, C⟩

theorem rangeServer_serves (C : List UInt8) (n : Nat) (r : Request) : Serves C r (rangeServer C n r) := by
  unfold rangeServer
  split
  · exact .window ‹_› (.inr rfl)
  · exact .whole

/-- `s` is the Content-Length of an answer in `log` to a HEAD with a status outside 2xx. -/
def ErrorSized (log : List (Request × Answer)) (s : JsNumber) : Prop :=
  ∃ req resp, (req, .response resp) ∈ log ∧ req.method = .HEAD ∧
    ¬(200 ≤ resp.status ∧ resp.status < 300) ∧ resp.contentLength = some s

/-- A length the ladder may presume once the requests `log` were sent: |C|, or one an error
answer to a HEAD in `log` carried. -/
def Presumable (C : List UInt8) (log : List (Request × Answer)) (s : JsNumber) : Prop :=
  s = .num C.length ∨ ErrorSized log s

/-- Why the ladder gives up with 0 after the requests `new`, all of which got a response: with
full reads not allowed, the ranged HEAD, its one request, was answered without a 206 carrying
a Content-Length; with full reads allowed, step 3's unranged GET, its last request, was
answered with a status other than 200. -/
def GaveUp (im : Imports) (file : FileInfo) (new : List (Request × Answer)) : Prop :=
  AllAnswered new ∧
    ((file.allowFullHttpReads = false ∧ ∃ head : Response, new = [(rangedHeadRequest im file, .response head)] ∧
        (head.status ≠ 206 ∨ head.contentLength = none)) ∨
      (file.allowFullHttpReads = true ∧ ∃ (pre : List (Request × Answer)) (xhr : Response),
        new = pre ++ [(fullRequest im file, .response xhr)] ∧ xhr.status ≠ 200))

/-- How the ladder may end, from the world `w₀` it started in, for a server holding `C`:
with a descriptor of `C`; with 0, having given up; with a ranged descriptor sized by an error
answer to a HEAD; or with a throw. -/
inductive LadderEnd (C : List UInt8) (im : Imports) (file : FileInfo) (w₀ : World) : Completion Nat × World → Prop
  | described {v : Nat} {w : World} {new : List (Request × Answer)} :
      Grows w₀ w new → Describes C w.heap v → LadderEnd C im file w₀ (.normal v, w)
  | gaveUp {w : World} {new : List (Request × Answer)} :
      Grows w₀ w new → GaveUp im file new → LadderEnd C im file w₀ (.normal 0, w)
  | sizedByError {v : Nat} {w : World} {new : List (Request × Answer)} {s : JsNumber} :
      Grows w₀ w new → ErrorSized new s → w.heap.descriptor v = (f64Bytes s, f64Bytes (.num 0)) →
        LadderEnd C im file w₀ (.normal v, w)
  | thrown {e : Thrown} {w : World} {new : List (Request × Answer)} :
      Grows w₀ w new → LadderEnd C im file w₀ (.thrown e, w)

section Ladder
variable {C : List UInt8} {im : Imports} {file : FileInfo} {w₀ w : World} {pre : List (Request × Answer)}

theorem answer_serves (hs : ∀ n r, Serves C r (w₀.net n r)) (hg : Grows w₀ w pre) (r : Request) :
    Serves C r (w.answer r) := by
  rw [World.answer, hg.net]
  exact hs _ _

theorem ranged_ends (hg : Grows w₀ w pre) {s : JsNumber} (hp : Presumable C pre s) :
    LadderEnd C im file w₀ (.normal w.heap.brk, (openedFile s 0 w).2) := by
  have hg' := hg.trans (openedFile_grows s 0 w)
  rw [List.append_nil] at hg'
  rcases hp with rfl | hp
  · exact .described hg' (openedFile_describes C w).2
  · exact .sizedByError hg' hp (openedFile_spec s 0 w).2.1

theorem buffered_ends (C : List UInt8) (hg : Grows w₀ w pre) :
    ∃ v, bufferedFile C w = (.normal v, (bufferedFile C w).2) ∧
      LadderEnd C im file w₀ (.normal v, (bufferedFile C w).2) := by
  obtain ⟨v, h1, h2, -, h4⟩ := bufferedFile_describes C w
  exact ⟨v, Prod.ext h1 rfl, .described (hg.trans h2) h4⟩

theorem readFailed_ends (hg : Grows w₀ w pre) (error : Option Thrown) (hpre : error = none → GaveUp im file pre) :
    LadderEnd C im file w₀ (readFailed file error w) := by
  cases error with
  | some e => exact .thrown hg
  | none => exact .gaveUp hg (hpre rfl)

/-- Step 3 keeps all of `C` or ends as the ladder's end does. -/
theorem fullRead_ends (hs : ∀ n r, Serves C r (w₀.net n r)) (hfull : file.allowFullHttpReads = true)
    (hg : Grows w₀ w pre) (error : Option Thrown) (hpre : error = none → AllAnswered pre) :
    LadderEnd C im file w₀ (fullRead im file error w) := by
  have hserves := answer_serves hs hg (fullRequest im file)
  have hrec := hg.trans (Grows.record w (fullRequest im file) (w.answer (fullRequest im file)))
  rcases hans : w.answer (fullRequest im file) with xhr | e
  · rw [hans] at hserves hrec
    by_cases h200 : xhr.status = 200
    · obtain ⟨v, hv, hend⟩ := buffered_ends C hrec
      rw [fullRead_ok hans h200, hserves.body_of_ok h200, hv]
      exact hend
    · rw [fullRead_refused hans h200]
      exact readFailed_ends hrec error fun he =>
        ⟨(hpre he).append (.response _ _), .inr ⟨hfull, pre, xhr, rfl, h200⟩⟩
  · rw [fullRead_aborted hans]
    rw [hans] at hrec
    exact .thrown hrec

/-- Step 2's verdict on an answer `xhr` served for `C`, given that a ranged verdict can only
use a presumable length. -/
theorem firstByteSettle_ends {xhr : Response} {presumed contentLength : Option JsNumber}
    {new : List (Request × Answer)} (hx : Serves C (firstByteRequest im file) (.response xhr))
    (hg : Grows w₀ w (pre ++ new)) (hnew : AllAnswered new)
    (hp : ∀ s, firstByteRanged xhr presumed = some s → Presumable C (pre ++ new) s) :
    ProbeEnd (LadderEnd C im file w₀) w₀ pre (firstByteSettle xhr presumed contentLength w) := by
  rcases hr : firstByteRanged xhr presumed with _ | s
  · cases hc : firstByteComplete xhr contentLength
    · rw [firstByteSettle_unsettled hr hc]
      exact .unsettled hg hnew
    · rw [firstByteSettle_complete hr hc]
      have h200 : xhr.status = 200 := by simpa [firstByteComplete] using (Bool.and_eq_true _ _).mp hc |>.1
      obtain ⟨v, hv, hend⟩ := buffered_ends C hg
      rw [hx.body_of_ok h200, map_run, hv]
      exact .settled hend
  · rw [firstByteSettle_ranged hr]
    exact .settled (ranged_ends hg (hp s hr))

/-- Step 2's presumed length, once the first-byte answer `xhr` served for `C` is logged: a
ranged verdict on `xhr` needs a 206, whose Content-Range shows |C| or is hidden, so it can
only use |C| or the length an error answer to the second HEAD carried. -/
theorem presumeLength_ends (hs : ∀ n r, Serves C r (w₀.net n r)) {new : List (Request × Answer)}
    (hg : Grows w₀ w (pre ++ new)) (hnew : AllAnswered new) {xhr : Response}
    (hx : Serves C (firstByteRequest im file) (.response xhr)) (contentLength : Option JsNumber) :
    (∃ e w' new', presumeLength im file (xhr.contentRange.bind (·.total)) contentLength w = (.thrown e, w') ∧
      Grows w₀ w' new') ∨
    ∃ p c w' new', presumeLength im file (xhr.contentRange.bind (·.total)) contentLength w = (.normal (p, c), w') ∧
      Grows w₀ w' (pre ++ new') ∧ AllAnswered new' ∧
      ∀ s, firstByteRanged xhr p = some s → Presumable C (pre ++ new') s := by
  rcases hcr : xhr.contentRange.bind (·.total) with _ | total
  · cases hrel : file.reliableHeadRequests
    · have hh := answer_serves hs hg (rangedHeadRequest im file)
      rcases hhead : w.answer (rangedHeadRequest im file) with head | e
      · rw [hhead] at hh
        refine .inr ⟨_, _, _, new ++ [(rangedHeadRequest im file, .response head)], presumeLength_answered hrel hhead _,
          by rw [← List.append_assoc]; exact hg.trans (.record _ _ _), hnew.append (.response _ _), fun s hs' => ?_⟩
        have hp := (firstByteRanged_some hs').2
        split_ifs at hp
        rcases hh.head_length with hc | hst
        · rw [hc] at hp
          cases hp
          exact .inl rfl
        · exact .inr ⟨rangedHeadRequest im file, head, by simp, by simp [rangedHeadRequest, fileRequest], hst, hp⟩
      · exact .inl ⟨_, _, _, presumeLength_aborted hrel hhead _, hg.trans (.record _ _ _)⟩
    · exact .inr ⟨_, _, _, new, presumeLength_trusted hrel _, hg, hnew, fun s h => by cases (firstByteRanged_some h).2⟩
  · refine .inr ⟨_, _, _, new, presumeLength_shown _ _, hg, hnew, fun s h => ?_⟩
    obtain ⟨h206, hts⟩ := firstByteRanged_some h
    rcases hx.total_of_partial h206 with h' | h' <;> rw [hcr] at h'
    · cases h'
    · exact .inl (Option.some.inj (hts.symm.trans h'))

/-- Step 2 ends as the ladder does, settled on |C| or on an error HEAD's length, or unsettled
after requests that all got a response. -/
theorem firstByteProbe_ends (hs : ∀ n r, Serves C r (w₀.net n r)) (hg : Grows w₀ w pre)
    (contentLength : Option JsNumber) :
    ProbeEnd (LadderEnd C im file w₀) w₀ pre (firstByteProbe im file contentLength w) := by
  have hserves := answer_serves hs hg (firstByteRequest im file)
  rcases hans : w.answer (firstByteRequest im file) with xhr | e
  · rw [hans] at hserves
    rw [firstByteProbe_answered hans, bind_run]
    rcases presumeLength_ends hs (hg.trans (Grows.record w (firstByteRequest im file) (.response xhr)))
      (.response _ _) hserves contentLength with ⟨e, w', new, h, hg'⟩ | ⟨p, c, w', new, h, hg', hnew, hp⟩ <;> rw [h]
    · exact .thrown (.thrown hg')
    · exact firstByteSettle_ends hserves hg' hnew hp
  · rw [firstByteProbe_aborted hans]
    exact .thrown (.thrown (hg.trans (.record _ _ _)))

/-- After the ranged HEAD, the ladder ends as `LadderEnd` says; it gives up quietly only if
no request since `w₀` met a network error, and, with full reads not allowed, only after the
ranged HEAD fell through. -/
theorem fallBack_ends (hs : ∀ n r, Serves C r (w₀.net n r)) (hg : Grows w₀ w pre) (contentLength : Option JsNumber)
    (error : Option Thrown) (hpre : error = none → AllAnswered pre ∧ (file.allowFullHttpReads = false →
      ∃ head : Response, pre = [(rangedHeadRequest im file, .response head)] ∧
        (head.status ≠ 206 ∨ head.contentLength = none))) :
    LadderEnd C im file w₀ (fallBack im file contentLength error w) := by
  cases hfull : file.allowFullHttpReads
  · rw [fallBack_disallowed hfull]
    exact readFailed_ends hg error fun he => ⟨(hpre he).1, .inl ⟨hfull, (hpre he).2 hfull⟩⟩
  · exact fallBack_of_probe hfull (firstByteProbe_ends hs hg contentLength) fun _ _ h hnew =>
      fullRead_ends hs hfull h error fun he => (hpre he).1.append hnew

/-- The whole ladder, from `w₀`, ends as `LadderEnd` says. -/
theorem openForRead_ends (hs : ∀ n r, Serves C r (w₀.net n r)) (im : Imports) (file : FileInfo) :
    LadderEnd C im file w₀ (openForRead im file w₀) := by
  simp only [openForRead, bind_run]
  cases hcond : (file.reliableHeadRequests || !file.allowFullHttpReads)
  · rw [rangedHead_skipped hcond]
    exact fallBack_ends hs (.refl w₀) none none fun _ =>
      ⟨by simp [AllAnswered], fun hfull => by simp [hfull] at hcond⟩
  · have hserves := answer_serves hs (.refl w₀) (rangedHeadRequest im file)
    rcases hans : w₀.answer (rangedHeadRequest im file) with head | e
    · rw [hans] at hserves
      rw [rangedHead_answered hcond hans]
      rcases hserves.headProbe with hp | ⟨cl, hp⟩ <;> simp only [hp]
      · rw [openedFile_run]
        exact ranged_ends (.record _ _ _) (.inl rfl)
      · exact fallBack_ends hs (.record _ _ _) cl none fun _ =>
          ⟨.response _ _, fun _ => ⟨head, rfl, HeadProbe.ofResponse_fallThrough hp⟩⟩
    · rw [rangedHead_aborted hcond hans]
      exact fallBack_ends hs (.record _ _ _) none (some e) nofun

/-- Lines 192-221 and 309-312: with full reads not allowed, a ranged HEAD answer without a 206
carrying a Content-Length leaves the ladder nothing to try, and it returns 0. -/
theorem openForRead_gives_up (hfull : file.allowFullHttpReads = false) {head : Response}
    (hhead : w.answer (rangedHeadRequest im file) = .response head)
    (hno : head.status ≠ 206 ∨ head.contentLength = none) :
    openForRead im file w = (.normal 0, w.record (rangedHeadRequest im file) (.response head)) := by
  have hcond : (file.reliableHeadRequests || !file.allowFullHttpReads) = true := by simp [hfull]
  obtain ⟨cl, hp⟩ : ∃ cl, HeadProbe.ofResponse head = .fallThrough cl none := by
    unfold HeadProbe.ofResponse
    rcases hl : head.contentLength with _ | l
    · exact ⟨_, rfl⟩
    · exact ⟨_, if_neg (hno.resolve_right (by simp [hl]))⟩
  simp only [openForRead, bind_run, rangedHead_answered hcond hhead, hp, fallBack_disallowed hfull]
  rfl

end Ladder

/-- How openFile of the remote `file` may end, from `w`, for a server holding `C`: with a
descriptor of `C`; with 0 after a failWith; with 0 and no failWith, having given up; or with a
ranged descriptor sized by an error answer to a HEAD. -/
inductive ReadOpenEnd (C : List UInt8) (file : FileInfo) (w : World) : Nat → World → Prop
  | described {v : Nat} {w' : World} : w'.failures = w.failures → Describes C w'.heap v → ReadOpenEnd C file w v w'
  | reported {w' : World} {message : String} : w'.failures = w.failures ++ [message] → ReadOpenEnd C file w 0 w'
  | gaveUp {w' : World} {new : List (Request × Answer)} :
      w'.failures = w.failures → w'.sent = w.sent ++ new → GaveUp w.imports file new → ReadOpenEnd C file w 0 w'
  | sizedByError {v : Nat} {w' : World} {new : List (Request × Answer)} {s : JsNumber} :
      w'.failures = w.failures → w'.sent = w.sent ++ new → ErrorSized new s →
        w'.heap.descriptor v = (f64Bytes s, f64Bytes (.num 0)) → ReadOpenEnd C file w v w'

/-- openFile of an HTTP or S3 file for reading returns normally, for every server that
answers each request correctly for `C`, with an error status, or not at all: with a
descriptor of `C`, with 0 after a failWith, with 0 and no failWith only after a refused ranged
HEAD with full reads not allowed or a refused step-3 GET and no network error, or with a
ranged descriptor sized by an error answer to a HEAD. -/
theorem openFile_read_ends {w : World} {fileId flags : Nat} {file : FileInfo} {C : List UInt8}
    (hcur : w.engine.current fileId = some file) (hepoch : w.engine.epoch fileId ≠ 0)
    (hproto : file.dataProtocol = .HTTP ∨ file.dataProtocol = .S3)
    (hread : hasFlag flags w.imports.fileFlagsRead = true) (hwrite : hasFlag flags w.imports.fileFlagsWrite = false)
    (happend : hasFlag flags w.imports.fileFlagsAppend = false) (hs : ∀ n r, Serves C r (w.net n r)) :
    ∃ v, (openFile fileId flags w).1 = .normal v ∧ ReadOpenEnd C file w v (openFile fileId flags w).2 := by
  obtain ⟨cache, hopen⟩ := openFile_read hcur hepoch hproto hread hwrite happend
  rw [hopen, tryCatch_run]
  generalize hr : openForRead w.imports file { w with fileInfoCache := cache } = r
  have hs' : ∀ n r, Serves C r ({ w with fileInfoCache := cache }.net n r) := hs
  have hend : LadderEnd C w.imports file { w with fileInfoCache := cache } r := hr ▸ openForRead_ends hs' w.imports file
  cases hend with
  | described hg hd => exact ⟨_, rfl, .described hg.failures hd⟩
  | gaveUp hg hn => exact ⟨_, rfl, .gaveUp hg.failures hg.sent hn⟩
  | sizedByError hg he hd => exact ⟨_, rfl, .sizedByError hg.failures hg.sent he hd⟩
  | @thrown e _ _ hg =>
    exact ⟨_, rfl, .reported (show _ = w.failures ++ [e.toString] by simp [failWith, hg.failures])⟩

/-- The HTTP file `data.bin` under file id 1, with reliable HEAD requests and full reads allowed. -/
def httpBinary : FileInfo := ⟨1, 1, "data.bin", .HTTP, some "data.bin", true, true, none⟩

/-- A runtime reading `data.bin` from a rangeServer holding three bytes. -/
def rangedBinary : World :=
  World.fresh Imports.duckdb (Engine.ofFiles [httpBinary]) (rangeServer [1, 2, 3]) [] (fun _ => .blob []) Opfs.empty

/-- A 200 answer carrying all of `C`. -/
def wholeAnswer (C : List UInt8) : Response := ⟨200, "OK", some (.num C.length), none, C⟩

/-- A server that ignores Range and answers every request with all of `C`. -/
def wholeServer (C : List UInt8) : Nat → Request → Answer := fun _ _ => .response (wholeAnswer C)

/-- The HTTP file `data.bin` with full reads not allowed. -/
def httpRangedOnly : FileInfo := ⟨1, 1, "data.bin", .HTTP, some "data.bin", false, false, none⟩

/-- A runtime reading `data.bin`, full reads not allowed, from a server that ignores Range. -/
def rangesIgnored : World :=
  World.fresh Imports.duckdb (Engine.ofFiles [httpRangedOnly]) (wholeServer [1, 2, 3]) [] (fun _ => .blob [])
    Opfs.empty

/-- With full reads not allowed, openFile of an HTTP or S3 file for reading sends the ranged
HEAD alone, and when that is answered with any status but a 206 carrying a Content-Length, it
returns the failure value 0 without a failWith. -/
theorem openFile_zero_unreported {w : World} {fileId flags : Nat} {file : FileInfo} {head : Response}
    (hcur : w.engine.current fileId = some file) (hepoch : w.engine.epoch fileId ≠ 0)
    (hproto : file.dataProtocol = .HTTP ∨ file.dataProtocol = .S3)
    (hread : hasFlag flags w.imports.fileFlagsRead = true) (hwrite : hasFlag flags w.imports.fileFlagsWrite = false)
    (happend : hasFlag flags w.imports.fileFlagsAppend = false) (hfull : file.allowFullHttpReads = false)
    (hhead : w.answer (rangedHeadRequest w.imports file) = .response head)
    (hno : head.status ≠ 206 ∨ head.contentLength = none) :
    (openFile fileId flags w).1 = .normal 0 ∧ (openFile fileId flags w).2.failures = w.failures ∧
      (openFile fileId flags w).2.sent = w.sent ++ [(rangedHeadRequest w.imports file, .response head)] := by
  obtain ⟨cache, hopen⟩ := openFile_read hcur hepoch hproto hread hwrite happend
  rw [hopen, tryCatch_run, @openForRead_gives_up w.imports file { w with fileInfoCache := cache } hfull head hhead hno]
  exact ⟨rfl, rfl, rfl⟩

/-- The HEAD of a runtime reading `data.bin` with full reads not allowed, answered 200 by a
server that ignores Range, ends openFile with 0 and no failWith. -/
theorem openFile_zero_without_failWith :
    rangesIgnored.engine.current 1 = some httpRangedOnly ∧ rangesIgnored.engine.epoch 1 ≠ 0 ∧
    (httpRangedOnly.dataProtocol = .HTTP ∨ httpRangedOnly.dataProtocol = .S3) ∧
    hasFlag 1 rangesIgnored.imports.fileFlagsRead = true ∧ hasFlag 1 rangesIgnored.imports.fileFlagsWrite = false ∧
    hasFlag 1 rangesIgnored.imports.fileFlagsAppend = false ∧ httpRangedOnly.allowFullHttpReads = false ∧
    rangesIgnored.answer (rangedHeadRequest rangesIgnored.imports httpRangedOnly) = .response (wholeAnswer [1, 2, 3]) ∧
    ((wholeAnswer [1, 2, 3]).status ≠ 206 ∨ (wholeAnswer [1, 2, 3]).contentLength = none) ∧
    (openFile 1 1 rangesIgnored).1 = .normal 0 ∧ (openFile 1 1 rangesIgnored).2.failures = rangesIgnored.failures ∧
    (openFile 1 1 rangesIgnored).2.sent =
      rangesIgnored.sent ++ [(rangedHeadRequest rangesIgnored.imports httpRangedOnly, .response (wholeAnswer [1, 2, 3]))] :=
  have hhead : rangesIgnored.answer (rangedHeadRequest rangesIgnored.imports httpRangedOnly) =
      .response (wholeAnswer [1, 2, 3]) := rfl
  have hno : (wholeAnswer [1, 2, 3]).status ≠ 206 ∨ (wholeAnswer [1, 2, 3]).contentLength = none := .inl (by decide)
  ⟨rfl, by decide, .inl rfl, rfl, rfl, rfl, rfl, hhead, hno,
    openFile_zero_unreported rfl (by decide) (.inl rfl) rfl rfl rfl rfl hhead hno⟩

end DuckdbWasm
