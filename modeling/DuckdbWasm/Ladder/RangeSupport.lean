import DuckdbWasm.Ladder.ReadOpen

/-! # Recognising range support

On a server that honours Range on GET and answers the ranged HEAD with 206 or 200, openFile
returns the ranged descriptor of |C| bytes whenever one of its probes sees range support: the
ranged HEAD answered 206; with full reads allowed, the first-byte GET showing its
Content-Range; or, with HEAD requests unreliable, a second HEAD reporting more than one byte.
When none does, a HEAD answered 200 with full reads not allowed ends the ladder with 0. On a
server that never answers 206 no descriptor openFile returns is ranged.
-/
namespace DuckdbWasm
open Js

/-- How a server that honours Range, holding `C`, may answer `r`: a ranged GET with its window
(206, Content-Range showing |C| or hidden from the page); a ranged HEAD with 206 for its
window, or with 200 and Content-Length |C|; any other request in any way. -/
inductive HonoursRange (C : List UInt8) (r : Request) : Answer → Prop
  | get {range : ByteRange} {text : String} {contentRange : Option ContentRange} :
      r.method = .GET → r.range = some range →
      (contentRange = none ∨ contentRange = some ⟨some (.num C.length)⟩) →
      HonoursRange C r (.response ⟨206, text, some (.num (window C range).length), contentRange, window C range⟩)
  | headPartial {range : ByteRange} {text : String} {contentRange : Option ContentRange} {body : List UInt8} :
      r.method = .HEAD → r.range = some range →
      HonoursRange C r (.response ⟨206, text, some (.num (window C range).length), contentRange, body⟩)
  | headWhole {text : String} {contentRange : Option ContentRange} {body : List UInt8} :
      r.method = .HEAD → r.range.isSome →
      HonoursRange C r (.response ⟨200, text, some (.num C.length), contentRange, body⟩)
  | other {a : Answer} : r.range = none ∨ r.method = .PUT → HonoursRange C r a

namespace HonoursRange
variable {C : List UInt8} {im : Imports} {file : FileInfo} {a : Answer}

/-- The first-byte GET of a nonempty file gets one byte, its Content-Range shown or hidden. -/
theorem firstByte (h : HonoursRange C (firstByteRequest im file) a) (hC : C ≠ []) :
    ∃ text contentRange, a = .response ⟨206, text, some (.num 1), contentRange, C.take 1⟩ ∧
      (contentRange = none ∨ contentRange = some ⟨some (.num C.length)⟩) := by
  have hlen : 0 < C.length := List.length_pos.mpr hC
  cases h with
  | @get range text contentRange _ hr hcr =>
    simp only [firstByteRequest, fileRequest, remoteRequest_range, Option.some.injEq] at hr
    subst hr
    refine ⟨text, contentRange, ?_, hcr⟩
    have hmin : min (0 + 1 - 0) C.length = 1 := by omega
    simp only [window, rangeFirstByte, List.drop_zero, List.length_take, hmin]
    rfl
  | headPartial hm => simp [firstByteRequest, fileRequest] at hm
  | headWhole hm => simp [firstByteRequest, fileRequest] at hm
  | other h => simp [firstByteRequest, fileRequest] at h

/-- The ranged HEAD gets 206 or 200, with Content-Length |C| either way. -/
theorem rangedHead (h : HonoursRange C (rangedHeadRequest im file) a) :
    ∃ status text contentRange body, a = .response ⟨status, text, some (.num C.length), contentRange, body⟩ ∧
      (status = 206 ∨ status = 200) := by
  cases h with
  | get hm => simp [rangedHeadRequest, fileRequest] at hm
  | headPartial _ hr =>
    simp only [rangedHeadRequest, fileRequest, remoteRequest_range, Option.some.injEq] at hr
    subst hr
    exact ⟨_, _, _, _, rfl, .inl rfl⟩
  | headWhole => exact ⟨_, _, _, _, rfl, .inr rfl⟩
  | other h => simp [rangedHeadRequest, fileRequest] at h

end HonoursRange

theorem rangeServer_honoursRange (C : List UInt8) (n : Nat) (r : Request) :
    HonoursRange C r (rangeServer C n r) := by
  unfold rangeServer
  rcases hr : r.range with _ | range
  · exact .other (.inl hr)
  · rcases hm : r.method with _ | _ | _
    · exact .headPartial hm hr
    · exact .get hm hr (.inr rfl)
    · exact .other (.inr hm)

/-- Whether an answer is a response with status 206. -/
def Answer.isPartial : Answer → Bool
  | .response r => r.status == 206
  | .abort _ => false

/-- Whether an answer is a response whose Content-Range the page can read. -/
def Answer.showsRange : Answer → Bool
  | .response r => r.contentRange.isSome
  | .abort _ => false

/-- Whether openFile's probes see range support in the answers `net` gives from request
number `n` on: the ranged HEAD, sent when HEAD requests are reliable or full reads are not
allowed, answered 206; or, with full reads allowed, the first-byte GET after it showing its
Content-Range, or, with HEAD requests unreliable, a file longer than one byte. -/
def rangesRecognised (C : List UInt8) (im : Imports) (file : FileInfo) (net : Nat → Request → Answer)
    (n : Nat) : Bool :=
  if file.reliableHeadRequests || !file.allowFullHttpReads then
    (net n (rangedHeadRequest im file)).isPartial ||
      (file.allowFullHttpReads && (net (n + 1) (firstByteRequest im file)).showsRange)
  else (net n (firstByteRequest im file)).showsRange || decide (1 < C.length)

section Recognised
variable {C : List UInt8} {im : Imports} {file : FileInfo}

/-- Step 2, on a server honouring Range, settles the ranged descriptor of |C| bytes when the
first-byte GET shows its Content-Range, or when HEAD requests are unreliable and |C| > 1. -/
theorem firstByteProbe_recognised (w : World) (hC : C ≠ []) (hh : ∀ n r, HonoursRange C r (w.net n r))
    (hrec : (w.answer (firstByteRequest im file)).showsRange = true ∨
      (file.reliableHeadRequests = false ∧ 1 < C.length)) (contentLength : Option JsNumber) :
    ∃ w' new, Grows w w' new ∧ (∀ e ∈ new, e.1.range.isSome) ∧
      firstByteProbe im file contentLength w = (.normal (some w'.heap.brk), (openedFile (.num C.length) 0 w').2) := by
  obtain ⟨text, cr, hx, hcr⟩ := (hh w.sent.length (firstByteRequest im file)).firstByte hC
  rw [firstByteProbe_answered hx]
  rcases hcr with rfl | rfl
  · obtain ⟨hrel, hlen⟩ : file.reliableHeadRequests = false ∧ 1 < C.length := by
      simpa [World.answer, hx, Answer.showsRange] using hrec
    obtain ⟨status, text', cr', body, hhd, -⟩ := (hh (w.sent.length + 1) (rangedHeadRequest im file)).rangedHead
    have hgt : (some (JsNumber.num C.length)).any (·.gt 1) = true := by simp; omega
    simp only [bind_run, Option.none_bind, presumeLength_answered hrel ((World.answer_record _ _ _ _).trans hhd), hgt,
      if_true]
    have hr : firstByteRanged ⟨206, text, some (.num 1), none, C.take 1⟩ (some (.num C.length)) =
        some (.num C.length) := by simp [firstByteRanged]
    rw [firstByteSettle_ranged hr]
    refine ⟨_, _, (Grows.record _ _ _).trans (Grows.record _ _ _), ?_, rfl⟩
    simp [firstByteRequest, rangedHeadRequest, fileRequest]
  · simp only [bind_run, Option.some_bind, presumeLength_shown]
    have hr : firstByteRanged ⟨206, text, some (.num 1), some ⟨some (.num C.length)⟩, C.take 1⟩
        (some (.num C.length)) = some (.num C.length) := by simp [firstByteRanged]
    rw [firstByteSettle_ranged hr]
    exact ⟨_, _, Grows.record _ _ _, by simp [firstByteRequest, fileRequest], rfl⟩

/-- Steps 2 and 3 with full reads allowed: step 2 settles the ranged descriptor as above, and
step 3 is not reached. -/
theorem fallBack_recognised (w : World) (hC : C ≠ []) (hh : ∀ n r, HonoursRange C r (w.net n r))
    (hfull : file.allowFullHttpReads = true) (hrec : (w.answer (firstByteRequest im file)).showsRange = true ∨
      (file.reliableHeadRequests = false ∧ 1 < C.length)) (contentLength : Option JsNumber) (error : Option Thrown) :
    ∃ w' new, Grows w w' new ∧ (∀ e ∈ new, e.1.range.isSome) ∧
      fallBack im file contentLength error w = (.normal w'.heap.brk, (openedFile (.num C.length) 0 w').2) := by
  obtain ⟨w', new, hg, hr, hp⟩ := firstByteProbe_recognised w hC hh hrec contentLength
  rw [fallBack_allowed hfull, hp]
  exact ⟨w', new, hg, hr, rfl⟩

/-- On a server honouring Range, with range support recognised, the ladder returns the ranged
descriptor of |C| bytes, after ranged requests only. -/
theorem openForRead_recognised (w : World) (hC : C ≠ []) (hh : ∀ n r, HonoursRange C r (w.net n r))
    (hrec : rangesRecognised C im file w.net w.sent.length = true) :
    ∃ w' new, Grows w w' new ∧ (∀ e ∈ new, e.1.range.isSome) ∧
      openForRead im file w = (.normal w'.heap.brk, (openedFile (.num C.length) 0 w').2) := by
  simp only [openForRead, bind_run]
  unfold rangesRecognised at hrec
  cases hcond : (file.reliableHeadRequests || !file.allowFullHttpReads)
  · simp only [hcond, Bool.false_eq_true, ↓reduceIte] at hrec
    obtain ⟨hrel, hfull⟩ : file.reliableHeadRequests = false ∧ file.allowFullHttpReads = true := by
      simpa using hcond
    rw [rangedHead_skipped hcond]
    exact fallBack_recognised w hC hh hfull (by simpa [World.answer, hrel] using hrec) none none
  · simp only [hcond, ↓reduceIte] at hrec
    obtain ⟨status, text, cr, body, hhd, hst⟩ := (hh w.sent.length (rangedHeadRequest im file)).rangedHead
    rw [rangedHead_answered hcond hhd]
    have hhead : ∀ e ∈ [(rangedHeadRequest im file, Answer.response ⟨status, text, some (.num C.length), cr, body⟩)],
        e.1.range.isSome := by simp [rangedHeadRequest, fileRequest]
    rcases hst with rfl | rfl
    · exact ⟨_, _, Grows.record _ _ _, hhead, Prod.ext (openedFile_spec _ _ _).1 rfl⟩
    · obtain ⟨hfull, hshows⟩ : file.allowFullHttpReads = true ∧
          (w.net (w.sent.length + 1) (firstByteRequest im file)).showsRange = true := by
        simpa [Answer.isPartial, hhd] using hrec
      rw [HeadProbe.ofResponse_ok]
      obtain ⟨w', new, hg, hr, hp⟩ := fallBack_recognised
        (w.record (rangedHeadRequest im file) (.response ⟨200, text, some (.num C.length), cr, body⟩)) hC hh hfull
        (.inl (by rwa [World.answer_record])) (some (.num C.length)) none
      exact ⟨w', _, (Grows.record _ _ _).trans hg, fun e he => (List.mem_append.mp he).elim (hhead e) (hr e), hp⟩

end Recognised

/-- A server that ignores Range: it never answers 206. -/
def IgnoresRange (net : Nat → Request → Answer) : Prop := ∀ n r x, net n r = .response x → x.status ≠ 206

/-- How the ladder may end on a server that ignores Range: with 0, with a descriptor whose
buffer is not 0, or with a throw. -/
inductive UnrangedEnd : Completion Nat × World → Prop
  | zero {w : World} : UnrangedEnd (.normal 0, w)
  | buffered {v buffer : Nat} {w : World} : 0 < buffer → (w.heap.descriptor v).2 = f64Bytes (.num buffer) →
      UnrangedEnd (.normal v, w)
  | thrown {e : Thrown} {w : World} : UnrangedEnd (.thrown e, w)

section Unranged
variable {im : Imports} {file : FileInfo}

theorem bufferedFile_unranged (body : List UInt8) (w : World) : UnrangedEnd (bufferedFile body w) := by
  obtain ⟨v, h1, -, h3, -⟩ := bufferedFile_spec body w
  rw [show bufferedFile body w = (.normal v, (bufferedFile body w).2) from Prod.ext h1 rfl]
  exact .buffered w.heap.brk_pos (by rw [h3])

theorem readFailed_unranged (file : FileInfo) (error : Option Thrown) (w : World) :
    UnrangedEnd (readFailed file error w) := by
  cases error
  · exact .zero
  · exact .thrown

theorem fullRead_unranged (error : Option Thrown) (w : World) : UnrangedEnd (fullRead im file error w) := by
  rcases hans : w.answer (fullRequest im file) with xhr | e
  · by_cases h200 : xhr.status = 200
    · rw [fullRead_ok hans h200]
      exact bufferedFile_unranged _ _
    · rw [fullRead_refused hans h200]
      exact readFailed_unranged _ _ _
  · rw [fullRead_aborted hans]
    exact .thrown

/-- Without a 206 answer, step 2 settles only by buffering the download. -/
theorem firstByteSettle_unranged {xhr : Response} (hx : xhr.status ≠ 206) (presumed contentLength : Option JsNumber)
    (w : World) : firstByteSettle xhr presumed contentLength w = (.normal none, w) ∨
      ∃ v w', firstByteSettle xhr presumed contentLength w = (.normal (some v), w') ∧ UnrangedEnd (.normal v, w') := by
  have hr : firstByteRanged xhr presumed = none := by
    rcases hp : firstByteRanged xhr presumed with _ | s
    · rfl
    · exact absurd (firstByteRanged_some hp).1 hx
  cases hc : firstByteComplete xhr contentLength
  · exact .inl (firstByteSettle_unsettled hr hc)
  · rw [firstByteSettle_complete hr hc, map_run]
    obtain ⟨v, h1, -⟩ := bufferedFile_spec xhr.body w
    have hend := bufferedFile_unranged xhr.body w
    rw [show bufferedFile xhr.body w = (.normal v, (bufferedFile xhr.body w).2) from Prod.ext h1 rfl] at hend ⊢
    exact .inr ⟨_, _, rfl, hend⟩

theorem firstByteProbe_unranged (w : World) (hi : IgnoresRange w.net) (contentLength : Option JsNumber) (v : Nat)
    (h : (firstByteProbe im file contentLength w).1 = .normal (some v)) :
    UnrangedEnd (.normal v, (firstByteProbe im file contentLength w).2) := by
  rcases hans : w.answer (firstByteRequest im file) with xhr | e
  · rw [firstByteProbe_answered hans, bind_run] at h ⊢
    revert h
    rcases presumeLength im file (xhr.contentRange.bind (·.total)) contentLength
      (w.record (firstByteRequest im file) (.response xhr)) with ⟨_ | _, w₂⟩ <;> intro h
    · dsimp only at h ⊢
      rcases firstByteSettle_unranged (hi _ _ _ hans) _ _ w₂ with hs | ⟨v', w', hs, hend⟩ <;> rw [hs] at h ⊢
      · cases h
      · cases h
        exact hend
    · cases h
  · rw [firstByteProbe_aborted hans] at h
    cases h

theorem fallBack_unranged (w : World) (hi : IgnoresRange w.net) (contentLength : Option JsNumber)
    (error : Option Thrown) : UnrangedEnd (fallBack im file contentLength error w) := by
  cases hfull : file.allowFullHttpReads
  · rw [fallBack_disallowed hfull]
    exact readFailed_unranged _ _ _
  · rw [fallBack_allowed hfull]
    have hp : ∀ v, (firstByteProbe im file contentLength w).1 = .normal (some v) →
        UnrangedEnd (.normal v, (firstByteProbe im file contentLength w).2) :=
      firstByteProbe_unranged w hi contentLength
    revert hp
    rcases firstByteProbe im file contentLength w with ⟨(_ | v) | e, w'⟩ <;> intro hp
    · exact fullRead_unranged _ _
    · exact hp v rfl
    · exact .thrown

/-- On a server that ignores Range the ladder never returns a ranged descriptor. -/
theorem openForRead_unranged (w : World) (hi : IgnoresRange w.net) (im : Imports) (file : FileInfo) :
    UnrangedEnd (openForRead im file w) := by
  simp only [openForRead, bind_run]
  cases hcond : (file.reliableHeadRequests || !file.allowFullHttpReads)
  · rw [rangedHead_skipped hcond]
    exact fallBack_unranged w hi _ _
  · rcases hans : w.answer (rangedHeadRequest im file) with head | e
    · rw [rangedHead_answered hcond hans]
      obtain ⟨cl, hp⟩ := HeadProbe.ofResponse_of_ne (hi _ _ _ hans)
      simp only [hp]
      exact fallBack_unranged (w.record _ (.response head)) hi _ _
    · rw [rangedHead_aborted hcond hans]
      exact fallBack_unranged (w.record _ (.abort e)) hi _ _

end Unranged

/-- openFile of an HTTP or S3 file for reading, on a server that honours Range and holds a
nonempty `C`, returns the ranged descriptor of |C| bytes, with no failWith and after ranged
requests only, whenever its probes recognise range support; with full reads not allowed and
the ranged HEAD answered 200 it returns 0 without a failWith; on a server that never answers
206 it returns 0 or a descriptor whose buffer is not 0. -/
theorem openFile_range_recognition {w : World} {fileId flags : Nat} {file : FileInfo} {C : List UInt8}
    (hcur : w.engine.current fileId = some file) (hepoch : w.engine.epoch fileId ≠ 0)
    (hproto : file.dataProtocol = .HTTP ∨ file.dataProtocol = .S3)
    (hread : hasFlag flags w.imports.fileFlagsRead = true) (hwrite : hasFlag flags w.imports.fileFlagsWrite = false)
    (happend : hasFlag flags w.imports.fileFlagsAppend = false) :
    (C ≠ [] → (∀ n r, HonoursRange C r (w.net n r)) →
      rangesRecognised C w.imports file w.net w.sent.length = true →
      ∃ v new, (openFile fileId flags w).1 = .normal v ∧ (openFile fileId flags w).2.failures = w.failures ∧
        (openFile fileId flags w).2.heap.descriptor v = (f64Bytes (.num C.length), f64Bytes (.num 0)) ∧
        (openFile fileId flags w).2.sent = w.sent ++ new ∧ ∀ e ∈ new, e.1.range.isSome) ∧
    (file.allowFullHttpReads = false → (∀ n r, HonoursRange C r (w.net n r)) →
      (w.answer (rangedHeadRequest w.imports file)).isPartial = false →
      (openFile fileId flags w).1 = .normal 0 ∧ (openFile fileId flags w).2.failures = w.failures) ∧
    (IgnoresRange w.net → ∃ v, (openFile fileId flags w).1 = .normal v ∧
      (v = 0 ∨ ∃ buffer : Nat, 0 < buffer ∧
        ((openFile fileId flags w).2.heap.descriptor v).2 = f64Bytes (.num buffer))) := by
  obtain ⟨cache, hopen⟩ := openFile_read hcur hepoch hproto hread hwrite happend
  rw [hopen, tryCatch_run]
  refine ⟨fun hC hh hrec => ?_, fun hfull hh hpartial => ?_, fun hi => ?_⟩
  · obtain ⟨w', new, hg, hr, hrun⟩ := openForRead_recognised { w with fileInfoCache := cache } hC hh hrec
    rw [hrun]
    exact ⟨_, new, rfl, hg.failures, (openedFile_spec _ _ _).2.1, hg.sent, hr⟩
  · obtain ⟨status, text, cr, body, hhd, -⟩ := (hh w.sent.length (rangedHeadRequest w.imports file)).rangedHead
    have h206 : status ≠ 206 := fun h => by simp [World.answer, hhd, Answer.isPartial, h] at hpartial
    rw [@openForRead_gives_up w.imports file { w with fileInfoCache := cache } hfull _ hhd (.inl h206)]
    exact ⟨rfl, rfl⟩
  · have hend := openForRead_unranged { w with fileInfoCache := cache } hi w.imports file
    generalize openForRead w.imports file { w with fileInfoCache := cache } = r at hend ⊢
    cases hend with
    | zero => exact ⟨0, rfl, .inl rfl⟩
    | buffered hb hd => exact ⟨_, rfl, .inr ⟨_, hb, hd⟩⟩
    | thrown => exact ⟨0, rfl, .inl rfl⟩

theorem wholeServer_ignoresRange (C : List UInt8) : IgnoresRange (wholeServer C) := by
  intro _ _ _ h
  cases h
  show (200 : Nat) ≠ 206
  decide

/-- A server that honours Range on GET and answers every HEAD with 200 and Content-Length |C|. -/
def headWholeServer (C : List UInt8) : Nat → Request → Answer := fun n r =>
  if r.method = .HEAD then .response ⟨200, "OK", some (.num C.length), none, []⟩ else rangeServer C n r

theorem headWholeServer_honoursRange (C : List UInt8) (n : Nat) (r : Request) :
    HonoursRange C r (headWholeServer C n r) := by
  unfold headWholeServer
  split
  · rcases hr : r.range with _ | range
    · exact .other (.inl hr)
    · exact .headWhole ‹_› (by simp [hr])
  · exact rangeServer_honoursRange C n r

/-- A runtime reading `data.bin`, full reads not allowed, from a server that honours Range on
GET but answers HEAD with 200. -/
def headWholeRangedOnly : World :=
  World.fresh Imports.duckdb (Engine.ofFiles [httpRangedOnly]) (headWholeServer [1, 2, 3]) [] (fun _ => .blob [])
    Opfs.empty

theorem openFile_range_recognition_rangedBinary :
    (rangedBinary.engine.current 1 = some httpBinary ∧ rangedBinary.engine.epoch 1 ≠ 0 ∧
      (httpBinary.dataProtocol = .HTTP ∨ httpBinary.dataProtocol = .S3) ∧
      hasFlag 1 rangedBinary.imports.fileFlagsRead = true ∧ hasFlag 1 rangedBinary.imports.fileFlagsWrite = false ∧
      hasFlag 1 rangedBinary.imports.fileFlagsAppend = false) ∧
    ([1, 2, 3] ≠ ([] : List UInt8) ∧ (∀ n r, HonoursRange [1, 2, 3] r (rangedBinary.net n r)) ∧
      rangesRecognised [1, 2, 3] rangedBinary.imports httpBinary rangedBinary.net rangedBinary.sent.length = true) ∧
    (∃ v new, (openFile 1 1 rangedBinary).1 = .normal v ∧ (openFile 1 1 rangedBinary).2.failures = [] ∧
      (openFile 1 1 rangedBinary).2.heap.descriptor v = (f64Bytes (.num 3), f64Bytes (.num 0)) ∧
      (openFile 1 1 rangedBinary).2.sent = [] ++ new ∧ ∀ e ∈ new, e.1.range.isSome) ∧
    (httpRangedOnly.allowFullHttpReads = false ∧ (∀ n r, HonoursRange [1, 2, 3] r (headWholeRangedOnly.net n r)) ∧
      (headWholeRangedOnly.answer (rangedHeadRequest headWholeRangedOnly.imports httpRangedOnly)).isPartial = false ∧
      (openFile 1 1 headWholeRangedOnly).1 = .normal 0 ∧
      (openFile 1 1 headWholeRangedOnly).2.failures = headWholeRangedOnly.failures) ∧
    (IgnoresRange rangesIgnored.net ∧ ∃ v, (openFile 1 1 rangesIgnored).1 = .normal v ∧
      (v = 0 ∨ ∃ buffer : Nat, 0 < buffer ∧
        ((openFile 1 1 rangesIgnored).2.heap.descriptor v).2 = f64Bytes (.num buffer))) :=
  ⟨⟨rfl, by decide, .inl rfl, rfl, rfl, rfl⟩, ⟨by decide, rangeServer_honoursRange _, rfl⟩,
    (@openFile_range_recognition rangedBinary 1 1 httpBinary [1, 2, 3] rfl (by decide) (.inl rfl) rfl rfl rfl).1
      (by decide) (rangeServer_honoursRange _) rfl,
    ⟨rfl, headWholeServer_honoursRange _, rfl,
      (@openFile_range_recognition headWholeRangedOnly 1 1 httpRangedOnly [1, 2, 3] rfl (by decide) (.inl rfl) rfl
        rfl rfl).2.1 rfl (headWholeServer_honoursRange _) rfl⟩,
    wholeServer_ignoresRange _,
    (@openFile_range_recognition rangesIgnored 1 1 httpRangedOnly [1, 2, 3] rfl (by decide) (.inl rfl) rfl rfl
      rfl).2.2 (wholeServer_ignoresRange _)⟩

/-- With full reads not allowed, a ranged HEAD answered 200 ends openFile with 0, not with the
ranged descriptor, although every ranged GET would be answered 206. -/
theorem openFile_zero_on_whole_head :
    (∀ n r, HonoursRange [1, 2, 3] r (headWholeRangedOnly.net n r)) ∧
    (openFile 1 1 headWholeRangedOnly).1 = .normal 0 ∧ (openFile 1 1 headWholeRangedOnly).2.failures = [] :=
  ⟨headWholeServer_honoursRange _, rfl, rfl⟩

end DuckdbWasm
