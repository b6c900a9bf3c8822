import DuckdbWasm.Frame.Keeps

/-! # Signed S3 requests

addS3Headers signs a request for a method, an object path and a payload; S3 accepts it only
when these are the method it is opened with, the path its URL was built from and the body it
sends. Every request builder of the runtime signs for its own method, and the PUT of writeFile
over exactly the bytes it sends; the ranged GET of glob's fallback is signed for HEAD. Along
every run, that GET is the only request sent signed for another method.
-/
namespace DuckdbWasm
open Js

/-- `r` is signed, if at all, for the method it is opened with, for the object path its URL
addresses through getHTTPUrl, and over the body it sends. -/
def SignedAsSent (im : Imports) (r : Request) : Prop :=
  match r.signature with
  | some s => s.method = r.method ∧ r.url = im.getHTTPUrl s.config s.path ∧ s.payload = r.body
  | none => True

theorem globFallbackRequest_not_signedAsSent {im : Imports} {globalInfo : Option GlobalFileInfo}
    {path : String} (hs3 : startsWith path "s3://" = true) :
    ¬ SignedAsSent im (pathRequest im globalInfo .GET path (some rangeFirstByte) .HEAD) := by
  simp [SignedAsSent, pathRequest, remoteRequest, hs3]

theorem remoteRequest_signature_some {im : Imports} {isS3 : Bool} {config : Option S3Config} {method : HttpMethod}
    {path : Option String} {range : Option ByteRange} {signedAs : HttpMethod} {s : S3Signature}
    (hs : (remoteRequest im isS3 config method path range signedAs).signature = some s) :
    s.method = signedAs ∧ s.payload = (remoteRequest im isS3 config method path range signedAs).body := by
  cases isS3 <;> cases hs
  exact ⟨rfl, rfl⟩

/-- A request the runtime builds is signed over the body it sends, and for the method it is
sent with unless it is glob's ranged fallback GET. -/
theorem RuntimeRequest.signature_eq {r : Request} (hr : RuntimeRequest r) {s : S3Signature}
    (hs : r.signature = some s) :
    s.payload = r.body ∧
      (s.method = r.method ∨ ∃ im g path, r = pathRequest im g .GET path (some rangeFirstByte) .HEAD) := by
  cases hr with
  | remote =>
    obtain ⟨hm, hp⟩ := remoteRequest_signature_some hs
    exact ⟨hp, .inl (by rw [hm, remoteRequest_method])⟩
  | globFallback im g path => exact ⟨(remoteRequest_signature_some hs).2, .inr ⟨im, g, path, rfl⟩⟩
  | put => cases hs; exact ⟨rfl, .inl rfl⟩

/-- Every request in the log is one the runtime builds. -/
def SentBuilt (w : World) : Prop := ∀ p ∈ w.sent, RuntimeRequest p.1

theorem keeps_sentBuilt_of_sent {α : Type} {m : Js α} (hm : ∀ w, (m w).2.sent = w.sent) : Keeps SentBuilt m :=
  fun w h p hp => h p (hm w ▸ hp)

theorem keeps_sentBuilt_of_opfsStep {α : Type} {m : Js α} (hm : ∀ w, OpfsStep w (m w).2) : Keeps SentBuilt m :=
  keeps_sentBuilt_of_sent fun w => by rw [hm w]

theorem sentBuilt_keptByEffects : KeptByEffects SentBuilt where
  send r hr w h p hp := by
    unfold send at hp
    split at hp <;> rcases List.mem_append.mp hp with hp | hp
    all_goals first | exact h p hp | rw [List.mem_singleton.mp hp]; exact hr
  malloc _ := keeps_sentBuilt_of_sent fun _ => rfl
  heapSet _ _ := keeps_sentBuilt_of_sent fun _ => rfl
  failWith _ := keeps_sentBuilt_of_sent fun _ => rfl
  globAddPath _ := keeps_sentBuilt_of_sent fun _ => rfl
  getFileInfo fileId := keeps_sentBuilt_of_sent fun w => by rw [getFileInfo_frame]
  getGlobalFileInfo := keeps_sentBuilt_of_sent fun w => by rw [getGlobalFileInfo_run]
  dropCachedFileInfo _ := keeps_sentBuilt_of_sent fun _ => rfl
  ensureFileHandle ref fileName := keeps_sentBuilt_of_opfsStep (ensureFileHandle_opfsStep ref fileName)
  ensureFile ref := keeps_sentBuilt_of_opfsStep (ensureFile_opfsStep ref)
  ensureAccessHandle ref := keeps_sentBuilt_of_opfsStep (ensureAccessHandle_opfsStep ref)
  accessWrite a input offset := keeps_sentBuilt_of_opfsStep (accessWrite_opfsStep a input offset)
  accessTruncate a newSize := keeps_sentBuilt_of_opfsStep (accessTruncate_opfsStep a newSize)
  releaseAccessHandle ref := keeps_sentBuilt_of_opfsStep (releaseAccessHandle_opfsStep ref)
  rebindFile _ _ := keeps_sentBuilt_of_sent fun _ => rfl
  dropCachedUrl _ := keeps_sentBuilt_of_sent fun _ => rfl

theorem Reach.sentBuilt {w₀ w : World} (hr : Reach w₀ w) (h₀ : SentBuilt w₀) : SentBuilt w := by
  induction hr with
  | init => exact h₀
  | call c _ ih => exact sentBuilt_keptByEffects.call c _ ih
  | engine e _ _ ih => exact ih

/-- When the HEAD of an S3 path fails and full reads are allowed, glob sends, after the HEAD,
a ranged GET signed for HEAD. -/
theorem glob_signs_fallback_get_for_head {w : World} {path : String} {g : GlobalFileInfo} {resp : Response}
    (hs3 : startsWith path "s3://" = true) (hg : (getGlobalFileInfo w).1 = .normal (some g))
    (hallow : g.allowFullHttpReads = true)
    (hhead : w.answer (pathRequest w.imports (some g) .HEAD path none .HEAD) = .response resp)
    (hstatus : resp.status ≠ 200 ∧ resp.status ≠ 206) :
    ∃ a, (glob path w).2.sent = w.sent ++ [(pathRequest w.imports (some g) .HEAD path none .HEAD, .response resp),
        (pathRequest w.imports (some g) .GET path (some rangeFirstByte) .HEAD, a)] ∧
      ¬ SignedAsSent w.imports (pathRequest w.imports (some g) .GET path (some rangeFirstByte) .HEAD) := by
  set w₁ := (getGlobalFileInfo w).2
  set w₂ := w₁.record (pathRequest w.imports (some g) .HEAD path none .HEAD) (.response resp)
  have h₁ : getGlobalFileInfo w = (.normal (some g), w₁) := Prod.ext hg rfl
  have h₂ : getGlobalFileInfo w₂ = (.normal (some g), w₂) :=
    hg ▸ getGlobalFileInfo_again rfl (getGlobalFileInfo_engine w)
  have hsend : send (pathRequest w.imports (some g) .HEAD path none .HEAD) w₁ = (.normal resp, w₂) :=
    send_response (by simpa [w₁] using hhead)
  refine ⟨w₂.answer (pathRequest w.imports (some g) .GET path (some rangeFirstByte) .HEAD), ?_,
    globFallbackRequest_not_signedAsSent hs3⟩
  simp only [glob, hs3, Bool.or_true, if_true, tryCatch_run, bind_run, read_run, globalInfoFor, h₁, hsend,
    if_pos hstatus, globFallback, h₂, Option.any_some, hallow, Bool.not_true, Bool.false_eq_true, if_false]
  unfold send
  rcases w₂.answer (pathRequest w.imports (some g) .GET path (some rangeFirstByte) .HEAD) with r | e
  · dsimp only
    split_ifs <;> simp [w₂, w₁, failWith, globAddPath]
  · simp [w₂, w₁, failWith]

/-- A runtime whose global record allows full reads, against an S3 endpoint that refuses HEAD. -/
def s3RefusesHead : World :=
  World.fresh Imports.duckdb { Engine.empty with globalRecord := some ⟨0, none, true⟩, globalEpoch := 1 }
    (fun n _ => if n = 0 then .response ⟨403, "Forbidden", none, none, []⟩
      else .response ⟨206, "Partial Content", some (.num 1), none, [0]⟩)
    [] (fun _ => .blob []) Opfs.empty

theorem glob_signs_fallback_get_for_head_s3RefusesHead :
    startsWith "s3://bucket/data.parquet" "s3://" = true ∧
    (getGlobalFileInfo s3RefusesHead).1 = .normal (some ⟨1, none, true⟩) ∧
    s3RefusesHead.answer (pathRequest s3RefusesHead.imports (some ⟨1, none, true⟩) .HEAD
      "s3://bucket/data.parquet" none .HEAD) = .response ⟨403, "Forbidden", none, none, []⟩ ∧
    ∃ a, (glob "s3://bucket/data.parquet" s3RefusesHead).2.sent = s3RefusesHead.sent ++
        [(pathRequest s3RefusesHead.imports (some ⟨1, none, true⟩) .HEAD "s3://bucket/data.parquet" none .HEAD,
          .response ⟨403, "Forbidden", none, none, []⟩),
        (pathRequest s3RefusesHead.imports (some ⟨1, none, true⟩) .GET "s3://bucket/data.parquet"
          (some rangeFirstByte) .HEAD, a)] ∧
      ¬ SignedAsSent s3RefusesHead.imports (pathRequest s3RefusesHead.imports (some ⟨1, none, true⟩) .GET
        "s3://bucket/data.parquet" (some rangeFirstByte) .HEAD) :=
  ⟨by decide, rfl, rfl, glob_signs_fallback_get_for_head (by decide) rfl rfl rfl (by decide)⟩

/-- Along every run from a runtime that has sent nothing, each request sent with an S3
signature is signed over the body it sends, and for the method it is sent with unless it is
glob's ranged fallback GET. -/
theorem Reach.sent_signature {w₀ w : World} (hr : Reach w₀ w) (h₀ : w₀.sent = []) {r : Request}
    {a : Answer} (hp : (r, a) ∈ w.sent) {s : S3Signature} (hs : r.signature = some s) :
    s.payload = r.body ∧
      (s.method = r.method ∨ ∃ im g path, r = pathRequest im g .GET path (some rangeFirstByte) .HEAD) :=
  (hr.sentBuilt (fun p hp => by simp [h₀] at hp) _ hp).signature_eq hs

/-- glob's fallback GET for `s3://bucket/data.parquet` on s3RefusesHead, its answer there,
and the signature it carries: for HEAD. -/
def fallbackGet : Request :=
  pathRequest Imports.duckdb (some ⟨1, none, true⟩) .GET "s3://bucket/data.parquet" (some rangeFirstByte) .HEAD

def fallbackAnswer : Answer := .response ⟨206, "Partial Content", some (.num 1), none, [0]⟩

def fallbackSignature : S3Signature := ⟨none, some "s3://bucket/data.parquet", .HEAD, none, none⟩

/-- The fallback GET of a glob on s3RefusesHead is logged signed for HEAD: the case the
signature invariant leaves to glob's ranged fallback GET. -/
theorem sent_signature_s3RefusesHead :
    Reach s3RefusesHead ((Call.glob "s3://bucket/data.parquet").run s3RefusesHead).2 ∧ s3RefusesHead.sent = [] ∧
      (fallbackGet, fallbackAnswer) ∈ ((Call.glob "s3://bucket/data.parquet").run s3RefusesHead).2.sent ∧
      fallbackGet.signature = some fallbackSignature ∧
      (fallbackSignature.payload = fallbackGet.body ∧
        (fallbackSignature.method = fallbackGet.method ∨
          ∃ im g path, fallbackGet = pathRequest im g .GET path (some rangeFirstByte) .HEAD)) :=
  have hr : Reach s3RefusesHead ((Call.glob "s3://bucket/data.parquet").run s3RefusesHead).2 := .call _ .init
  have hp : (fallbackGet, fallbackAnswer) ∈ ((Call.glob "s3://bucket/data.parquet").run s3RefusesHead).2.sent := by
    decide
  ⟨hr, rfl, hp, rfl, Reach.sent_signature hr rfl hp rfl⟩

end DuckdbWasm
