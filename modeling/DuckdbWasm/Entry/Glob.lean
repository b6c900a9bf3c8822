import DuckdbWasm.Entry.Remote
import DuckdbWasm.Frame.Keeps

/-! # What glob registers

glob adds a remote path to its results after a HEAD for it, or, when that fails and full reads
are allowed, a ranged GET for it, is answered 200 or 206. Every step of glob other than that
addition only logs requests, so a glob adds at most the path itself, and only after one of the
requests it sent for the path was answered 200 or 206; a HEAD answered so always adds it.
-/
namespace DuckdbWasm
open Js

/-- `r` asks for `path`: glob and checkFile build their requests on it. -/
def RequestFor (path : String) (r : Request) : Prop :=
  ∃ im g method range signedAs, r = pathRequest im g method path range signedAs

/-- What a glob of `path` may do from `w` to `w'`: log new requests and leave the glob results,
or add `path` to them after one of the new requests, for `path`, was answered 200 or 206. -/
def GlobEffect (path : String) (w w' : World) : Prop :=
  ∃ new, w'.sent = w.sent ++ new ∧ (w'.globPaths = w.globPaths ∨
    (w'.globPaths = w.globPaths ++ [path] ∧
      ∃ r resp, (r, Answer.response resp) ∈ new ∧ RequestFor path r ∧ (resp.status = 200 ∨ resp.status = 206)))

/-- Every run of `m` only logs requests: it keeps the glob results. -/
def LogsOnly (m : Js α) : Prop := ∀ w, ∃ pre, (m w).2.sent = w.sent ++ pre ∧ (m w).2.globPaths = w.globPaths

/-- Every run of `m` has a glob effect on `path`. -/
def Registers (path : String) (m : Js α) : Prop := ∀ w, GlobEffect path w (m w).2

namespace GlobEffect
variable {path : String} {w w₁ w' w'' : World} {pre : List (Request × Answer)}

theorem of_logs (hs : w'.sent = w.sent ++ pre) (hg : w'.globPaths = w.globPaths) : GlobEffect path w w' :=
  ⟨pre, hs, .inl hg⟩

/-- A step that only logs requests may come first, -/
theorem after (h : GlobEffect path w₁ w') (hs : w₁.sent = w.sent ++ pre) (hg : w₁.globPaths = w.globPaths) :
    GlobEffect path w w' := by
  obtain ⟨new, hsent, hpaths⟩ := h
  refine ⟨pre ++ new, by rw [hsent, hs, List.append_assoc], ?_⟩
  rw [hg] at hpaths
  exact hpaths.imp_right fun ⟨h, r, resp, hmem, hfor, hok⟩ => ⟨h, r, resp, List.mem_append_right _ hmem, hfor, hok⟩

/-- and one may come last. -/
theorem then_logs (h : GlobEffect path w w') (hs : w''.sent = w'.sent ++ pre) (hg : w''.globPaths = w'.globPaths) :
    GlobEffect path w w'' := by
  obtain ⟨new, hsent, hpaths⟩ := h
  refine ⟨new ++ pre, by rw [hs, hsent, List.append_assoc], ?_⟩
  rw [hg]
  exact hpaths.imp_right fun ⟨h, r, resp, hmem, hfor, hok⟩ => ⟨h, r, resp, List.mem_append_left _ hmem, hfor, hok⟩

end GlobEffect

namespace LogsOnly
variable {α β : Type}

theorem of_frame {m : Js α} (hm : ∀ w, (m w).2.sent = w.sent ∧ (m w).2.globPaths = w.globPaths) : LogsOnly m :=
  fun w => ⟨[], by rw [(hm w).1, List.append_nil], (hm w).2⟩

theorem send (r : Request) : LogsOnly (DuckdbWasm.send r) := fun w => by
  unfold DuckdbWasm.send
  split <;> exact ⟨[(r, _)], rfl, rfl⟩

theorem bind {m : Js α} {f : α → Js β} (hm : LogsOnly m) (hf : ∀ a, LogsOnly (f a)) :
    LogsOnly (m >>= f) := fun w => by
  obtain ⟨pre, hs, hg⟩ := hm w
  rw [bind_run]
  rcases hr : m w with ⟨_ | _, w'⟩ <;> rw [hr] at hs hg
  · obtain ⟨pre', hs', hg'⟩ := hf _ w'
    exact ⟨pre ++ pre', by rw [hs', hs, List.append_assoc], hg'.trans hg⟩
  · exact ⟨pre, hs, hg⟩

theorem globalInfoFor (path : String) : LogsOnly (DuckdbWasm.globalInfoFor path) :=
  of_frame fun w => by
    obtain ⟨g, cached, h⟩ := globalInfoFor_run path w
    rw [h]
    exact ⟨rfl, rfl⟩

theorem failWith (message : String) : LogsOnly (DuckdbWasm.failWith message) := of_frame fun _ => ⟨rfl, rfl⟩

theorem getGlobalFileInfo : LogsOnly DuckdbWasm.getGlobalFileInfo :=
  of_frame fun w => by rw [getGlobalFileInfo_run]; exact ⟨rfl, rfl⟩

end LogsOnly

namespace Registers
variable {α β : Type} {path : String}

theorem of_logsOnly {m : Js α} (h : LogsOnly m) : Registers path m := fun w =>
  let ⟨_, hs, hg⟩ := h w
  .of_logs hs hg

theorem bind {m : Js α} {f : α → Js β} (hm : LogsOnly m) (hf : ∀ a, Registers path (f a)) :
    Registers path (m >>= f) := fun w => by
  obtain ⟨pre, hs, hg⟩ := hm w
  rw [bind_run]
  rcases hr : m w with ⟨_ | _, w'⟩ <;> rw [hr] at hs hg
  · exact (hf _ w').after hs hg
  · exact .of_logs hs hg

theorem tryCatch {m : Js α} {handler : Thrown → Js α} (hm : Registers path m) (hh : ∀ e, LogsOnly (handler e)) :
    Registers path (Js.tryCatch m handler) := fun w => by
  have h := hm w
  rw [tryCatch_run]
  rcases hr : m w with ⟨_ | e, w'⟩ <;> rw [hr] at h
  · exact h
  · obtain ⟨pre, hs, hg⟩ := hh e w'
    exact h.then_logs hs hg

theorem ite {c : Prop} {_ : Decidable c} {m m' : Js α} (hm : Registers path m) (hm' : Registers path m') :
    Registers path (if c then m else m') := by
  split <;> assumption

/-- A request for `path` whose answer 200 or 206 leads to adding `path`, and any other answer
to a glob effect. -/
theorem send_add {r : Request} {f : Response → Js Unit} (hfor : RequestFor path r)
    (hadd : ∀ resp, (resp.status = 200 ∨ resp.status = 206) → f resp = globAddPath path)
    (hf : ∀ resp, ¬(resp.status = 200 ∨ resp.status = 206) → Registers path (f resp)) :
    Registers path (DuckdbWasm.send r >>= f) := fun w => by
  rw [bind_run]
  rcases ha : w.answer r with resp | e
  · rw [send_response ha]
    dsimp only
    by_cases hok : resp.status = 200 ∨ resp.status = 206
    · rw [hadd resp hok]
      exact ⟨[(r, .response resp)], rfl, .inr ⟨rfl, r, resp, List.mem_singleton_self _, hfor, hok⟩⟩
    · exact (hf resp hok _).after rfl rfl
  · rw [send_abort ha]
    exact .of_logs rfl rfl

end Registers

theorem pathRequest_for (im : Imports) (g : Option GlobalFileInfo) (method : HttpMethod) (path : String)
    (range : Option ByteRange) (signedAs : HttpMethod) : RequestFor path (pathRequest im g method path range signedAs) :=
  ⟨im, g, method, range, signedAs, rfl⟩

theorem globFallback_registers (im : Imports) (path : String) : Registers path (globFallback im path) :=
  Registers.bind LogsOnly.getGlobalFileInfo fun _ => .ite (.of_logsOnly (LogsOnly.failWith _))
    (Registers.bind (LogsOnly.globalInfoFor _) fun _ => .send_add (pathRequest_for ..)
      (fun _ hok => if_neg (by omega)) fun _ hok => by rw [if_pos (by omega)]; exact .of_logsOnly (LogsOnly.failWith _))

/-- glob adds at most `path` to the glob results, and only after a request for `path` it sent
was answered 200 or 206. -/
theorem glob_registers (path : String) (w : World) : GlobEffect path w (glob path w).2 :=
  (Registers.tryCatch (.ite (Registers.bind (LogsOnly.of_frame fun _ => ⟨rfl, rfl⟩) fun _ =>
    Registers.bind (LogsOnly.globalInfoFor _) fun _ => .send_add (pathRequest_for ..)
      (fun _ hok => if_neg (by omega)) fun _ hok => by rw [if_pos (by omega)]; exact globFallback_registers _ _)
    (.of_logsOnly (LogsOnly.of_frame fun _ => ⟨rfl, rfl⟩))) fun _ => LogsOnly.failWith _) w

/-- glob adds a remote path whose HEAD is answered 200 or 206. -/
theorem glob_adds_found {w : World} {path : String}
    (hremote : (startsWith path "http" || startsWith path "s3://") = true) :
    ∃ head : Request, RequestFor path head ∧ head.method = .HEAD ∧
      ∀ resp, w.answer head = .response resp → (resp.status = 200 ∨ resp.status = 206) →
        (glob path w).2.globPaths = w.globPaths ++ [path] := by
  obtain ⟨g, cached, hg⟩ := globalInfoFor_run path w
  refine ⟨pathRequest w.imports g .HEAD path none .HEAD, pathRequest_for .., by simp [pathRequest],
    fun resp ha hok => ?_⟩
  simp only [glob, tryCatch_run, hremote, if_true, bind_run, read_run, hg]
  rw [send_response (show ({ w with globalFileInfo := cached } : World).answer _ = _ from ha)]
  dsimp only
  rw [if_neg (by omega)]
  rfl

/-- `w` is `w₀` after requests were logged and paths appended to the glob results, each of them
after a request for it, logged since `w₀`, was answered 200 or 206. -/
def GlobLog (w₀ w : World) : Prop :=
  ∃ new added, w.sent = w₀.sent ++ new ∧ w.globPaths = w₀.globPaths ++ added ∧
    ∀ p ∈ added, ∃ r resp, (r, Answer.response resp) ∈ new ∧ RequestFor p r ∧
      (resp.status = 200 ∨ resp.status = 206)

namespace GlobLog
variable {w₀ w w' : World}

theorem refl (w : World) : GlobLog w w := ⟨[], [], by simp, by simp, by simp⟩

/-- A glob's effect extends the log. -/
theorem glob {path : String} (h : GlobLog w₀ w) (he : GlobEffect path w w') : GlobLog w₀ w' := by
  obtain ⟨new, added, hs, hg, hadded⟩ := h
  obtain ⟨new', hs', hpaths⟩ := he
  have hnew : ∀ {x}, x ∈ new → x ∈ new ++ new' := List.mem_append_left _
  rcases hpaths with hg' | ⟨hg', r, resp, hmem, hfor, hok⟩
  · refine ⟨new ++ new', added, by rw [hs', hs, List.append_assoc], hg'.trans hg, fun p hp => ?_⟩
    obtain ⟨r, resp, hmem, hfor, hok⟩ := hadded p hp
    exact ⟨r, resp, hnew hmem, hfor, hok⟩
  · refine ⟨new ++ new', added ++ [path], by rw [hs', hs, List.append_assoc], by rw [hg', hg, List.append_assoc],
      fun p hp => ?_⟩
    rcases List.mem_append.mp hp with hp | hp
    · obtain ⟨r, resp, hmem, hfor, hok⟩ := hadded p hp
      exact ⟨r, resp, hnew hmem, hfor, hok⟩
    · rw [List.mem_singleton.mp hp]
      exact ⟨r, resp, List.mem_append_right _ hmem, hfor, hok⟩

theorem keeps {α : Type} {m : Js α} (hm : LogsOnly m) : Keeps (GlobLog w₀) m := fun w h => by
  obtain ⟨pre, hs, hg⟩ := hm w
  exact h.glob (GlobEffect.of_logs hs hg : GlobEffect "" _ _)

theorem frame {α : Type} {m : Js α} (hm : ∀ w, (m w).2.sent = w.sent ∧ (m w).2.globPaths = w.globPaths) :
    Keeps (GlobLog w₀) m :=
  keeps (LogsOnly.of_frame hm)

theorem opfsStep {α : Type} {m : Js α} (hm : ∀ w, OpfsStep w (m w).2) : Keeps (GlobLog w₀) m :=
  frame fun w => by rw [hm w]; exact ⟨rfl, rfl⟩

/-- Every step but glob's registration only logs requests. -/
theorem keptBySteps (w₀ : World) : KeptBySteps (GlobLog w₀) where
  send r _ := keeps (LogsOnly.send r)
  malloc _ := frame fun _ => ⟨rfl, rfl⟩
  alloc _ _ _ hf := (frame fun _ => ⟨rfl, rfl⟩).bind fun p => (frame fun _ => ⟨rfl, rfl⟩).bind fun _ => hf p
  openedFile _ _ := frame fun _ => ⟨rfl, rfl⟩
  emptyBufferedFile := frame fun _ => ⟨rfl, rfl⟩
  failWith _ := keeps (LogsOnly.failWith _)
  getFileInfo _ := frame fun w => by rw [getFileInfo_frame]; exact ⟨rfl, rfl⟩
  getGlobalFileInfo := keeps LogsOnly.getGlobalFileInfo
  dropCachedFileInfo _ := frame fun _ => ⟨rfl, rfl⟩
  ensureFileHandle ref fileName := opfsStep (ensureFileHandle_opfsStep ref fileName)
  ensureFile ref := opfsStep (ensureFile_opfsStep ref)
  ensureAccessHandle ref := opfsStep (ensureAccessHandle_opfsStep ref)
  releaseAccessHandle ref := opfsStep (releaseAccessHandle_opfsStep ref)
  rebindFile _ _ := frame fun _ => ⟨rfl, rfl⟩
  dropCachedUrl _ := frame fun _ => ⟨rfl, rfl⟩

end GlobLog

/-- Along every run, the glob results only grow, and each path added to them was added after a
request for that path, sent during the run, was answered 200 or 206. -/
theorem Reach.globLog {w₀ w : World} (hr : Reach w₀ w) : GlobLog w₀ w := by
  induction hr with
  | init => exact GlobLog.refl _
  | call c _ ih =>
    cases c with
    | glob path => exact ih.glob (glob_registers path _)
    | _ =>
      refine (GlobLog.keptBySteps _).call _ ?_ _ ih
      first
        | trivial
        | exact fun _ _ => GlobLog.frame fun _ => ⟨rfl, rfl⟩
        | exact fun a input offset => GlobLog.opfsStep (accessWrite_opfsStep a input offset)
        | exact fun a newSize => GlobLog.opfsStep (accessTruncate_opfsStep a newSize)
  | engine e _ _ ih => exact ih

/-- A glob on rangedBinary, whose server answers the HEAD 200, is a run whose log holds the path. -/
theorem globLog_rangedBinary :
    Reach rangedBinary ((Call.glob "https://host/data.csv").run rangedBinary).2 ∧
      GlobLog rangedBinary ((Call.glob "https://host/data.csv").run rangedBinary).2 :=
  ⟨.call _ .init, Reach.globLog (.call _ .init)⟩

end DuckdbWasm
