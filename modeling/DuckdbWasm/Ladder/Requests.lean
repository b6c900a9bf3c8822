import DuckdbWasm.Ladder.ReadOpen

/-! # The ladder's requests: at most three, none twice

The degradation ladder of openFile is a fallback, not a retry loop. Whatever the server
answers, an open for reading sends, in order, a sublist of three requests: the ranged HEAD
first when HEAD requests are trusted or full reads are not allowed, or else after the
first-byte GET as its second HEAD, then the unranged GET. The ranged HEAD of step 1 and the
second HEAD of step 2 are never both sent.
-/
namespace DuckdbWasm
open Js

/-- Every run of `m` sends, in order, a sublist of `rs`: each of them at most once, and no
other request. -/
def SendsWithin (rs : List Request) (m : Js α) : Prop :=
  ∀ w, ∃ new : List (Request × Answer), (m w).2.sent = w.sent ++ new ∧ (new.map Prod.fst).Sublist rs

namespace SendsWithin
variable {α β : Type} {rs rs₁ rs₂ : List Request}

theorem of_sent (rs : List Request) {m : Js α} (hm : ∀ w, (m w).2.sent = w.sent) : SendsWithin rs m :=
  fun w => ⟨[], by rw [hm, List.append_nil], List.nil_sublist _⟩

theorem mono {m : Js α} (h : SendsWithin rs₁ m) (hs : rs₁.Sublist rs₂) : SendsWithin rs₂ m := fun w =>
  let ⟨new, hsent, hsub⟩ := h w
  ⟨new, hsent, hsub.trans hs⟩

theorem send (r : Request) : SendsWithin [r] (DuckdbWasm.send r) := fun w => by
  unfold DuckdbWasm.send
  split <;> exact ⟨[(r, _)], rfl, List.Sublist.refl _⟩

theorem bind {m : Js α} {f : α → Js β} (hm : SendsWithin rs₁ m) (hf : ∀ a, SendsWithin rs₂ (f a)) :
    SendsWithin (rs₁ ++ rs₂) (m >>= f) := fun w => by
  obtain ⟨new, hsent, hsub⟩ := hm w
  rw [bind_run]
  rcases hr : m w with ⟨_ | _, w'⟩ <;> rw [hr] at hsent
  · obtain ⟨new', hsent', hsub'⟩ := hf _ w'
    exact ⟨new ++ new', by rw [hsent', hsent, List.append_assoc], by simpa using hsub.append hsub'⟩
  · exact ⟨new, hsent, hsub.trans (List.sublist_append_left _ _)⟩

theorem tryCatch {m : Js α} {handler : Thrown → Js α} (hm : SendsWithin rs₁ m)
    (hh : ∀ e, SendsWithin rs₂ (handler e)) : SendsWithin (rs₁ ++ rs₂) (Js.tryCatch m handler) := fun w => by
  obtain ⟨new, hsent, hsub⟩ := hm w
  rw [tryCatch_run]
  rcases hr : m w with ⟨_ | e, w'⟩ <;> rw [hr] at hsent
  · exact ⟨new, hsent, hsub.trans (List.sublist_append_left _ _)⟩
  · obtain ⟨new', hsent', hsub'⟩ := hh e w'
    exact ⟨new ++ new', by rw [hsent', hsent, List.append_assoc], by simpa using hsub.append hsub'⟩

theorem map {m : Js α} (f : α → β) (hm : SendsWithin rs m) : SendsWithin rs (f <$> m) := fun w => by
  obtain ⟨new, hsent, hsub⟩ := hm w
  rw [map_run]
  rcases hr : m w with ⟨_ | _, w'⟩ <;> rw [hr] at hsent <;> exact ⟨new, hsent, hsub⟩

theorem ite {c : Prop} {_ : Decidable c} {m m' : Js α} (hm : SendsWithin rs m) (hm' : SendsWithin rs m') :
    SendsWithin rs (if c then m else m') := by
  split
  · exact hm
  · exact hm'

end SendsWithin

section Ladder
variable (im : Imports) (file : FileInfo)

/-- The requests the ladder may send, in the order it sends them. -/
def ladderRequests : List Request :=
  if file.reliableHeadRequests || !file.allowFullHttpReads then
    [rangedHeadRequest im file, firstByteRequest im file, fullRequest im file]
  else [firstByteRequest im file, rangedHeadRequest im file, fullRequest im file]

theorem rangedHead_sends :
    SendsWithin (if file.reliableHeadRequests || !file.allowFullHttpReads then [rangedHeadRequest im file] else [])
      (rangedHead im file) := by
  unfold rangedHead
  split
  · exact .tryCatch ((SendsWithin.send _).map _) fun _ => .of_sent [] fun _ => rfl
  · exact .of_sent _ fun _ => rfl

theorem presumeLength_sends (contentRange contentLength : Option JsNumber) :
    SendsWithin (if file.reliableHeadRequests then [] else [rangedHeadRequest im file])
      (presumeLength im file contentRange contentLength) := by
  unfold presumeLength
  cases contentRange with
  | some => exact .of_sent _ fun _ => rfl
  | none =>
    dsimp only
    split
    · exact .of_sent _ fun _ => rfl
    · exact (SendsWithin.send _).bind fun _ => .of_sent [] fun _ => rfl

theorem firstByteSettle_sent (xhr : Response) (presumedLength contentLength : Option JsNumber) (w : World) :
    (firstByteSettle xhr presumedLength contentLength w).2.sent = w.sent := by
  unfold firstByteSettle
  cases firstByteRanged xhr presumedLength with
  | some => rfl
  | none => dsimp only; split <;> rfl

theorem firstByteProbe_sends (contentLength : Option JsNumber) :
    SendsWithin (firstByteRequest im file :: if file.reliableHeadRequests then [] else [rangedHeadRequest im file])
      (firstByteProbe im file contentLength) :=
  ((SendsWithin.send _).bind fun _ => (presumeLength_sends im file _ _).bind fun _ =>
    .of_sent [] (firstByteSettle_sent _ _ _)).mono (by simp)

theorem readFailed_sent (error : Option Thrown) (w : World) : (readFailed file error w).2.sent = w.sent := by
  cases error <;> rfl

theorem fullRead_sends (error : Option Thrown) : SendsWithin [fullRequest im file] (fullRead im file error) :=
  (SendsWithin.send _).bind fun _ => .ite (.of_sent [] fun _ => rfl) (.of_sent [] (readFailed_sent file error))

theorem fallBack_sends (contentLength : Option JsNumber) (error : Option Thrown) :
    SendsWithin (if file.allowFullHttpReads then
        (firstByteRequest im file :: if file.reliableHeadRequests then [] else [rangedHeadRequest im file]) ++
          [fullRequest im file]
      else []) (fallBack im file contentLength error) := by
  unfold fallBack
  split
  · refine (firstByteProbe_sends im file contentLength).bind fun r => ?_
    cases r with
    | some => exact .of_sent _ fun _ => rfl
    | none => exact fullRead_sends im file error
  · exact .of_sent _ (readFailed_sent file error)

theorem openForRead_sends : SendsWithin (ladderRequests im file) (openForRead im file) := by
  refine ((rangedHead_sends im file).bind fun probe => match probe with
    | .supportsRanges _ => .of_sent _ fun _ => rfl
    | .fallThrough _ _ => fallBack_sends im file _ _).mono ?_
  unfold ladderRequests
  cases file.reliableHeadRequests <;> cases file.allowFullHttpReads <;> simp

end Ladder

/-- openFile of an HTTP or S3 file for reading sends at most three requests, in order a sublist
of the ladder's: each probe at most once, and nothing retried. -/
theorem openFile_ladder_requests {w : World} {fileId flags : Nat} {file : FileInfo}
    (hcur : w.engine.current fileId = some file) (hepoch : w.engine.epoch fileId ≠ 0)
    (hproto : file.dataProtocol = .HTTP ∨ file.dataProtocol = .S3)
    (hread : hasFlag flags w.imports.fileFlagsRead = true) (hwrite : hasFlag flags w.imports.fileFlagsWrite = false)
    (happend : hasFlag flags w.imports.fileFlagsAppend = false) :
    ∃ new, (openFile fileId flags w).2.sent = w.sent ++ new ∧
      (new.map Prod.fst).Sublist (ladderRequests w.imports file) ∧ new.length ≤ 3 := by
  obtain ⟨cache, h⟩ := openFile_read hcur hepoch hproto hread hwrite happend
  have hsends : SendsWithin (ladderRequests w.imports file)
      (Js.tryCatch (openForRead w.imports file) fun e => do failWith e.toString; pure 0) :=
    ((openForRead_sends w.imports file).tryCatch fun _ =>
      (SendsWithin.of_sent [] fun _ => rfl).bind fun _ => .of_sent [] fun _ => rfl).mono (by simp)
  obtain ⟨new, hsent, hsub⟩ := hsends { w with fileInfoCache := cache }
  refine ⟨new, by rw [h]; exact hsent, hsub, ?_⟩
  calc new.length = (new.map Prod.fst).length := (List.length_map _ _).symm
    _ ≤ (ladderRequests w.imports file).length := hsub.length_le
    _ = 3 := by unfold ladderRequests; split <;> rfl

theorem openFile_ladder_requests_rangedBinary :
    rangedBinary.engine.current 1 = some httpBinary ∧ rangedBinary.engine.epoch 1 ≠ 0 ∧
      (httpBinary.dataProtocol = .HTTP ∨ httpBinary.dataProtocol = .S3) ∧
      hasFlag 1 rangedBinary.imports.fileFlagsRead = true ∧ hasFlag 1 rangedBinary.imports.fileFlagsWrite = false ∧
      hasFlag 1 rangedBinary.imports.fileFlagsAppend = false ∧
      ∃ new, (openFile 1 1 rangedBinary).2.sent = rangedBinary.sent ++ new ∧
        (new.map Prod.fst).Sublist (ladderRequests rangedBinary.imports httpBinary) ∧ new.length ≤ 3 :=
  ⟨rfl, by decide, .inl rfl, rfl, rfl, rfl, openFile_ladder_requests rfl (by decide) (.inl rfl) rfl rfl rfl⟩

end DuckdbWasm
