import DuckdbWasm.Ladder.ReadOpen

/-! # Remote files: what is refused before the network, and what only asks

openFile checks its flags on an HTTP or S3 file before it sends anything: READ with WRITE,
APPEND, and neither READ nor WRITE are refused with a failure naming the file. A write open sends
one HEAD and goes ahead only on 200, or on 404 with a create flag. truncateFile refuses every
file but an OPFS one without a request, and checkFile answers for a remote path with one HEAD.
-/
namespace DuckdbWasm
open Js

/-- The flag combinations openFile refuses on an HTTP or S3 file before sending anything: READ
with WRITE, APPEND, and neither READ nor WRITE. -/
def RefusedFlags (im : Imports) (flags : Nat) : Prop :=
  (hasFlag flags im.fileFlagsRead && hasFlag flags im.fileFlagsWrite) = true ∨
    hasFlag flags im.fileFlagsAppend = true ∨
    (hasFlag flags im.fileFlagsRead || hasFlag flags im.fileFlagsWrite) = false

instance (im : Imports) (flags : Nat) : Decidable (RefusedFlags im flags) :=
  inferInstanceAs (Decidable (_ ∨ _ ∨ _))

theorem openRemoteFile_refused {im : Imports} {flags : Nat} (file : FileInfo) (h : RefusedFlags im flags) :
    ∃ reason, openRemoteFile im file flags = fail ("Opening file " ++ file.fileName ++ " failed: " ++ reason) := by
  unfold openRemoteFile
  split_ifs
  · exact ⟨_, by rw [String.append_assoc _ " failed: "]; rfl⟩
  · exact ⟨_, by rw [String.append_assoc _ " failed: "]; rfl⟩
  · exfalso; rcases h with h | h | h <;> simp_all
  · exact ⟨"unsupported file flags: " ++ toString flags, by simp only [String.append_assoc]; rfl⟩
  · exfalso; rcases h with h | h | h <;> simp_all

/-- With DuckDB's FileFlags: READ | WRITE, READ | APPEND and FILE_CREATE alone are refused;
READ alone and WRITE | FILE_CREATE are not. -/
example : RefusedFlags Imports.duckdb 3 ∧ RefusedFlags Imports.duckdb 33 ∧ RefusedFlags Imports.duckdb 8 ∧
    ¬ RefusedFlags Imports.duckdb 1 ∧ ¬ RefusedFlags Imports.duckdb 10 := by decide

section Open
variable {w : World} {fileId flags : Nat} {file : FileInfo}

/-- openFile refuses these flags on an HTTP or S3 file with no request sent: the engine gets 0
and one failure naming the file; only the file-info cache changes besides. -/
theorem openFile_refuses_flags (hcur : w.engine.current fileId = some file) (hepoch : w.engine.epoch fileId ≠ 0)
    (hproto : file.dataProtocol = .HTTP ∨ file.dataProtocol = .S3) (hflags : RefusedFlags w.imports flags) :
    ∃ cache reason, openFile fileId flags w =
      (.normal 0, { w with fileInfoCache := cache, failures := w.failures ++
        [(jsError ("Opening file " ++ file.fileName ++ " failed: " ++ reason)).toString] }) := by
  obtain ⟨cache, h⟩ := @openFile_remote w fileId flags file hcur hepoch hproto
  obtain ⟨reason, hr⟩ := openRemoteFile_refused file hflags
  exact ⟨cache, reason, by rw [h, hr]; rfl⟩

/-- The answers to its HEAD on which a write open goes ahead: 200, or 404 with FILE_CREATE or
FILE_CREATE_NEW. -/
def WriteOpenAccepted (im : Imports) (flags : Nat) : Answer → Prop
  | .response resp => resp.status = 200 ∨
      (resp.status = 404 ∧ (hasFlag flags im.fileFlagsFileCreate || hasFlag flags im.fileFlagsFileCreateNew) = true)
  | .abort _ => False

/-- openFile for writing an HTTP or S3 file sends one request, an unranged HEAD, and opens the
file, recording no failure, exactly when that HEAD is answered as a write open accepts. -/
theorem openFile_write_head (hcur : w.engine.current fileId = some file) (hepoch : w.engine.epoch fileId ≠ 0)
    (hproto : file.dataProtocol = .HTTP ∨ file.dataProtocol = .S3)
    (hread : hasFlag flags w.imports.fileFlagsRead = false) (hwrite : hasFlag flags w.imports.fileFlagsWrite = true)
    (happend : hasFlag flags w.imports.fileFlagsAppend = false) :
    (openFile fileId flags w).2.sent =
        w.sent ++ [(fileRequest w.imports file .HEAD none, w.answer (fileRequest w.imports file .HEAD none))] ∧
      ((openFile fileId flags w).2.failures = w.failures ↔
        WriteOpenAccepted w.imports flags (w.answer (fileRequest w.imports file .HEAD none))) := by
  obtain ⟨cache, h⟩ := @openFile_remote w fileId flags file hcur hepoch hproto
  have hw : openRemoteFile w.imports file flags = openForWrite w.imports file flags := by
    simp [openRemoteFile, hread, hwrite, happend]
  rw [h, hw]
  rcases ha : w.answer (fileRequest w.imports file .HEAD none) with resp | e
  · simp only [tryCatch_run, openForWrite, bind_run,
      send_response (show ({ w with fileInfoCache := cache } : World).answer _ = _ from ha)]
    split_ifs with hstatus hcreate
    · simp [fail, failWith, World.record, WriteOpenAccepted, hstatus.1, hstatus.2]
    · simpa [fail, failWith, World.record, WriteOpenAccepted, hcreate.1] using hcreate.2
    · simp only [malloc, heapSet, modify_run, bind_run]
      rw [openedFile_run]
      refine ⟨rfl, iff_of_true rfl ?_⟩
      by_cases h200 : resp.status = 200
      · exact .inl h200
      · have h404 : resp.status = 404 := by omega
        exact .inr ⟨h404, by revert hcreate; cases hasFlag flags w.imports.fileFlagsFileCreate <;> simp [h404]⟩
  · simp [tryCatch_run, openForWrite, bind_run, failWith, World.record, WriteOpenAccepted,
      send_abort (show ({ w with fileInfoCache := cache } : World).answer _ = _ from ha)]

/-- Every flag value is refused, opens for reading or opens for writing. -/
theorem refusedFlags_or_open (im : Imports) (flags : Nat) :
    RefusedFlags im flags ∨
      (hasFlag flags im.fileFlagsRead = true ∧ hasFlag flags im.fileFlagsWrite = false ∧
        hasFlag flags im.fileFlagsAppend = false) ∨
      (hasFlag flags im.fileFlagsRead = false ∧ hasFlag flags im.fileFlagsWrite = true ∧
        hasFlag flags im.fileFlagsAppend = false) := by
  unfold RefusedFlags
  cases hasFlag flags im.fileFlagsRead <;> cases hasFlag flags im.fileFlagsWrite <;>
    cases hasFlag flags im.fileFlagsAppend <;> simp

end Open

/-- truncateFile on any file but an OPFS one records one failure and changes nothing else but
the file-info cache: no request is sent and no stored byte changes. -/
theorem truncateFile_refuses_non_opfs {w : World} {fileId newSize : Nat} {file : FileInfo}
    (hinfo : (getFileInfo fileId w).1 = .normal (some file)) (hproto : file.dataProtocol ≠ .BROWSER_FSACCESS) :
    ∃ cache message, truncateFile fileId newSize w =
      (.normal (), { w with fileInfoCache := cache, failures := w.failures ++ [message] }) := by
  obtain ⟨cache, hget⟩ := getFileInfo_eq hinfo
  refine ⟨cache, ?_⟩
  cases hp : file.dataProtocol <;> simp only [truncateFile, bind_run, hget, hp] <;>
    first | exact absurd hp hproto | exact ⟨_, rfl⟩

theorem globalInfoFor_run (path : String) (w : World) :
    ∃ g cached, globalInfoFor path w = (.normal g, { w with globalFileInfo := cached }) := by
  unfold globalInfoFor
  split
  · exact ⟨_, _, getGlobalFileInfo_run w⟩
  · exact ⟨none, w.globalFileInfo, rfl⟩

/-- checkFile of a remote path no file is registered under sends one request, an unranged HEAD,
and answers whether it was answered 206 or 200: a remote file is found without reading it. -/
theorem checkFile_remote {w : World} {path : String} (hreg : w.files.get (.name path) = none)
    (hremote : (startsWith path "http://" || startsWith path "https://" || startsWith path "s3://") = true) :
    ∃ head : Request, head.method = .HEAD ∧ head.range = none ∧
      (checkFile path w).2.sent = w.sent ++ [(head, w.answer head)] ∧
      ((checkFile path w).1 = .normal true ↔
        ∃ resp, w.answer head = .response resp ∧ (resp.status = 206 ∨ resp.status = 200)) := by
  obtain ⟨g, cached, hg⟩ := globalInfoFor_run path w
  refine ⟨pathRequest w.imports g .HEAD path none .HEAD, by simp [pathRequest], by simp [pathRequest], ?_⟩
  simp only [checkFile, tryCatch_run, bind_run, lookupFile, read_run, hreg, Option.map_none', hremote, if_true, hg]
  rcases ha : w.answer (pathRequest w.imports g .HEAD path none .HEAD) with resp | e
  · rw [send_response (show ({ w with globalFileInfo := cached } : World).answer _ = _ from ha)]
    simp
  · rw [send_abort (show ({ w with globalFileInfo := cached } : World).answer _ = _ from ha)]
    simp

end DuckdbWasm
