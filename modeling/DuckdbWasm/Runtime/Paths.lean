import DuckdbWasm.Runtime.FileOps

/-! # Path operations: glob, checkFile, moveFile

`glob` confirms one literal remote path with a HEAD (falling back to a one-byte GET when full
HTTP reads are allowed) and registers it with the engine; `checkFile` answers from `_files` or
from a HEAD; `moveFile` rebinds a registry entry and drops cached file info of the old path.
-/
namespace DuckdbWasm
open Js

/-- `mod.ccall('duckdb_web_fs_glob_add_path', null, ['string'], [path])`. -/
def globAddPath (path : String) : Js Unit := modify fun w => { w with globPaths := w.globPaths ++ [path] }

/-- A request glob or checkFile builds for `path`: S3 paths use the global S3 config. -/
def pathRequest (im : Imports) (globalInfo : Option GlobalFileInfo) (method : HttpMethod) (path : String)
    (range : Option ByteRange) (signedAs : HttpMethod) : Request :=
  remoteRequest im (startsWith path "s3://") (globalInfo.bind (·.s3Config)) method (some path) range signedAs

/-- The global info an S3 path is signed with; a plain path asks for none. -/
def globalInfoFor (path : String) : Js (Option GlobalFileInfo) :=
  if startsWith path "s3://" then getGlobalFileInfo else pure none

/-- Lines 373-400 of glob: after a failed HEAD, a ranged GET when full reads are allowed. -/
def globFallback (im : Imports) (path : String) : Js Unit := do
  let allow ← getGlobalFileInfo
  if !(allow.any (·.allowFullHttpReads)) then
    failWith ("HEAD request failed: " ++ path ++ ", with full http reads are disabled")
  else do
    let globalInfo ← globalInfoFor path
    let xhr2 ← send (pathRequest im globalInfo .GET path (some rangeFirstByte) .HEAD)
    if xhr2.status ≠ 200 ∧ xhr2.status ≠ 206 then failWith ("HEAD and GET requests failed: " ++ path)
    else globAddPath path

/-- BROWSER_RUNTIME.glob. -/
def glob (path : String) : Js Unit :=
  tryCatch (
      if startsWith path "http" || startsWith path "s3://" then do
        let im ← read (·.imports)
        let globalInfo ← globalInfoFor path
        let xhr ← send (pathRequest im globalInfo .HEAD path none .HEAD)
        if xhr.status ≠ 200 ∧ xhr.status ≠ 206 then globFallback im path else globAddPath path
      else pure ())
    (fun e => failWith e.toString)

/-- `handle.file?.size === 0 && handle.emptyAsAbsent`: an empty OPFS file that is to count as absent. -/
def HostObject.emptyAsAbsent : HostObject → Bool
  | .opfs h => h.file == some 0 && h.emptyAsAbsent
  | .blob _ => false

/-- BROWSER_RUNTIME.checkFile. -/
def checkFile (path : String) : Js Bool :=
  tryCatch (do
      match ← lookupFile path with
      | some handle => pure !handle.emptyAsAbsent
      | none =>
        if startsWith path "http://" || startsWith path "https://" || startsWith path "s3://" then do
          let im ← read (·.imports)
          let globalInfo ← globalInfoFor path
          let xhr ← send (pathRequest im globalInfo .HEAD path none .HEAD)
          pure (xhr.status = 206 ∨ xhr.status = 200)
        else pure false)
    (fun _ => pure false)

/-- The loop of moveFile over `_fileInfoCache.entries()`: the first entry whose `dataUrl` is
`fromPath` is deleted, then the loop breaks. -/
def dropFirstCachedUrl (cache : JsMap Nat FileInfo) (fromPath : String) : JsMap Nat FileInfo :=
  match cache.find? (fun e => e.2.dataUrl == some fromPath) with
  | some e => cache.delete e.1
  | none => cache

/-- `_files.delete(handle); _files.set(to, handle)`: the delete is given the handle object itself. -/
def rebindFile (handle : Nat) (toPath : String) : Js Unit :=
  modify fun w => { w with files := (w.files.delete (.object handle)).set (.name toPath) handle }

/-- The registry part of moveFile: a handle registered under `fromPath` is rebound. -/
def moveRegisteredHandle (fromPath toPath : String) : Js Unit := do
  match ← lookupRef fromPath with
  | some handle => rebindFile handle toPath
  | none => pure ()

/-- BROWSER_RUNTIME.moveFile. -/
def moveFile (fromPath toPath : String) : Js Bool := do
  moveRegisteredHandle fromPath toPath
  modify fun w => { w with fileInfoCache := dropFirstCachedUrl w.fileInfoCache fromPath }
  pure true

end DuckdbWasm
