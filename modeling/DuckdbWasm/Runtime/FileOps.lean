import DuckdbWasm.Runtime.OpenFile

/-! # Reads, writes, truncation and closing

The per-protocol file operations of BROWSER_RUNTIME: ranged GETs for HTTP and S3 reads,
whole-object PUTs for S3 writes, `Blob.slice` for the file reader, and the OPFS access
handle for everything else. `_closeFile` flushes, closes and forgets an OPFS access handle.
-/
namespace DuckdbWasm
open Js

/-- `new Uint8Array(buffer, offset, length)` with a length given: V8 first converts the length,
throwing for a negative one, then throws the same error for a window past the buffer's end. -/
def uint8ArrayView (buffer : List UInt8) (offset : Nat) (length : Int) : Js (List UInt8) :=
  if length < 0 ∨ (buffer.length : Int) < offset + length then
    throw (.error "RangeError" ("Invalid typed array length: " ++ toString length))
  else pure ((buffer.drop offset).take length.toNat)

/-- The error every method of a closed access handle throws. -/
def invalidState : Thrown := .error "InvalidStateError" "The access handle was closed"

/-- The access handle `a` as a method receiver; a closed one throws. -/
def openAccessHandle (a : Nat) : Js SyncAccessHandle := fun w =>
  match w.opfs.accessHandles[a]? with
  | some h => if h.isOpen then (.normal h, w) else (.thrown invalidState, w)
  | none => (.thrown invalidState, w)

/-- Replaces the bytes of one OPFS file. -/
def setContents (file : Nat) (bytes : List UInt8) : Js Unit :=
  modify fun w => { w with opfs := { w.opfs with
    contents := fun f => if f = file then bytes else w.opfs.contents f } }

/-- `accessHandle.read(new Uint8Array(bytes), { at: offset })`: the filled buffer and the count. -/
def accessRead (a bytes offset : Nat) : Js (List UInt8 × Nat) := do
  let h ← openAccessHandle a
  let got ← read fun w => ((w.opfs.contents h.file).drop offset).take bytes
  pure (got ++ List.replicate (bytes - got.length) 0, got.length)

/-- The bytes of a file after `input` is written at `offset`; a gap is filled with zeros. -/
def writeAt (c input : List UInt8) (offset : Nat) : List UInt8 :=
  c.take offset ++ List.replicate (offset - c.length) 0 ++ input ++ c.drop (offset + input.length)

/-- `accessHandle.write(input, { at: offset })`. -/
def accessWrite (a : Nat) (input : List UInt8) (offset : Nat) : Js Nat := do
  let h ← openAccessHandle a
  let c ← read fun w => w.opfs.contents h.file
  setContents h.file (writeAt c input offset)
  pure input.length

/-- `accessHandle.truncate(newSize)`. -/
def accessTruncate (a newSize : Nat) : Js Unit := do
  let h ← openAccessHandle a
  let c ← read fun w => w.opfs.contents h.file
  setContents h.file (c.take newSize ++ List.replicate (newSize - c.length) 0)

/-- `accessHandle.flush()`. -/
def accessFlush (a : Nat) : Js Unit := do
  let _ ← openAccessHandle a
  pure ()

/-- `accessHandle.close()`. -/
def accessClose (a : Nat) : Js Unit :=
  modify fun w => { w with opfs := { w.opfs with
    accessHandles := w.opfs.accessHandles.modify (fun h => { h with isOpen := false }) a } }

/-- `assertOPFSHandle(name, fileName, handle, true)`. -/
def assertOPFS (name fileName : String) (handle : Option HostObject) : Js Unit := do
  match (← read (·.imports)).assertOPFSHandle name fileName handle true with
  | some e => throw e
  | none => pure ()

/-- `handle.accessHandle` as the receiver of `method`. -/
def accessHandleOf (method : String) : Option HostObject → Js Nat
  | some (.opfs h) =>
    match h.accessHandle with
    | some a => pure a
    | none => throw (undefinedProperty method)
  | some (.blob _) => throw (undefinedProperty method)
  | none => throw (undefinedProperty "accessHandle")

/-- The GET of readFile: `Range: bytes=location-(location+bytes-1)`. -/
def readRequest (im : Imports) (file : FileInfo) (bytes location : Nat) : Request :=
  fileRequest im file .GET (some ⟨location, some (location + bytes - 1)⟩)

/-- The HTTP and S3 branch of readFile: one ranged GET, whose answer is cut to the window. -/
def readRemoteFile (im : Imports) (file : FileInfo) (fileId buf bytes location : Nat) : Js Nat :=
  if file.dataUrl.all (·.isEmpty) then fail ("Missing data URL for file " ++ toString fileId)
  else
    let url := jsUrl file.dataUrl
    tryCatch (do
        let xhr ← send (readRequest im file bytes location)
        if xhr.status = 206 ∨ (xhr.status = 200 ∧ bytes = xhr.body.length ∧ location = 0) then do
          let src ← uint8ArrayView xhr.body 0 (min xhr.body.length bytes)
          heapSet src buf
          pure src.length
        else if xhr.status = 200 then do
          let src ← uint8ArrayView xhr.body location (min ((xhr.body.length : Int) - location) bytes)
          heapSet src buf
          pure src.length
        else fail ("Range request for " ++ url ++ " did returned non-success status: "
          ++ toString xhr.status ++ " \"" ++ xhr.statusText ++ "\""))
      (fun e => fail ("Range request for " ++ url ++ " failed with error: " ++ e.toString ++ "\""))

/-- The BROWSER_FILEREADER branch of readFile: `Blob.slice` read back synchronously. -/
def readBlobFile (file : FileInfo) (buf bytes location : Nat) : Js Nat := do
  match ← lookupFile file.fileName with
  | none => fail ("No HTML5 file registered with name: " ++ file.fileName)
  | some (.opfs _) => throw (.error "TypeError" "handle.slice is not a function")
  | some (.blob data) => do
    let sliced := (data.drop location).take bytes
    heapSet sliced buf
    pure sliced.length

/-- The BROWSER_FSACCESS branch of readFile; the whole `bytes`-long buffer is copied out. -/
def readOPFSFile (fileName : String) (buf bytes location : Nat) : Js Nat := do
  let handle ← lookupFile fileName
  assertOPFS "readFile" fileName handle
  let a ← accessHandleOf "read" handle
  let (data, num) ← accessRead a bytes location
  heapSet data buf
  pure num

/-- BROWSER_RUNTIME.readFile. -/
def readFile (fileId buf bytes location : Nat) : Js Nat :=
  if bytes = 0 then pure 0
  else tryCatch (do
      let im ← read (·.imports)
      match ← getFileInfo fileId with
      | none => pure 0
      | some file =>
        match file.dataProtocol with
        | .HTTP | .S3 => readRemoteFile im file fileId buf bytes location
        | .BROWSER_FILEREADER => readBlobFile file buf bytes location
        | .BROWSER_FSACCESS => readOPFSFile file.fileName buf bytes location
        | _ => pure 0)
    (fun e => do
      failWith e.toString
      pure 0)

/-- The PUT of writeFile, signed over the bytes it sends. -/
def putRequest (im : Imports) (file : FileInfo) (buffer : List UInt8) : Request where
  method := .PUT
  url := im.getHTTPUrl file.s3Config file.dataUrl
  range := none
  signature := some ⟨file.s3Config, file.dataUrl, .PUT, some "", some buffer⟩
  body := some buffer

/-- The S3 branch of writeFile: the written bytes are PUT as the whole object. -/
def writeS3File (im : Imports) (file : FileInfo) (buf bytes : Nat) : Js Nat := do
  let buffer ← read fun w => w.heap.read buf bytes
  let xhr ← send (putRequest im file buffer)
  if xhr.status ≠ 200 then do
    failWith ("Failed writing file: HTTP " ++ toString xhr.status)
    pure 0
  else pure bytes

/-- The BROWSER_FSACCESS branch of writeFile. -/
def writeOPFSFile (fileName : String) (buf bytes location : Nat) : Js Nat := do
  let handle ← lookupFile fileName
  assertOPFS "writeFile" fileName handle
  let input ← read fun w => w.heap.read buf bytes
  let a ← accessHandleOf "write" handle
  accessWrite a input location

/-- BROWSER_RUNTIME.writeFile. -/
def writeFile (fileId buf bytes location : Nat) : Js Nat := do
  let im ← read (·.imports)
  match ← getFileInfo fileId with
  | none => pure 0
  | some file =>
    match file.dataProtocol with
    | .HTTP => do
      failWith "Cannot write to HTTP file"
      pure 0
    | .S3 => writeS3File im file buf bytes
    | .BROWSER_FILEREADER => do
      failWith "cannot write using the html5 file reader api"
      pure 0
    | .BROWSER_FSACCESS => writeOPFSFile file.fileName buf bytes location
    | _ => pure 0

/-- BROWSER_RUNTIME.truncateFile. -/
def truncateFile (fileId newSize : Nat) : Js Unit := do
  match ← getFileInfo fileId with
  | none => pure ()
  | some file =>
    match file.dataProtocol with
    | .HTTP => failWith "Cannot truncate a http file"
    | .S3 => failWith "Cannot truncate an s3 file"
    | .BUFFER | .NODE_FS | .BROWSER_FILEREADER => failWith "truncateFile not implemented"
    | .BROWSER_FSACCESS => do
      let handle ← lookupFile file.fileName
      tryCatch (do
          assertOPFS "truncateFile" file.fileName handle
          let a ← accessHandleOf "truncate" handle
          accessTruncate a newSize)
        (fun e => failWith e.message)

/-- `flush()`, `close()` and `handle.accessHandle = undefined` for the OPFS handle at `ref`. -/
def releaseAccessHandle (ref : Nat) : Js Unit := do
  match ← read (·.objects ref) with
  | .opfs handle =>
    match handle.accessHandle with
    | some a => do
      accessFlush a
      accessClose a
      modifyHandle ref fun h => { h with accessHandle := none }
    | none => pure ()
  | .blob _ => pure ()

/-- BROWSER_RUNTIME._closeFile. -/
def _closeFile (file : FileInfo) : Js Unit := do
  dropCachedFileInfo file.fileId
  match file.dataProtocol with
  | .BROWSER_FSACCESS => do
    match ← lookupRef file.fileName with
    | none => throw (undefinedProperty "accessHandle")
    | some ref => releaseAccessHandle ref
  | _ => pure ()

/-- BROWSER_RUNTIME.closeFile. -/
def closeFile (fileId : Nat) : Js Unit := do
  match ← getFileInfo fileId with
  | none => pure ()
  | some file => _closeFile file

/-- BROWSER_RUNTIME.closeFileByName. -/
def closeFileByName (fileName : String) : Js Bool := do
  match ← getFileInfoByName fileName with
  | none => pure false
  | some file => do
    _closeFile file
    pure true

/-- BROWSER_RUNTIME.getLastFileModificationTime. -/
def getLastFileModificationTime (fileId : Nat) : Js Nat := do
  match ← getFileInfo fileId with
  | none => pure 0
  | some file =>
    match file.dataProtocol with
    | .BROWSER_FILEREADER => do
      match ← lookupFile file.fileName with
      | none => fail ("No handle available for file: " ++ file.fileName)
      | some _ => pure 0
    | .BROWSER_FSACCESS | .HTTP | .S3 => read (·.now)
    | _ => pure 0

end DuckdbWasm
