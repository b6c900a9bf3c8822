import DuckdbWasm.Runtime.FileInfo

/-! # openFile and openFileAsync

For HTTP and S3 files openFile probes range support before any read: a ranged HEAD, then a
GET of the first byte (with a second HEAD when Content-Range cannot be read), then one
unranged GET of the whole file. It answers with an OpenedFile: a size and a buffer pointer,
the pointer 0 when reads go to the server with ranges. Blob and OPFS files are answered from
the objects registered in `_files`; openFileAsync acquires the OPFS handles first.
-/
namespace DuckdbWasm
open Js

/-- `flags & mask`, as JavaScript tests it. -/
def hasFlag (flags mask : Nat) : Bool := flags &&& mask != 0

/-- The URL a plain `xhr.open(method, file.dataUrl!)` gets; a null URL is the text "null". -/
def jsUrl (url : Option String) : String := url.getD "null"

/-- A request to `path`: for S3 opened on getHTTPUrl and passed through addS3Headers with
`signedAs` as its method, otherwise opened on the path itself. -/
def remoteRequest (im : Imports) (isS3 : Bool) (config : Option S3Config) (method : HttpMethod)
    (path : Option String) (range : Option ByteRange) (signedAs : HttpMethod) : Request :=
  if isS3 then
    { method, url := im.getHTTPUrl config path, range,
      signature := some ⟨config, path, signedAs, none, none⟩, body := none }
  else { method, url := jsUrl path, range, signature := none, body := none }

@[simp] theorem remoteRequest_method (im : Imports) (isS3 : Bool) (config : Option S3Config)
    (method : HttpMethod) (path : Option String) (range : Option ByteRange) (signedAs : HttpMethod) :
    (remoteRequest im isS3 config method path range signedAs).method = method := by
  unfold remoteRequest; split <;> rfl

@[simp] theorem remoteRequest_range (im : Imports) (isS3 : Bool) (config : Option S3Config)
    (method : HttpMethod) (path : Option String) (range : Option ByteRange) (signedAs : HttpMethod) :
    (remoteRequest im isS3 config method path range signedAs).range = range := by
  unfold remoteRequest; split <;> rfl

/-- The request openFile and readFile build for `file`, signed for its own method. -/
def fileRequest (im : Imports) (file : FileInfo) (method : HttpMethod) (range : Option ByteRange) : Request :=
  remoteRequest im (file.dataProtocol = .S3) file.s3Config method file.dataUrl range method

/-- `bytes=0-`. -/
def rangeAll : ByteRange := ⟨0, none⟩

/-- `bytes=0-0`. -/
def rangeFirstByte : ByteRange := ⟨0, some 0⟩

/-- The ranged HEAD of steps 1 and 2: `HEAD` with `Range: bytes=0-`. -/
def rangedHeadRequest (im : Imports) (file : FileInfo) : Request := fileRequest im file .HEAD (some rangeAll)

/-- The GET of step 2, with `Range: bytes=0-0`. -/
def firstByteRequest (im : Imports) (file : FileInfo) : Request := fileRequest im file .GET (some rangeFirstByte)

/-- The unranged GET of step 3. -/
def fullRequest (im : Imports) (file : FileInfo) : Request := fileRequest im file .GET none

/-- The `throw` of an Error with `message`, at the end of a branch. -/
def fail (message : String) : Js α := throw (jsError message)

/-- How the ranged HEAD of the ladder's first step ends: a 206 answer with a Content-Length
settles the size; otherwise the later steps see `contentLength` and the caught `error`. -/
inductive HeadProbe where
  | supportsRanges (length : JsNumber)
  | fallThrough (contentLength : Option JsNumber) (error : Option Thrown)

/-- Lines 210-217: what the answer to the ranged HEAD settles. -/
def HeadProbe.ofResponse (xhr : Response) : HeadProbe :=
  match xhr.contentLength with
  | some length => if xhr.status = 206 then .supportsRanges length else .fallThrough (some length) none
  | none => .fallThrough none none

/-- Step 1, taken when HEAD requests are reliable or full reads are not allowed: a HEAD with
`Range: bytes=0-`, inside its own try/catch. -/
def rangedHead (im : Imports) (file : FileInfo) : Js HeadProbe :=
  if file.reliableHeadRequests || !file.allowFullHttpReads then
    tryCatch (HeadProbe.ofResponse <$> send (rangedHeadRequest im file))
      (fun e => pure (.fallThrough none (some e)))
  else pure (.fallThrough none none)

/-- Lines 244-265: the length the first-byte probe presumes, from Content-Range, or else,
when HEAD requests are not reliable, from the Content-Length of a second ranged HEAD, whose
status is not looked at; also `contentLength` as that HEAD leaves it. -/
def presumeLength (im : Imports) (file : FileInfo) (contentRange contentLength : Option JsNumber) :
    Js (Option JsNumber × Option JsNumber) :=
  match contentRange with
  | some total => pure (some total, contentLength)
  | none =>
    if file.reliableHeadRequests then pure (none, contentLength)
    else do
      let head ← send (rangedHeadRequest im file)
      pure (if head.contentLength.any (·.gt 1) then head.contentLength else none, head.contentLength)

/-- Line 267: a 206 answer of length 1 proves range support, with the presumed length. -/
def firstByteRanged (xhr : Response) (presumedLength : Option JsNumber) : Option JsNumber :=
  if xhr.status = 206 ∧ xhr.contentLength.any (·.looseEq (.num 1)) then presumedLength else none

theorem firstByteRanged_some {xhr : Response} {presumedLength : Option JsNumber} {length : JsNumber}
    (h : firstByteRanged xhr presumedLength = some length) : xhr.status = 206 ∧ presumedLength = some length := by
  unfold firstByteRanged at h
  split at h
  · exact ⟨‹_ ∧ _›.1, h⟩
  · cases h

/-- Line 273: a 200 answer whose Content-Length matches the HEAD's carries the whole file. -/
def firstByteComplete (xhr : Response) (contentLength : Option JsNumber) : Bool :=
  xhr.status = 200 && match xhr.contentLength, contentLength with
    | some a, some b => a.looseEq b
    | _, _ => false

/-- Lines 267-283: what the first-byte answer settles: the ranged descriptor, the buffered
download, or nothing. -/
def firstByteSettle (xhr : Response) (presumedLength contentLength : Option JsNumber) : Js (Option Nat) :=
  match firstByteRanged xhr presumedLength with
  | some length => some <$> openedFile length 0
  | none => if firstByteComplete xhr contentLength then some <$> bufferedFile xhr.body else pure none

/-- Step 2: a GET of `bytes=0-0`, which either settles the descriptor or falls through. -/
def firstByteProbe (im : Imports) (file : FileInfo) (contentLength : Option JsNumber) : Js (Option Nat) := do
  let xhr ← send (firstByteRequest im file)
  let (presumedLength, contentLength) ← presumeLength im file (xhr.contentRange.bind (·.total)) contentLength
  firstByteSettle xhr presumedLength contentLength

/-- Lines 309-312: the error caught in step 1 is raised, or openFile gives up with 0. -/
def readFailed (file : FileInfo) : Option Thrown → Js Nat
  | some e => fail ("Reading file " ++ file.fileName ++ " failed with error: " ++ e.toString)
  | none => pure 0

/-- Step 3: one unranged GET, whose body is kept when the answer is 200. -/
def fullRead (im : Imports) (file : FileInfo) (error : Option Thrown) : Js Nat := do
  let xhr ← send (fullRequest im file)
  if xhr.status = 200 then bufferedFile xhr.body else readFailed file error

/-- Lines 224-312, once the ranged HEAD fell through: steps 2 and 3 when full reads are
allowed, then the end of the ladder. -/
def fallBack (im : Imports) (file : FileInfo) (contentLength : Option JsNumber) (error : Option Thrown) :
    Js Nat :=
  if file.allowFullHttpReads then do
    match ← firstByteProbe im file contentLength with
    | some result => pure result
    | none => fullRead im file error
  else readFailed file error

/-- The read branch of openFile for an HTTP or S3 file: the degradation ladder. -/
def openForRead (im : Imports) (file : FileInfo) : Js Nat := do
  match ← rangedHead im file with
  | .supportsRanges length => openedFile length 0
  | .fallThrough contentLength error => fallBack im file contentLength error

/-- The write branch of openFile for an HTTP or S3 file: a HEAD, then an empty buffer. -/
def openForWrite (im : Imports) (file : FileInfo) (flags : Nat) : Js Nat := do
  let xhr ← send (fileRequest im file .HEAD none)
  if xhr.status ≠ 200 ∧ xhr.status ≠ 404 then
    fail ("Opening file " ++ file.fileName ++ " failed: Unexpected return status from server ("
      ++ toString xhr.status ++ ")")
  else if xhr.status = 404 ∧ !(hasFlag flags im.fileFlagsFileCreate || hasFlag flags im.fileFlagsFileCreateNew) then
    fail ("Opening file " ++ file.fileName ++ " failed: Cannot write to non-existent file without "
      ++ "FILE_FLAGS_FILE_CREATE or FILE_FLAGS_FILE_CREATE_NEW flag.")
  else do
    let data ← malloc 1
    heapSet [] data
    openedFile (.num 1) data

/-- The HTTP and S3 branch of openFile: the flag checks, then writing or reading. -/
def openRemoteFile (im : Imports) (file : FileInfo) (flags : Nat) : Js Nat :=
  if hasFlag flags im.fileFlagsRead && hasFlag flags im.fileFlagsWrite then
    fail ("Opening file " ++ file.fileName ++ " failed: cannot open file with both read and write flags set")
  else if hasFlag flags im.fileFlagsAppend then
    fail ("Opening file " ++ file.fileName ++ " failed: appending to HTTP/S3 files is not supported")
  else if hasFlag flags im.fileFlagsWrite then openForWrite im file flags
  else if !hasFlag flags im.fileFlagsRead then
    fail ("Opening file " ++ file.fileName ++ " failed: unsupported file flags: " ++ toString flags)
  else openForRead im file

/-- `handle.size` of an object in `_files`; an OPFSFileHandle has none, which is `NaN`. -/
def HostObject.size : HostObject → JsNumber
  | .blob data => .num data.length
  | .opfs _ => .nan

/-- Lines 323-329: a missing BROWSER_FILEREADER file is buffered as empty, with the descriptor
block allocated before its one-byte buffer. -/
def emptyBufferedFile : Js Nat := do
  let result ← malloc (2 * 8)
  let buffer ← malloc 1
  setF64 (result / 8) (.num 1)
  setF64 (result / 8 + 1) (.num buffer)
  pure result

/-- The BROWSER_FILEREADER branch of openFile. -/
def openFileReaderFile (file : FileInfo) : Js Nat := do
  match ← lookupFile file.fileName with
  | some handle => openedFile handle.size 0
  | none => emptyBufferedFile

/-- The BROWSER_FSACCESS branch of openFile: the handles must have been acquired already. -/
def openOPFSFile (fileName : String) : Js Nat := do
  match ← lookupFile fileName with
  | some (.opfs handle) =>
    match handle.fileHandle, handle.file with
    | some _, some size =>
      if handle.accessHandle.isSome then openedFile (.num size) 0
      else fail "Performing openFile on OPFS file should be with an accessHandle"
    | _, _ => fail ("Invalid file handle of the file \"" ++ fileName ++ "\"")
  | _ => fail ("Invalid file handle of the file \"" ++ fileName ++ "\"")

/-- BROWSER_RUNTIME.openFile. -/
def openFile (fileId flags : Nat) : Js Nat :=
  tryCatch (do
      dropCachedFileInfo fileId
      let file ← getFileInfo fileId
      let im ← read (·.imports)
      match file with
      | some file =>
        match file.dataProtocol with
        | .HTTP | .S3 => openRemoteFile im file flags
        | .BROWSER_FILEREADER => openFileReaderFile file
        | .BROWSER_FSACCESS => openOPFSFile file.fileName
        | p => fail ("Unsupported protocol for openFile: \"" ++ im.getDataProtocolName (some p) ++ "\"")
      | none => fail ("Unsupported protocol for openFile: \"" ++ im.getDataProtocolName none ++ "\""))
    (fun e => do
      failWith e.toString
      pure 0)

/-- The object `_files` holds under `fileName`, by reference. -/
def lookupRef (fileName : String) : Js (Option Nat) := read fun w => w.files.get (.name fileName)

/-- The OPFSFileHandle fields of an object as `handle.x` reads them; a `Blob` has none. -/
def HostObject.opfsHandle : HostObject → OPFSFileHandle
  | .opfs h => h
  | .blob _ => ⟨"", none, none, none, none, false⟩

/-- The object at `ref`, read as an OPFSFileHandle. -/
def handleAt (ref : Nat) : Js OPFSFileHandle := read fun w => (w.objects ref).opfsHandle

/-- An assignment `handle.x = v` to the object at `ref`. -/
def modifyHandle (ref : Nat) (f : OPFSFileHandle → OPFSFileHandle) : Js Unit :=
  modify fun w => w.setObject ref (.opfs (f (w.objects ref).opfsHandle))

/-- `FileSystemFileHandle.createSyncAccessHandle()`: refused while the file already has an
open access handle, otherwise a new open one. -/
def createSyncAccessHandle (file : Nat) : Js Nat := fun w =>
  if w.opfs.accessHandles.any (fun a => a.file = file && a.isOpen) then
    (.thrown (.error "NoModificationAllowedError" ("Access Handles cannot be created if there is another open " ++
      "Access Handle or Writable stream associated with the same file.")), w)
  else
    (.normal w.opfs.accessHandles.length,
      { w with opfs := { w.opfs with accessHandles := w.opfs.accessHandles ++ [⟨file, true⟩] } })

/-- `if (!handle.fileHandle) handle.fileHandle = await dir.getFileHandle(fileName, { create: true })`. -/
def ensureFileHandle (ref : Nat) (fileName : String) : Js Unit := do
  let handle ← handleAt ref
  match handle.fileHandle, handle.dirHandle with
  | some _, _ => pure ()
  | none, none => fail ("Failed to open file handle \"" ++ fileName ++ "\" from an unknown directory")
  | none, some dir => do
    let fileHandle ← read fun w => w.opfs.entry dir fileName
    modifyHandle ref fun h => { h with fileHandle := some fileHandle }

/-- `if (!handle.file) handle.file = await handle.fileHandle.getFile()`: a snapshot of the
file's current size. -/
def ensureFile (ref : Nat) : Js Unit := do
  let handle ← handleAt ref
  match handle.file, handle.fileHandle with
  | some _, _ => pure ()
  | none, none => throw (undefinedProperty "getFile")
  | none, some fileHandle => do
    let size ← read fun w => (w.opfs.contents fileHandle).length
    modifyHandle ref fun h => { h with file := some size }

/-- `if (!handle.accessHandle) handle.accessHandle = await handle.fileHandle.createSyncAccessHandle()`. -/
def ensureAccessHandle (ref : Nat) : Js Unit := do
  let handle ← handleAt ref
  match handle.accessHandle, handle.fileHandle with
  | some _, _ => pure ()
  | none, none => throw (undefinedProperty "createSyncAccessHandle")
  | none, some fileHandle => do
    let accessHandle ← createSyncAccessHandle fileHandle
    modifyHandle ref fun h => { h with accessHandle := some accessHandle }

/-- The OPFS part of openFileAsync, after the protocol check. -/
def acquireOPFSFile (fileName : String) : Js Nat := do
  let invalid := "Invalid file handle of the file \"" ++ fileName ++ "\""
  match ← lookupRef fileName with
  | none => fail invalid
  | some ref =>
    if (← handleAt ref).fileName.isEmpty then fail invalid
    else do
      ensureFileHandle ref fileName
      ensureFile ref
      ensureAccessHandle ref
      match (← handleAt ref).file with
      | some size => openedFile (.num size) 0
      | none => throw (undefinedProperty "size")

/-- openFileAsync, run to completion without interleaving. -/
def openFileAsync (fileId _flags : Nat) : Js Nat :=
  tryCatch (do
      dropCachedFileInfo fileId
      match ← getFileInfo fileId with
      | none => throw (.string ("The file with id " ++ toString fileId ++ " was not found"))
      | some file =>
        if file.dataProtocol = .BROWSER_FSACCESS then acquireOPFSFile file.fileName
        else do
          let im ← read (·.imports)
          fail ("openFileAsync doesn\x27t support the protocol: " ++ im.getDataProtocolName (some file.dataProtocol)))
    (fun e => do
      failWith e.toString
      pure 1)

/-- The message autoThrowWASMError reports for a rejection. -/
def wasmErrorMessage : Thrown → String
  | .string text => if text.isEmpty then "Unknown Internal Error" else text
  | .error _ message => if message.isEmpty then "Unknown Internal Error" else message

/-- autoThrowWASMError: a rejection is reported through failWith and resolves to undefined. -/
def autoThrowWASMError (call : Js Nat) : Js (Option Nat) :=
  tryCatch (some <$> call) (fun e => do
    failWith (wasmErrorMessage e)
    pure none)

end DuckdbWasm
