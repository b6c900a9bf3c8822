import DuckdbWasm.Runtime.Paths

/-! # Runs of the runtime

The engine calls BROWSER_RUNTIME's entry points one at a time; between two calls the engine
may change its file table. A run is any interleaving of the two, and `Reach w₀` collects the
worlds runs from `w₀` end in.
-/
namespace DuckdbWasm
open Js

/-- An entry point of BROWSER_RUNTIME with its arguments; openFileAsync is the method
registerAsyncMethodsIntoBrowserRuntime installs. -/
inductive Call where
  | openFile (fileId flags : Nat)
  | openFileAsync (fileId flags : Nat)
  | readFile (fileId buf bytes location : Nat)
  | writeFile (fileId buf bytes location : Nat)
  | truncateFile (fileId newSize : Nat)
  | closeFile (fileId : Nat)
  | closeFileByName (fileName : String)
  | glob (path : String)
  | checkFile (path : String)
  | getLastFileModificationTime (fileId : Nat)
  | moveFile (fromPath toPath : String)
  | getFileInfo (fileId : Nat)
  | getGlobalFileInfo

/-- A call whose value is dropped. -/
def discard (m : Js α) : Js Unit := (fun _ => ()) <$> m

/-- The call, run on a world: how it completes and the world it leaves. -/
def Call.run : Call → Js Unit
  | .openFile fileId flags => discard (DuckdbWasm.openFile fileId flags)
  | .openFileAsync fileId flags => discard (autoThrowWASMError (DuckdbWasm.openFileAsync fileId flags))
  | .readFile fileId buf bytes location => discard (DuckdbWasm.readFile fileId buf bytes location)
  | .writeFile fileId buf bytes location => discard (DuckdbWasm.writeFile fileId buf bytes location)
  | .truncateFile fileId newSize => DuckdbWasm.truncateFile fileId newSize
  | .closeFile fileId => DuckdbWasm.closeFile fileId
  | .closeFileByName fileName => discard (DuckdbWasm.closeFileByName fileName)
  | .glob path => DuckdbWasm.glob path
  | .checkFile path => discard (DuckdbWasm.checkFile path)
  | .getLastFileModificationTime fileId => discard (DuckdbWasm.getLastFileModificationTime fileId)
  | .moveFile fromPath toPath => discard (DuckdbWasm.moveFile fromPath toPath)
  | .getFileInfo fileId => discard (DuckdbWasm.getFileInfo fileId)
  | .getGlobalFileInfo => discard DuckdbWasm.getGlobalFileInfo

/-- The world a sequence of calls leaves, made one after another from `w`. -/
def runCalls : List Call → World → World
  | [], w => w
  | c :: cs, w => runCalls cs (c.run w).2

/-- BROWSER_RUNTIME as created, over a host: `_files` as the page registered it, both caches empty. -/
def World.fresh (imports : Imports) (engine : Engine) (net : Nat → Request → Answer)
    (files : JsMap FilesKey Nat) (objects : Nat → HostObject) (opfs : Opfs) : World where
  files := files
  fileInfoCache := []
  globalFileInfo := none
  imports := imports
  engine := engine
  heap := Heap.zero
  failures := []
  globPaths := []
  net := net
  sent := []
  objects := objects
  opfs := opfs
  now := 0

/-- An engine that knows no file. -/
def Engine.empty : Engine := ⟨fun _ => none, fun _ => 0, fun _ => none, none, 0⟩

/-- An engine that knows the files `infos` by their ids and names, all at epoch 1. -/
def Engine.ofFiles (infos : List FileInfo) : Engine where
  record fileId := infos.find? (·.fileId = fileId)
  epoch _ := 1
  fileIdOfName fileName := (infos.find? (·.fileName = fileName)).map (·.fileId)
  globalRecord := none
  globalEpoch := 0

/-- A network on which every request fails. -/
def offline : Nat → Request → Answer := fun _ _ => .abort (.error "NetworkError" "Failed to execute send")

/-- The helpers as duckdb-wasm defines them where a run needs them: DuckDB's FileFlags bits,
an assertOPFSHandle that wants an OPFS handle holding an access handle, and an S3 URL built
from the object path. -/
def Imports.duckdb : Imports where
  getHTTPUrl _ path := "https://" ++ String.mk ((path.getD "").toList.drop 5)
  assertOPFSHandle name fileName handle requireAccess :=
    match handle with
    | some (.opfs h) =>
      if requireAccess && h.accessHandle.isNone then
        some (jsError (name ++ ": the OPFS file \"" ++ fileName ++ "\" has no access handle"))
      else none
    | _ => some (jsError (name ++ ": no OPFS handle for \"" ++ fileName ++ "\""))
  getDataProtocolName p := match p with
    | some .BUFFER => "BUFFER"
    | some .NODE_FS => "NODE_FS"
    | some .BROWSER_FILEREADER => "BROWSER_FILEREADER"
    | some .BROWSER_FSACCESS => "BROWSER_FSACCESS"
    | some .HTTP => "HTTP"
    | some .S3 => "S3"
    | none => "undefined"
  fileFlagsRead := 1
  fileFlagsWrite := 2
  fileFlagsFileCreate := 8
  fileFlagsFileCreateNew := 16
  fileFlagsAppend := 32

/-- A change on the engine's side: no epoch goes back, and a file id whose record changes
(dropped, assigned, or replaced) gets a later epoch; likewise for the global record. -/
structure Engine.Advances (e e' : Engine) : Prop where
  epoch_mono : ∀ fileId, e.epoch fileId ≤ e'.epoch fileId
  epoch_bump : ∀ fileId, e'.record fileId ≠ e.record fileId → e.epoch fileId < e'.epoch fileId
  globalEpoch_mono : e.globalEpoch ≤ e'.globalEpoch
  globalEpoch_bump : e'.globalRecord ≠ e.globalRecord → e.globalEpoch < e'.globalEpoch

/-- The worlds reached from `w₀` by runtime calls and engine changes, in any order. -/
inductive Reach (w₀ : World) : World → Prop
  | init : Reach w₀ w₀
  | call {w : World} (c : Call) : Reach w₀ w → Reach w₀ (c.run w).2
  | engine {w : World} (e : Engine) : Reach w₀ w → w.engine.Advances e → Reach w₀ { w with engine := e }

theorem Reach.runCalls {w₀ w : World} (h : Reach w₀ w) (cs : List Call) : Reach w₀ (runCalls cs w) := by
  induction cs generalizing w with
  | nil => exact h
  | cons c cs ih => exact ih (.call c h)

end DuckdbWasm
