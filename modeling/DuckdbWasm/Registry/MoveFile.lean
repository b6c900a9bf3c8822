import DuckdbWasm.Runtime.Calls

/-! # moveFile and the file registry

moveFile looks up the object registered under the old name, deletes the `_files` entry keyed
by that object and registers the object under the new name; then it drops the first cached
record whose data URL is the old name. No key of `_files` is an object, so the delete
removes nothing and the old name stays registered; cached records after the first one for
the old name stay cached.
-/
namespace DuckdbWasm
open Js

/-- What moveFile leaves: the registry rebound, the cache with one record dropped. -/
theorem moveFile_run (fromPath toPath : String) (w : World) :
    moveFile fromPath toPath w = (.normal true, { w with
      files := match w.files.get (.name fromPath) with
        | some handle => (w.files.delete (.object handle)).set (.name toPath) handle
        | none => w.files
      fileInfoCache := dropFirstCachedUrl w.fileInfoCache fromPath }) := by
  simp only [moveFile, moveRegisteredHandle, lookupRef, bind_run, read_run]
  cases w.files.get (.name fromPath) <;> rfl

/-- Deleting an object key keeps every name's entry. -/
@[simp] theorem get_name_delete_object (files : JsMap FilesKey Nat) (ref : Nat) (fileName : String) :
    (files.delete (.object ref)).get (.name fileName) = files.get (.name fileName) :=
  JsMap.get_delete_ne _ FilesKey.noConfusion

/-- The names moveFile does not mention keep their entries. -/
theorem moveFile_files_get_other {w : World} {fromPath toPath fileName : String}
    (hto : toPath ≠ fileName) :
    (moveFile fromPath toPath w).2.files.get (.name fileName) = w.files.get (.name fileName) := by
  rw [moveFile_run]
  split <;> simp [hto]

/-- After a move of a registered name, the new name and still the old name denote the object. -/
theorem moveFile_keeps_source_entry {w : World} {fromPath toPath : String} {handle : Nat}
    (hreg : w.files.get (.name fromPath) = some handle) (hne : fromPath ≠ toPath) :
    (moveFile fromPath toPath w).2.files.get (.name toPath) = some handle ∧
      (moveFile fromPath toPath w).2.files.get (.name fromPath) = some handle := by
  rw [moveFile_run, hreg]
  exact ⟨by simp, by simpa [hne.symm] using hreg⟩

/-- A runtime with `data.parquet` registered as object 0. -/
def parquetRegistered : World :=
  World.fresh Imports.duckdb Engine.empty offline [(.name "data.parquet", 0)] (fun _ => .blob []) Opfs.empty

theorem moveFile_keeps_source_entry_parquet :
    parquetRegistered.files.get (.name "data.parquet") = some 0 ∧ "data.parquet" ≠ "moved.parquet" ∧
      (moveFile "data.parquet" "moved.parquet" parquetRegistered).2.files.get (.name "moved.parquet") = some 0 ∧
      (moveFile "data.parquet" "moved.parquet" parquetRegistered).2.files.get (.name "data.parquet") = some 0 :=
  ⟨rfl, by decide, moveFile_keeps_source_entry rfl (by decide)⟩

/-- Of two cached records for the old name, the loop's `break` leaves one. -/
theorem dropFirstCachedUrl_leaves_second {cache : JsMap Nat FileInfo} {fromPath : String} {i j : Nat}
    {a b : FileInfo} (hij : i ≠ j) (hi : cache.get i = some a) (hj : cache.get j = some b)
    (ha : a.dataUrl = some fromPath) (hb : b.dataUrl = some fromPath) :
    ∃ id info, (dropFirstCachedUrl cache fromPath).get id = some info ∧ info.dataUrl = some fromPath := by
  unfold dropFirstCachedUrl
  split
  · rename_i e _
    by_cases hk : e.1 = i
    · exact ⟨j, b, by rw [JsMap.get_delete_ne _ (hk ▸ hij)]; exact hj, hb⟩
    · exact ⟨i, a, by rw [JsMap.get_delete_ne _ hk]; exact hi, ha⟩
  · exact ⟨i, a, hi, ha⟩

end DuckdbWasm
