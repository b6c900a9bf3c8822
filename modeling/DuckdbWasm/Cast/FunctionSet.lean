import Mathlib.Data.List.Basic

/-! # The DECIMAL hunk of the cast lookup patch

duckdb-wasm's patch to MapCastInfo::GetEntry looks a DECIMAL target up as the bare DECIMAL
type, exactly and then by RelaxedTypeMatch (a parameter here), and returns nullptr when neither
finds an entry, so an entry registered for DECIMAL(p, s) itself is lost.
-/
namespace DuckdbWasm

/-- The type ids the hunk compares: DECIMAL, and every other id by its name. -/
inductive LogicalTypeId
  | DECIMAL
  | other (name : String)
  deriving DecidableEq, Repr

/-- The types cast entries are keyed by: DECIMAL with its width and scale, or with none as
LogicalType(LogicalTypeId::DECIMAL) has, and every other type by a name for its id and type
info. Keys compare structurally, as LogicalType's equality compares id and type info. -/
inductive LogicalType
  | decimal (widthScale : Option (Nat × Nat))
  | named (name : String)
  deriving DecidableEq, Repr

namespace LogicalType

/-- LogicalType::id. -/
def id : LogicalType → LogicalTypeId
  | decimal _ => .DECIMAL
  | named name => .other name

end LogicalType

/-- type_map_t: cast entries keyed by type, at most one under each type. -/
structure TypeMap (α : Type) where
  entries : List (LogicalType × α)
  keys_nodup : (entries.map Prod.fst).Nodup

/-- type_map_t::find: the entry under the key, none for end(). -/
def TypeMap.find {α : Type} (E : TypeMap α) (key : LogicalType) : Option α :=
  E.entries.lookup key

namespace MapCastInfo
section GetEntry
variable {α : Type} (relaxedTypeMatch : TypeMap α → LogicalType → Option α)

/-- GetEntry before the patch, from the entries E under the target's id on: the entry under the
target itself, else RelaxedTypeMatch's, else nullptr (the sources stop inside this lookup). -/
def getEntryUnpatched (E : TypeMap α) (target : LogicalType) : Option α :=
  match E.find target with
  | some entry => some entry
  | none => relaxedTypeMatch E target

/-- GetEntry as patched: a DECIMAL target is looked up as the bare DECIMAL type, exactly and
then by RelaxedTypeMatch, with nullptr when neither finds it. have_regular_decimal is cleared
only just before that return, so the hunk never falls through to the lookup below it. -/
def getEntry (E : TypeMap α) (target : LogicalType) : Option α :=
  if target.id = .DECIMAL then
    let decimalTarget := LogicalType.decimal none
    match E.find decimalTarget with
    | some entry => some entry
    | none => relaxedTypeMatch E decimalTarget
  else getEntryUnpatched relaxedTypeMatch E target

/-- The unpatched lookup finds nothing exactly when neither the target nor RelaxedTypeMatch does. -/
theorem getEntryUnpatched_eq_none (E : TypeMap α) (target : LogicalType) :
    getEntryUnpatched relaxedTypeMatch E target = none ↔
      E.find target = none ∧ relaxedTypeMatch E target = none := by
  unfold getEntryUnpatched
  cases E.find target <;> simp

/-- The patched GetEntry is the unpatched one asked for the bare DECIMAL type in place of every
DECIMAL target. -/
theorem getEntry_eq (E : TypeMap α) (target : LogicalType) :
    getEntry relaxedTypeMatch E target =
      getEntryUnpatched relaxedTypeMatch E (if target.id = .DECIMAL then .decimal none else target) := by
  unfold getEntry
  split_ifs <;> rfl

/-- With a bare DECIMAL entry beside an exact one, the patch returns the bare entry. -/
example : getEntry (fun _ _ => none)
      ⟨[(.decimal none, "bare"), (.decimal (some (18, 3)), "exact")], by decide⟩ (.decimal (some (18, 3))) =
        some "bare" := by
  decide

/-- Without a bare or relaxed DECIMAL entry the patched GetEntry returns nullptr for every
DECIMAL target, so it agrees with the unpatched lookup exactly where that finds nothing either:
an entry under the target itself, or a relaxed one, is lost. -/
theorem getEntry_decimal_null (E : TypeMap α) {target : LogicalType} (hdecimal : target.id = .DECIMAL)
    (hbare : E.find (.decimal none) = none) (hrelaxed : relaxedTypeMatch E (.decimal none) = none) :
    getEntry relaxedTypeMatch E target = none ∧
      (getEntry relaxedTypeMatch E target = getEntryUnpatched relaxedTypeMatch E target ↔
        E.find target = none ∧ relaxedTypeMatch E target = none) := by
  have hnull : getEntry relaxedTypeMatch E target = none := by
    rw [getEntry_eq, if_pos hdecimal, getEntryUnpatched_eq_none]
    exact ⟨hbare, hrelaxed⟩
  refine ⟨hnull, ?_⟩
  rw [hnull, eq_comm, getEntryUnpatched_eq_none]

end GetEntry

/-- A relaxed match for the input below: the entry under ANY, whatever the type. -/
def anyEntryMatch {α : Type} (E : TypeMap α) (_ : LogicalType) : Option α :=
  E.find (.named "ANY")

/-- One cast registered for DECIMAL(18, 3) only. -/
def exactDecimalCast : TypeMap String :=
  ⟨[(.decimal (some (18, 3)), "to DECIMAL(18,3)")], by decide⟩

theorem getEntry_decimal_18_3_null :
    (LogicalType.decimal (some (18, 3))).id = .DECIMAL ∧ exactDecimalCast.find (.decimal none) = none ∧
      anyEntryMatch exactDecimalCast (.decimal none) = none ∧
      getEntryUnpatched anyEntryMatch exactDecimalCast (.decimal (some (18, 3))) = some "to DECIMAL(18,3)" ∧
      (getEntry anyEntryMatch exactDecimalCast (.decimal (some (18, 3))) = none ∧
        (getEntry anyEntryMatch exactDecimalCast (.decimal (some (18, 3))) =
            getEntryUnpatched anyEntryMatch exactDecimalCast (.decimal (some (18, 3))) ↔
          exactDecimalCast.find (.decimal (some (18, 3))) = none ∧
            anyEntryMatch exactDecimalCast (.decimal (some (18, 3))) = none)) :=
  ⟨rfl, by decide, by decide, by decide,
    getEntry_decimal_null anyEntryMatch exactDecimalCast rfl (by decide) (by decide)⟩

end MapCastInfo

end DuckdbWasm
