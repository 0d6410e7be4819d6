import Mathlib.Data.Set.Card
import Mathlib.Logic.Function.Basic
import Zally.Sql.Rows

/-! A table as a map: what each key of its primary key holds, under the statements that write rows
of one form. -/
namespace Sql

variable {ρ κ ν ω : Type}

/-- How the values of a map are written as rows. -/
structure Layout (ρ κ ν ω : Type) where
  row : κ → ν → ρ
  key : ρ → ω
  name : κ → ω
  named : ∀ place value, key (row place value) = name place
  injective : Function.Injective name

namespace Layout

variable {layout : Layout ρ κ ν ω} {rows : List ρ} {held : κ → Option ν}

/-- The rows are those of the map. -/
def Represents (layout : Layout ρ κ ν ω) (rows : List ρ) (held : κ → Option ν) : Prop :=
  ∀ row, row ∈ rows ↔ ∃ place value, held place = some value ∧ row = layout.row place value

theorem represents_empty (layout : Layout ρ κ ν ω) : layout.Represents [] fun _ => none := by
  intro row
  constructor
  · exact fun member => absurd member List.not_mem_nil
  · rintro ⟨place, value, nothing, -⟩
    cases nothing

/-- A row written in place of those with its name. -/
theorem Represents.put [DecidableEq κ] {after : List ρ} (represents : layout.Represents rows held)
    (place : κ) (value : ν) (written : ∀ row, row ∈ after ↔
      row = layout.row place value ∨ (row ∈ rows ∧ layout.key row ≠ layout.name place)) :
    layout.Represents after (Function.update held place (some value)) := by
  intro row
  rw [written]
  constructor
  · rintro (rfl | ⟨member, differs⟩)
    · exact ⟨place, value, Function.update_self _ _ _, rfl⟩
    · obtain ⟨other, stored, found, rfl⟩ := (represents row).mp member
      have apart : other ≠ place := by
        rintro rfl
        exact differs (layout.named _ _)
      exact ⟨other, stored, by rw [Function.update_of_ne apart,found], rfl⟩
  · rintro ⟨other, stored, found, rfl⟩
    by_cases same : other = place
    · subst same
      rw [Function.update_self] at found
      exact .inl (by rw [Option.some.inj found])
    · rw [Function.update_of_ne same] at found
      refine .inr ⟨(represents _).mpr ⟨other, stored, found, rfl⟩, fun clash => same ?_⟩
      rw [layout.named] at clash
      exact layout.injective clash

theorem Represents.upsert [DecidableEq κ] [DecidableEq ω] (represents : layout.Represents rows held)
    (place : κ) (value : ν) :
    layout.Represents (Sql.upsert layout.key (layout.row place value) rows)
      (Function.update held place (some value)) :=
  represents.put place value fun row => by rw [mem_upsert_iff,layout.named]

/-- Dropping rows drops their values. -/
theorem Represents.filter (represents : layout.Represents rows held) {keeps : ρ → Bool}
    {kept : κ → ν → Bool} (agree : ∀ place value, held place = some value →
      keeps (layout.row place value) = kept place value) :
    layout.Represents (rows.filter keeps) fun place => (held place).filter (kept place) := by
  intro row
  rw [List.mem_filter,represents row]
  constructor
  · rintro ⟨⟨place, value, found, rfl⟩, keep⟩
    refine ⟨place, value, ?_, rfl⟩
    exact Option.filter_eq_some_iff.mpr ⟨found, (agree place value found).symm.trans keep⟩
  · rintro ⟨place, value, filtered, rfl⟩
    obtain ⟨found, keep⟩ := Option.filter_eq_some_iff.mp filtered
    exact ⟨⟨place, value, found, rfl⟩, (agree place value found).trans keep⟩

/-- The rows that a condition selects are as many as the places it selects. -/
theorem Represents.length_filter [DecidableEq ω] (represents : layout.Represents rows held)
    (unique : Unique (fun _ => True) layout.key rows) {selects : ρ → Bool}
    {selected : κ → ν → Prop}
    (agree : ∀ place value, held place = some value →
      (selects (layout.row place value) = true ↔ selected place value)) :
    (rows.filter selects).length =
      { place | ∃ value, held place = some value ∧ selected place value }.ncard := by
  have nodup : ((rows.filter selects).map layout.key).Nodup := (unique.filter selects).nodup_map
  have names : layout.name '' { place | ∃ value, held place = some value ∧ selected place value } =
      ((rows.filter selects).map layout.key).toFinset := by
    ext name
    simp only [Set.mem_image,Set.mem_ofPred_eq,List.coe_toFinset,List.mem_map,List.mem_filter]
    constructor
    · rintro ⟨place, ⟨value, found, chosen⟩, rfl⟩
      exact ⟨layout.row place value, ⟨(represents _).mpr ⟨place, value, found, rfl⟩,
        (agree place value found).mpr chosen⟩, layout.named place value⟩
    · rintro ⟨row, ⟨member, chosen⟩, rfl⟩
      obtain ⟨place, value, found, rfl⟩ := (represents row).mp member
      exact ⟨place, ⟨value, found, (agree place value found).mp chosen⟩, (layout.named place value).symm⟩
  rw [← Set.ncard_image_of_injective _ layout.injective,names,Set.ncard_coe_finset,
    List.toFinset_card_of_nodup nodup,List.length_map]

end Layout
end Sql
