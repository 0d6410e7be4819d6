import Mathlib.Data.List.Nodup
import Zally.Outcome

/-! JSON values, and records read from the members of an object. The order in which the
members are written tells nothing. -/
namespace Wire

inductive JsonNumber where
  | posInt (value : UInt64)
  | negInt (value : Int64)
  | float (bits : UInt64)
  deriving DecidableEq

inductive Json where
  | null
  | bool (value : Bool)
  | number (value : JsonNumber)
  | string (text : String)
  | array (items : List Json)
  | object (members : List (String × Json))

inductive JsonError where
  | invalidType
  | invalidValue
  | unknownVariant (name : String)
  | missingField (name : String)
  | duplicateField (name : String)
  | custom (reason : String)
  deriving DecidableEq

namespace Json

open Outcome

/-- The members with known names; none of them may be given twice. -/
def collect (known : List String) : List (String × Json) → List (String × Json) →
    Except JsonError (List (String × Json))
  | found, [] => .ok found
  | found, (name, value) :: members =>
    if name ∈ known then
      if name ∈ found.map Prod.fst then .error (.duplicateField name)
      else collect known (found ++ [(name, value)]) members
    else collect known found members

/-- The members of an object that is read as a record. -/
def record (known : List String) : Json → Except JsonError (List (String × Json))
  | object members => collect known [] members
  | _ => .error .invalidType

/-- A field that must be there. -/
def field (found : List (String × Json)) (name : String) (read : Json → Except JsonError α) :
    Except JsonError α :=
  match found.lookup name with
  | some value => read value
  | none => .error (.missingField name)

def asString : Json → Except JsonError String
  | string text => .ok text
  | _ => .error .invalidType

/-- An unsigned number below `bound`. -/
def asUnsigned (bound : Nat) : Json → Except JsonError Nat
  | number (.posInt value) => if value.toNat < bound then .ok value.toNat else .error .invalidValue
  | number (.negInt _) => .error .invalidValue
  | _ => .error .invalidType

/-- One of the named variants. -/
def asVariant (variants : List (String × α)) : Json → Except JsonError α
  | string name =>
    match variants.lookup name with
    | some variant => .ok variant
    | none => .error (.unknownVariant name)
  | _ => .error .invalidType

theorem lookup_eq_some_iff_mem {members : List (String × Json)}
    (nodup : (members.map Prod.fst).Nodup) :
    members.lookup name = some value ↔ (name, value) ∈ members := by
  induction members with
  | nil => simp
  | cons member members ih =>
    obtain ⟨other, first⟩ := member
    rw [List.map_cons,List.nodup_cons] at nodup
    obtain ⟨fresh, nodup⟩ := nodup
    rw [List.lookup_cons,List.mem_cons,Prod.mk.injEq]
    by_cases same : name = other
    · subst same
      have absent : (name, value) ∉ members := fun member =>
        fresh (List.mem_map.mpr ⟨_, member, rfl⟩)
      simp [absent,eq_comm]
    · rw [beq_eq_false_iff_ne.mpr same]
      simp [same,ih nodup]

theorem lookup_perm {written members : List (String × Json)}
    (nodup : (written.map Prod.fst).Nodup) (perm : List.Perm members written) (name : String) :
    members.lookup name = written.lookup name := by
  have others : (members.map Prod.fst).Nodup := (perm.map Prod.fst).nodup_iff.mpr nodup
  apply Option.ext
  intro value
  rw [lookup_eq_some_iff_mem others,lookup_eq_some_iff_mem nodup,perm.mem_iff]

theorem collect_of_nodup {members found : List (String × Json)}
    (nodup : ((found ++ members).map Prod.fst).Nodup) (listed : ∀ member ∈ members, member.1 ∈ known) :
    collect known found members = .ok (found ++ members) := by
  induction members generalizing found with
  | nil => rw [collect,List.append_nil]
  | cons member members ih =>
    obtain ⟨name, value⟩ := member
    have fresh : name ∉ found.map Prod.fst := by
      rw [List.map_append,List.map_cons] at nodup
      exact fun given => List.disjoint_of_nodup_append nodup given List.mem_cons_self
    rw [List.append_cons] at nodup
    rw [collect,if_pos (listed _ List.mem_cons_self),if_neg fresh]
    rw [ih nodup fun other later => listed other (List.mem_cons_of_mem _ later),
      ← List.append_cons]

/-- What is written with different known names is read, in whatever order. -/
theorem record_of_perm {written members : List (String × Json)}
    (nodup : (written.map Prod.fst).Nodup) (perm : List.Perm members written)
    (listed : ∀ member ∈ written, member.1 ∈ known) :
    record known (object members) = .ok members := by
  have others : (([] ++ members).map Prod.fst).Nodup := (perm.map Prod.fst).nodup_iff.mpr nodup
  rw [record,collect_of_nodup others fun member given => listed member (perm.mem_iff.mp given),
    List.nil_append]

theorem field_of_perm {written members : List (String × Json)}
    (nodup : (written.map Prod.fst).Nodup) (perm : List.Perm members written) (name : String)
    (read : Json → Except JsonError α) : field members name read = field written name read := by
  rw [field,lookup_perm nodup perm name,field]

end Json
end Wire
