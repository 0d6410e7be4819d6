import Mathlib.Data.List.Forall2

/-! Computations that may fail: what one that returned went through, and what each item of a list
led to in a loop that returned. -/
namespace Outcome

variable {ε ε' : Type}

theorem bind_ok_iff {first : Except ε α} {rest : α → Except ε β} :
    first >>= rest = .ok value ↔ ∃ middle, first = .ok middle ∧ rest middle = .ok value := by
  cases first with
  | error error => exact ⟨nofun, nofun⟩
  | ok middle =>
    constructor
    · exact fun rest => ⟨middle, rfl, rest⟩
    · rintro ⟨_, same, rest⟩
      cases same
      exact rest

theorem bind_ok {first : Except ε α} {rest : α → Except ε β} (ran : first = .ok middle)
    (returned : rest middle = .ok value) : first >>= rest = .ok value :=
  bind_ok_iff.mpr ⟨middle, ran, returned⟩

/-- A check before the rest. -/
theorem check_bind_ok_iff {check : Except ε Unit} {rest : Except ε β} :
    (check >>= fun _ => rest) = .ok value ↔ check = .ok () ∧ rest = .ok value := by
  rw [bind_ok_iff]
  constructor
  · rintro ⟨⟨⟩, passed, rest⟩
    exact ⟨passed, rest⟩
  · exact fun both => ⟨(), both⟩

theorem mapError_ok_iff {error : ε → ε'} {result : Except ε α} :
    result.mapError error = .ok value ↔ result = .ok value := by
  cases result with
  | error failed => exact iff_of_false (fun same => (by cases same)) (fun same => (by cases same))
  | ok found => exact ⟨fun same => congrArg Except.ok (Except.ok.inj same),
      fun same => congrArg Except.ok (Except.ok.inj same)⟩

theorem bind_error_iff {first : Except ε α} {rest : α → Except ε β} :
    first >>= rest = .error error ↔
      first = .error error ∨ ∃ middle, first = .ok middle ∧ rest middle = .error error := by
  cases first with
  | error failed =>
    constructor
    · intro same
      cases same
      exact .inl rfl
    · rintro (same | ⟨middle, ran, -⟩)
      · cases same
        rfl
      · cases ran
  | ok middle =>
    constructor
    · exact fun failed => .inr ⟨middle, rfl, failed⟩
    · rintro (same | ⟨middle, ran, failed⟩)
      · cases same
      · cases ran
        exact failed

theorem mapError_error_iff {error : ε → ε'} {result : Except ε α} :
    result.mapError error = .error mapped ↔ ∃ source, result = .error source ∧ error source = mapped := by
  cases result with
  | error source =>
    constructor
    · intro same
      cases same
      exact ⟨source, rfl, rfl⟩
    · rintro ⟨source, same, rfl⟩
      cases same
      rfl
  | ok value => exact iff_of_false nofun (by rintro ⟨source, same, -⟩; cases same)

theorem map_ok_iff {f : α → β} {result : Except ε α} :
    result.map f = .ok value ↔ ∃ found, result = .ok found ∧ f found = value := by
  cases result with
  | error failed => exact ⟨nofun, nofun⟩
  | ok found =>
    constructor
    · exact fun same => ⟨found, rfl, Except.ok.inj same⟩
    · rintro ⟨_, same, rfl⟩
      rw [Except.ok.inj same]
      rfl

theorem map_error_iff {f : α → β} {result : Except ε α} :
    result.map f = .error error ↔ result = .error error := by
  cases result with
  | error failed => exact ⟨fun same => congrArg Except.error (Except.error.inj same),
      fun same => congrArg Except.error (Except.error.inj same)⟩
  | ok found => exact ⟨nofun, nofun⟩

theorem mem_toOption_iff {result : Except ε α} : value ∈ result.toOption ↔ result = .ok value := by
  cases result with
  | error failed => exact ⟨nofun, nofun⟩
  | ok found =>
    constructor
    · exact fun member => congrArg Except.ok (Option.some.inj member)
    · exact fun same => congrArg some (Except.ok.inj same)

/-- What is made without a check has a property when all it is made of leads to it. -/
theorem forall_made_iff {P : β → Prop} {make : α → β} {result : Except ε α} :
    (∀ value ∈ (result.map make).toOption, P value) ↔
      ∀ found, result = .ok found → P (make found) := by
  constructor
  · exact fun each found read => each _ (mem_toOption_iff.mpr (map_ok_iff.mpr ⟨found, read, rfl⟩))
  · intro each value member
    obtain ⟨found, read, rfl⟩ := map_ok_iff.mp (mem_toOption_iff.mp member)
    exact each found read

/-- A checked constructor makes its value when the check passes. -/
theorem isSome_of_checked {made : Option α} {built : α} {accepted : Prop}
    (checks : ∀ value, value ∈ made ↔ accepted ∧ value = built) : made.isSome ↔ accepted := by
  rw [Option.isSome_iff_exists]
  constructor
  · rintro ⟨value, member⟩
    exact ((checks value).mp member).1
  · exact fun passed => ⟨built, (checks built).mpr ⟨passed, rfl⟩⟩

section Related

variable {R : α → β → Prop} {S : β → γ → Prop}

theorem exists_of_forall₂ (related : List.Forall₂ R xs ys) (member : x ∈ xs) : ∃ y ∈ ys, R x y := by
  induction related with
  | nil => cases member
  | cons first _ ih =>
    rcases List.mem_cons.mp member with rfl | later
    · exact ⟨_, List.mem_cons_self, first⟩
    · obtain ⟨y, found, holds⟩ := ih later
      exact ⟨y, List.mem_cons_of_mem _ found, holds⟩

/-- What holds between items holds between what they are related to. -/
theorem pairwise_of_forall₂ {S : α → α → Prop} {T : β → β → Prop}
    (related : List.Forall₂ R xs ys) (pairs : xs.Pairwise S)
    (carry : ∀ x x' y y', R x y → R x' y' → S x x' → T y y') : ys.Pairwise T := by
  induction related with
  | nil => exact List.Pairwise.nil
  | cons first rest ih =>
    obtain ⟨before, pairs⟩ := List.pairwise_cons.mp pairs
    refine List.pairwise_cons.mpr ⟨fun y member => ?_, ih pairs⟩
    obtain ⟨x, among, relates⟩ := exists_of_forall₂ rest.flip member
    exact carry _ _ _ _ first relates (before x among)

theorem forall₂_of_exists (each : ∀ x ∈ xs, ∃ y, R x y) : ∃ ys, List.Forall₂ R xs ys := by
  induction xs with
  | nil => exact ⟨[], .nil⟩
  | cons x xs ih =>
    obtain ⟨y, first⟩ := each x List.mem_cons_self
    obtain ⟨ys, rest⟩ := ih fun z member => each z (List.mem_cons_of_mem _ member)
    exact ⟨y :: ys, .cons first rest⟩

theorem comp_of_forall₂ {T : α → γ → Prop} (first : List.Forall₂ R xs ys) (second : List.Forall₂ S ys zs)
    (joins : ∀ x y z, R x y → S y z → T x z) : List.Forall₂ T xs zs := by
  induction first generalizing zs with
  | nil =>
    cases second
    exact .nil
  | cons holds _ ih =>
    cases second with
    | cons next rest => exact .cons (joins _ _ _ holds next) (ih rest)

theorem map_eq_of_forall₂ {f : α → γ} {g : β → γ} (related : List.Forall₂ R xs ys)
    (same : ∀ x y, R x y → g y = f x) : ys.map g = xs.map f := by
  induction related with
  | nil => rfl
  | cons holds _ ih => rw [List.map_cons,List.map_cons,ih,same _ _ holds]

end Related

section Loops

variable {f : α → Except ε β} {items : List α} {values : List β}

/-- A loop returns when every round does. -/
theorem mapM_ok_iff :
    items.mapM f = .ok values ↔ List.Forall₂ (fun item value => f item = .ok value) items values := by
  induction items generalizing values with
  | nil =>
    rw [List.mapM_nil]
    constructor
    · intro ran
      obtain rfl := Except.ok.inj ran
      exact .nil
    · rintro ⟨⟩
      rfl
  | cons item items ih =>
    rw [List.mapM_cons,bind_ok_iff]
    constructor
    · rintro ⟨value, first, ran⟩
      obtain ⟨others, rest, returned⟩ := bind_ok_iff.mp ran
      obtain rfl := Except.ok.inj returned
      exact .cons first (ih.mp rest)
    · rintro (_ | ⟨first, others⟩)
      exact ⟨_, first, bind_ok_iff.mpr ⟨_, ih.mpr others, rfl⟩⟩

theorem exists_mapM_ok (each : ∀ item ∈ items, ∃ value, f item = .ok value) :
    ∃ values, items.mapM f = .ok values := by
  obtain ⟨values, related⟩ := forall₂_of_exists each
  exact ⟨values, mapM_ok_iff.mpr related⟩

theorem mapM_eq_map {g : α → β} (each : ∀ item ∈ items, f item = .ok (g item)) :
    items.mapM f = .ok (items.map g) :=
  mapM_ok_iff.mpr (List.forall₂_map_right_iff.mpr (List.forall₂_same.mpr each))

theorem exists_of_mapM_error (failed : items.mapM f = .error error) :
    ∃ item ∈ items, f item = .error error := by
  induction items with
  | nil => cases failed
  | cons item items ih =>
    rw [List.mapM_cons] at failed
    rcases bind_error_iff.mp failed with first | ⟨value, -, rest⟩
    · exact ⟨item, List.mem_cons_self, first⟩
    · rcases bind_error_iff.mp rest with later | ⟨values, -, returned⟩
      · obtain ⟨other, member, failed⟩ := ih later
        exact ⟨other, List.mem_cons_of_mem _ member, failed⟩
      · cases returned

/-- A checked decoding that undoes an encoding. -/
theorem mapM_ok_iff_of_undoes {back : β → α} {P : β → Prop}
    (each : ∀ item value, f item = .ok value ↔ back value = item ∧ P value) :
    items.mapM f = .ok values ↔ values.map back = items ∧ ∀ value ∈ values, P value := by
  rw [mapM_ok_iff]
  constructor
  · intro related
    refine ⟨?_, fun value member => ?_⟩
    · rw [map_eq_of_forall₂ related fun item value same => ((each item value).mp same).1,
        List.map_id']
    · obtain ⟨item, -, same⟩ := exists_of_forall₂ related.flip member
      exact ((each item value).mp same).2
  · rintro ⟨rfl, holds⟩
    rw [List.forall₂_map_left_iff,List.forall₂_same]
    exact fun value member => (each _ value).mpr ⟨rfl, holds value member⟩

/-- A check before a plain copy. -/
theorem mapM_ok_iff_of_copies {copy : α → β} {P : α → Prop}
    (each : ∀ item value, f item = .ok value ↔ P item ∧ value = copy item) :
    items.mapM f = .ok values ↔ (∀ item ∈ items, P item) ∧ values = items.map copy := by
  rw [mapM_ok_iff]
  constructor
  · intro related
    refine ⟨fun item member => ?_, ?_⟩
    · obtain ⟨value, -, same⟩ := exists_of_forall₂ related member
      exact ((each item value).mp same).1
    · rw [← map_eq_of_forall₂ related fun item value same => ((each item value).mp same).2,
        List.map_id']
  · rintro ⟨holds, rfl⟩
    rw [List.forall₂_map_right_iff,List.forall₂_same]
    exact fun item member => (each item _).mpr ⟨holds item member, rfl⟩

theorem mem_of_mapM_ok (mapped : items.mapM f = .ok values) (member : value ∈ values) :
    ∃ item ∈ items, f item = .ok value :=
  exists_of_forall₂ (mapM_ok_iff.mp mapped).flip member

end Loops

section Panics

/-! A computation that may also panic, which leaves no result. -/

variable {first : ExceptT ε Option α} {next : α → ExceptT ε Option β}

/-- A sequence does not panic when its parts do not. -/
theorem returns_bind {result : α → Except ε β} (started : first.run = some outcome)
    (continues : ∀ value, (next value).run = some (result value)) :
    (first >>= next).run = some (outcome >>= result) := by
  rw [ExceptT.run_bind,started]
  cases outcome with
  | error error => rfl
  | ok value => exact continues value

/-- An index in range. -/
theorem returns_index {found : Option α} (inside : found = some value)
    (continues : (next value).run = some outcome) :
    ((liftM found : ExceptT ε Option α) >>= next).run = some outcome := by
  rw [inside]
  exact continues

/-- A conversion that succeeds. -/
theorem returns_into {converted : Except ε α} (fits : converted = .ok value)
    (continues : (next value).run = some outcome) :
    ((liftM converted : ExceptT ε Option α) >>= next).run = some outcome := by
  rw [fits]
  exact continues

end Panics

end Outcome
