import Mathlib.Data.Finset.Card
import Mathlib.Data.List.Forall2

/-!
# Checks and loops that throw

A function that throws returns `none`.  A guard throws unless its condition holds, and a loop
over entries throws at the first entry that fails its check.  A `Set` is the list of its elements
in the order of insertion.
-/

namespace Js

/-- Throws unless the condition holds. -/
def ensure (condition : Prop) [Decidable condition] : Option Unit :=
  if condition then some () else none

@[simp] theorem ensure_eq_some {condition : Prop} [Decidable condition] {passed : Unit} :
    ensure condition = some passed ↔ condition := by
  rw [ensure]
  split
  next holds => exact ⟨fun _ => holds, fun _ => rfl⟩
  next fails => exact ⟨fun thrown => absurd thrown (by simp), fun holds => absurd holds fails⟩

/-- A check returns nothing. -/
theorem exists_unit {property : Unit → Prop} : (∃ passed, property passed) ↔ property () :=
  ⟨fun ⟨_, holds⟩ => holds, fun holds => ⟨(), holds⟩⟩

section MapM

variable {α β : Type} {f : α → Option β} {values : List α} {results : List β}

/-- Each result belongs to the value in its place. -/
theorem mapM_eq_some_iff :
    values.mapM f = some results ↔
      List.Forall₂ (fun value result => f value = some result) values results := by
  induction values generalizing results with
  | nil =>
      rw [List.mapM_nil, Option.pure_def, Option.some_inj, List.forall₂_nil_left_iff]
      exact eq_comm
  | cons value values ih =>
      rw [List.mapM_cons, List.forall₂_cons_left_iff]
      simp only [Option.bind_eq_bind, Option.bind_eq_some_iff, Option.pure_def, Option.some_inj,
        ih]
      constructor
      · rintro ⟨first, isFirst, others, areOthers, rfl⟩
        exact ⟨first, others, isFirst, areOthers, rfl⟩
      · rintro ⟨first, others, isFirst, areOthers, rfl⟩
        exact ⟨first, isFirst, others, areOthers, rfl⟩

theorem map_eq_of_mapM (mapped : values.mapM f = some results) :
    values.map f = results.map some := by
  rw [← List.forall₂_eq_eq_eq, List.forall₂_map_left_iff, List.forall₂_map_right_iff]
  exact mapM_eq_some_iff.mp mapped

theorem mem_mapM (mapped : values.mapM f = some results) {result : β} :
    result ∈ results ↔ ∃ value ∈ values, f value = some result := by
  rw [← List.mem_map_of_injective (Option.some_injective _), ← map_eq_of_mapM mapped,
    List.mem_map]

theorem exists_mapM (each : ∀ value ∈ values, ∃ result, f value = some result) :
    ∃ results, values.mapM f = some results := by
  induction values with
  | nil => exact ⟨[], rfl⟩
  | cons value values ih =>
      obtain ⟨first, isFirst⟩ := each value List.mem_cons_self
      obtain ⟨others, isOthers⟩ := ih fun value listed => each value (List.mem_cons_of_mem _ listed)
      refine ⟨first :: others, ?_⟩
      rw [List.mapM_cons, isFirst, isOthers]
      rfl

theorem forall_of_mapM (mapped : values.mapM f = some results) :
    ∀ value ∈ values, ∃ result, f value = some result := by
  intro value listed
  have member : f value ∈ results.map some := map_eq_of_mapM mapped ▸ List.mem_map_of_mem listed
  obtain ⟨result, _, isResult⟩ := List.mem_map.mp member
  exact ⟨result, isResult.symm⟩

theorem mapM_ne_nil (mapped : values.mapM f = some results) (nonempty : values.length ≠ 0) :
    results ≠ [] := by
  obtain ⟨value, values', rfl⟩ := List.exists_cons_of_length_pos (Nat.pos_of_ne_zero nonempty)
  obtain ⟨result, isResult⟩ := forall_of_mapM mapped value List.mem_cons_self
  exact List.ne_nil_of_mem ((mem_mapM mapped).mpr ⟨value, List.mem_cons_self, isResult⟩)

/-- A loop that only checks passes if every check does. -/
theorem forM_eq_some {check : α → Option Unit} :
    values.forM check = some () ↔ ∀ value ∈ values, check value = some () := by
  induction values with
  | nil => exact ⟨fun _ => List.forall_mem_nil _, fun _ => rfl⟩
  | cons value values ih =>
      rw [List.forM, Option.bind_eq_bind, Option.bind_eq_some_iff, List.forall_mem_cons, ih]
      constructor
      · rintro ⟨_, first, others⟩
        exact ⟨first, others⟩
      · rintro ⟨first, others⟩
        exact ⟨(), first, others⟩

end MapM

section Collect

variable {α ε : Type} [DecidableEq α]

/-- `set.add(value)`. -/
def add (set : List α) (value : α) : List α := if value ∈ set then set else set ++ [value]

theorem mem_add {set : List α} {value other : α} :
    other ∈ add set value ↔ other ∈ set ∨ other = value := by
  rw [add]
  split
  next listed =>
    constructor
    · exact Or.inl
    · rintro (member | rfl)
      · exact member
      · exact listed
  next => rw [List.mem_append, List.mem_singleton]

theorem nodup_add {set : List α} (nodup : set.Nodup) (value : α) : (add set value).Nodup := by
  rw [add]
  split
  next => exact nodup
  next fresh => exact List.nodup_append.mpr ⟨nodup, List.nodup_singleton value, by grind⟩

/-- Adds what a check returns for each of the entries. -/
def collect (check : ε → Option α) : List ε → List α → Option (List α)
  | [], set => some set
  | entry :: entries, set => do
      let value ← check entry
      collect check entries (add set value)

variable {check : ε → Option α} {entries : List ε} {set result : List α}

theorem collect_spec (collected : collect check entries set = some result) :
    (set.Nodup → result.Nodup) ∧
      (∀ value, value ∈ result ↔ value ∈ set ∨ ∃ entry ∈ entries, check entry = some value) ∧
      ∀ entry ∈ entries, ∃ value, check entry = some value := by
  induction entries generalizing set with
  | nil =>
      cases collected
      simp
  | cons entry entries ih =>
      obtain ⟨value, isValue, collected⟩ := Option.bind_eq_some_iff.mp collected
      obtain ⟨nodup, members, checked⟩ := ih collected
      refine ⟨fun distinct => nodup (nodup_add distinct value), ?_, ?_⟩
      · intro other
        rw [members, mem_add, List.exists_mem_cons_iff, isValue, Option.some_inj, or_assoc,
          eq_comm (a := value)]
      · exact List.forall_mem_cons.mpr ⟨⟨value, isValue⟩, checked⟩

theorem exists_collect (checked : ∀ entry ∈ entries, ∃ value, check entry = some value) :
    ∃ result, collect check entries set = some result := by
  induction entries generalizing set with
  | nil => exact ⟨set, rfl⟩
  | cons entry entries ih =>
      obtain ⟨value, isValue⟩ := checked entry List.mem_cons_self
      obtain ⟨result, isResult⟩ := @ih (add set value) fun entry listed =>
        checked entry (List.mem_cons_of_mem _ listed)
      refine ⟨result, ?_⟩
      rw [collect, isValue]
      exact isResult

/-- The size of the set is the number of different keys, if the check returns what is written for
the key of an entry. -/
theorem length_collect {κ : Type} [DecidableEq κ] {write : κ → α} {read : ε → Option κ}
    (injective : Function.Injective write)
    (collected : collect check entries [] = some result)
    (written : ∀ entry ∈ entries, ∀ value, check entry = some value →
      ∃ key, read entry = some key ∧ value = write key) :
    result.length = (entries.filterMap read).toFinset.card := by
  obtain ⟨nodup, members, checked⟩ := collect_spec collected
  have image : result.toFinset = (entries.filterMap read).toFinset.image write := by
    ext value
    simp only [List.mem_toFinset, members, Finset.mem_image, List.mem_filterMap]
    constructor
    · rintro (empty | ⟨entry, listed, isValue⟩)
      · cases empty
      · obtain ⟨key, isKey, rfl⟩ := written entry listed value isValue
        exact ⟨key, ⟨entry, listed, isKey⟩, rfl⟩
    · rintro ⟨key, ⟨entry, listed, isKey⟩, rfl⟩
      obtain ⟨value, isValue⟩ := checked entry listed
      obtain ⟨key', isKey', rfl⟩ := written entry listed value isValue
      cases isKey.symm.trans isKey'
      exact .inr ⟨entry, listed, isValue⟩
  rw [← List.toFinset_card_of_nodup (nodup List.nodup_nil), image,
    Finset.card_image_of_injective _ injective]

end Collect

end Js
