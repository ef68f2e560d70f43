import VirtualAdapter.Table
import Mathlib.Data.List.Nodup

/-!
# Tables with different keys

A table that is built by insertion and erasure has every key once, so that its
values are those that its keys give.
-/

namespace VirtualAdapter
namespace Table

variable {Key Value : Type}

/-- No key has two entries. -/
def IsProper (table : Table Key Value) : Prop := table.keys.Nodup

theorem isProper_empty : IsProper (∅ : Table Key Value) := List.nodup_nil

variable [DecidableEq Key]

theorem keys_put (key : Key) (value : Value) (entries : List (Key × Value)) :
    (put key value entries).map (·.1) =
      if key ∈ entries.map (·.1) then entries.map (·.1)
      else entries.map (·.1) ++ [key] := by
  induction entries with
  | nil => rfl
  | cons entry rest hypothesis =>
      obtain ⟨first, old⟩ := entry
      by_cases same : key = first
      · subst same
        simp [put]
      · rw [put, if_neg same, List.map_cons, hypothesis]
        by_cases present : key ∈ rest.map (·.1)
        · rw [if_pos present, if_pos (by simp_all)]
          rfl
        · rw [if_neg present, if_neg (by simp_all)]
          rfl

theorem IsProper.insert
    {table : Table Key Value}
    (proper : table.IsProper)
    (key : Key)
    (value : Value) : (table.insert key value).IsProper := by
  unfold IsProper keys Table.insert at *
  rw [keys_put]
  split
  case isTrue => exact proper
  case isFalse absent =>
    exact List.Nodup.append proper (List.nodup_singleton key)
      (by simpa using absent)

theorem IsProper.erase
    {table : Table Key Value}
    (proper : table.IsProper)
    (key : Key) : (table.erase key).IsProper :=
  List.Nodup.sublist (List.Sublist.map _ List.filter_sublist) proper

theorem IsProper.update
    {table : Table Key Value}
    (proper : table.IsProper)
    (key : Key)
    (change : Value → Value) : (table.update key change).IsProper := by
  unfold Table.update
  split
  · exact proper
  · exact proper.insert key _

theorem lookup_eq_some_iff
    {key : Key}
    {value : Value}
    {entries : List (Key × Value)}
    (proper : (entries.map (·.1)).Nodup) :
    lookup key entries = some value ↔ (key, value) ∈ entries := by
  induction entries with
  | nil => simp [lookup]
  | cons entry rest hypothesis =>
      obtain ⟨first, old⟩ := entry
      rw [List.map_cons, List.nodup_cons] at proper
      rw [lookup, List.mem_cons, Prod.mk.injEq, ← hypothesis proper.2]
      by_cases same : key = first
      · subst same
        have absent : lookup key rest ≠ some value := fun found =>
          proper.1 (List.mem_map.mpr
            ⟨(key, value), (hypothesis proper.2).mp found, rfl⟩)
        simp [absent, eq_comm]
      · simp [same]

/-- A table without entries gives nothing. -/
theorem get?_eq_none_of_isEmpty
    {table : Table Key Value}
    (empty : table.isEmpty = true)
    (key : Key) : table.get? key = none := by
  unfold get?
  rw [List.isEmpty_iff.mp empty]
  rfl

/-- What an updated table gives was there before. -/
theorem exists_of_get?_update
    {table : Table Key Value}
    {key other : Key}
    {change : Value → Value}
    {value : Value}
    (found : (table.update key change).get? other = some value) :
    ∃ earlier, table.get? other = some earlier ∧
      value = if other = key then change earlier else earlier := by
  rw [get?_update] at found
  split at found
  case isTrue same =>
    subst same
    obtain ⟨earlier, present, rfl⟩ := Option.map_eq_some_iff.mp found
    exact ⟨earlier, present, by rw [if_pos rfl]⟩
  case isFalse other => exact ⟨value, found, by rw [if_neg other]⟩

/-- What a table gives after an erasure it gave before, for another key. -/
theorem of_get?_erase
    {table : Table Key Value}
    {key other : Key}
    {value : Value}
    (found : (table.erase key).get? other = some value) :
    other ≠ key ∧ table.get? other = some value := by
  rw [get?_erase] at found
  split at found
  case isTrue => simp at found
  case isFalse differs => exact ⟨differs, found⟩

/-- An entry that is unlike all others leaves entries apart that were apart. -/
theorem eq_of_get?_insert
    {Mark : Type}
    (mark : Value → Mark)
    {table : Table Key Value}
    {key : Key}
    {value : Value}
    (apart : ∀ first second left right, table.get? first = some left →
      table.get? second = some right → mark left = mark right → first = second)
    (unlike : ∀ other entry, table.get? other = some entry →
      mark entry ≠ mark value)
    {first second : Key}
    {left right : Value}
    (found_first : (table.insert key value).get? first = some left)
    (found_second : (table.insert key value).get? second = some right)
    (same : mark left = mark right) : first = second := by
  rw [get?_insert] at found_first found_second
  split at found_first <;> split at found_second
  case isTrue.isTrue first_new second_new =>
    exact first_new.trans second_new.symm
  case isTrue.isFalse =>
    obtain rfl := Option.some.inj found_first
    exact absurd same.symm (unlike second right found_second)
  case isFalse.isTrue =>
    obtain rfl := Option.some.inj found_second
    exact absurd same (unlike first left found_first)
  case isFalse.isFalse =>
    exact apart first second left right found_first found_second same

/-- A key that is not contained gives nothing. -/
theorem contains_eq_false_iff {table : Table Key Value} {key : Key} :
    table.contains key = false ↔ table.get? key = none := by
  unfold contains
  cases table.get? key <;> simp

/-- Give a key a value, or take it out. -/
def assign (table : Table Key Value) (key : Key) :
    Option Value → Table Key Value
  | none => table.erase key
  | some value => table.insert key value

/-- A key gives what it was assigned. -/
@[simp]
theorem get?_assign
    (table : Table Key Value)
    (key other : Key)
    (value : Option Value) :
    (table.assign key value).get? other =
      if other = key then value else table.get? other := by
  cases value with
  | none => exact get?_erase table key other
  | some value => exact get?_insert table key other value

/-! ## Entries -/

/-- A key that gives nothing is put in behind all others. -/
theorem entries_insert_of_absent
    {table : Table Key Value}
    {key : Key}
    (absent : table.get? key = none)
    (value : Value) :
    (table.insert key value).entries = table.entries ++ [(key, value)] := by
  unfold get? at absent
  unfold insert
  generalize table.entries = entries at absent ⊢
  induction entries with
  | nil => rfl
  | cons entry rest hypothesis =>
      obtain ⟨first, old⟩ := entry
      unfold lookup at absent
      split at absent
      case isTrue => simp at absent
      case isFalse differs =>
        simp only [put, if_neg differs, List.cons_append, List.cons.injEq,
          true_and]
        exact hypothesis absent

/-- A value that is put in anew changes nothing. -/
theorem insert_of_present
    {table : Table Key Value}
    {key : Key}
    {value : Value}
    (present : table.get? key = some value) : table.insert key value = table := by
  obtain ⟨entries⟩ := table
  unfold get? at present
  unfold insert
  congr 1
  dsimp only at present ⊢
  induction entries with
  | nil => simp [lookup] at present
  | cons entry rest hypothesis =>
      obtain ⟨first, old⟩ := entry
      unfold lookup at present
      split at present
      case isTrue same =>
        obtain rfl := Option.some.inj present
        simp [put, same]
      case isFalse differs =>
        rw [put, if_neg differs, hypothesis present]

/-- An entry of a table with different keys, and all others. -/
theorem IsProper.perm_erase
    {table : Table Key Value}
    (proper : table.IsProper)
    {key : Key}
    {value : Value}
    (found : table.get? key = some value) :
    table.entries.Perm ((key, value) :: (table.erase key).entries) := by
  unfold IsProper keys at proper
  unfold get? at found
  unfold Table.erase
  generalize table.entries = entries at proper found ⊢
  induction entries with
  | nil => simp [lookup] at found
  | cons entry rest hypothesis =>
      obtain ⟨first, old⟩ := entry
      obtain ⟨absent, proper⟩ := List.nodup_cons.mp proper
      unfold lookup at found
      split at found
      case isTrue same =>
        subst same
        obtain rfl := Option.some.inj found
        have kept : rest.filter (fun entry => entry.1 ≠ key) = rest := by
          rw [List.filter_eq_self]
          intro entry member
          have differs : entry.1 ≠ key := fun same =>
            absent (List.mem_map.mpr ⟨entry, member, same⟩)
          exact decide_eq_true differs
        simp only [ne_eq, not_true_eq_false, decide_false, Bool.false_eq_true,
          not_false_eq_true, List.filter_cons_of_neg]
        simp only [ne_eq] at kept
        rw [kept]
      case isFalse differs =>
        rw [List.filter_cons_of_pos (by simpa using Ne.symm differs)]
        exact ((hypothesis proper found).cons _).trans (List.Perm.swap _ _ _)

/-- The values are what the keys give. -/
theorem IsProper.mem_values_iff
    {table : Table Key Value}
    (proper : table.IsProper)
    {value : Value} :
    value ∈ table.values ↔ ∃ key, table.get? key = some value := by
  unfold values get?
  simp [lookup_eq_some_iff proper]

/-- What a key gives is a value. -/
theorem mem_values_of_get?
    {table : Table Key Value}
    {key : Key}
    {value : Value}
    (found : table.get? key = some value) : value ∈ table.values := by
  unfold get? at found
  unfold values
  generalize table.entries = entries at found ⊢
  induction entries with
  | nil => simp [lookup] at found
  | cons entry rest hypothesis =>
      obtain ⟨first, old⟩ := entry
      unfold lookup at found
      split at found
      case isTrue => simp_all
      case isFalse => exact List.mem_cons_of_mem _ (hypothesis found)

/-- The keys, one of them counted apart. -/
theorem IsProper.countP_keys
    {table : Table Key Value}
    (proper : table.IsProper)
    {key : Key}
    {value : Value}
    (found : table.get? key = some value)
    (condition : Key → Bool) :
    table.keys.countP condition =
      (table.erase key).keys.countP condition +
        if condition key then 1 else 0 := by
  have split := ((proper.perm_erase found).map (·.1)).countP_eq condition
  rw [List.map_cons, List.countP_cons] at split
  exact split

theorem ne_of_mem_keys_erase
    {table : Table Key Value}
    {key other : Key}
    (member : other ∈ (table.erase key).keys) : other ≠ key := by
  obtain ⟨entry, kept, rfl⟩ := List.mem_map.mp member
  exact of_decide_eq_true (List.mem_filter.mp kept).2

theorem keys_insert_of_absent
    {table : Table Key Value}
    {key : Key}
    (absent : table.get? key = none)
    (value : Value) : (table.insert key value).keys = table.keys ++ [key] := by
  unfold keys
  rw [entries_insert_of_absent absent, List.map_append]
  rfl

theorem values_insert_of_absent
    {table : Table Key Value}
    {key : Key}
    (absent : table.get? key = none)
    (value : Value) : (table.insert key value).values = table.values ++ [value] := by
  unfold values
  rw [entries_insert_of_absent absent, List.map_append]
  rfl

/-- The values, one of them taken apart. -/
theorem IsProper.perm_values
    {table : Table Key Value}
    (proper : table.IsProper)
    {key : Key}
    {value : Value}
    (found : table.get? key = some value) :
    table.values.Perm (value :: (table.erase key).values) :=
  (proper.perm_erase found).map Prod.snd

/-! ## Parts of the values -/

section Map

variable {Other : Type} (part : Value → Other)

/-- A table with a part of every value. -/
def map (table : Table Key Value) : Table Key Other :=
  ⟨table.entries.map fun entry => (entry.1, part entry.2)⟩

omit [DecidableEq Key] in
@[simp]
theorem keys_map (table : Table Key Value) :
    (table.map part).keys = table.keys := by
  simp [map, keys, Function.comp_def]

omit [DecidableEq Key] in
@[simp]
theorem isProper_map_iff (table : Table Key Value) :
    (table.map part).IsProper ↔ table.IsProper := by
  unfold IsProper
  rw [keys_map]

@[simp]
theorem get?_map (table : Table Key Value) (key : Key) :
    (table.map part).get? key = (table.get? key).map part := by
  unfold get? map
  generalize table.entries = entries
  induction entries with
  | nil => rfl
  | cons entry rest hypothesis =>
      obtain ⟨first, value⟩ := entry
      rw [List.map_cons, lookup, lookup, hypothesis]
      split
      · rfl
      · rfl

omit [DecidableEq Key] in
@[simp]
theorem values_map (table : Table Key Value) :
    (table.map part).values = table.values.map part := by
  simp [map, values, Function.comp_def]

theorem map_insert (table : Table Key Value) (key : Key) (value : Value) :
    (table.insert key value).map part =
      (table.map part).insert key (part value) := by
  unfold insert map
  congr 1
  generalize table.entries = entries
  dsimp only
  induction entries with
  | nil => rfl
  | cons entry rest hypothesis =>
      obtain ⟨first, old⟩ := entry
      rw [List.map_cons, put, put]
      split
      · rfl
      · rw [List.map_cons, hypothesis]

theorem map_erase (table : Table Key Value) (key : Key) :
    (table.erase key).map part = (table.map part).erase key := by
  simp [erase, map, List.filter_map, Function.comp_def]

/-- A change that shows in the parts. -/
theorem map_update
    (table : Table Key Value)
    (key : Key)
    {change : Value → Value}
    {partChange : Other → Other}
    (shows : ∀ value, part (change value) = partChange (part value)) :
    (table.update key change).map part =
      (table.map part).update key partChange := by
  unfold update
  rw [get?_map]
  cases table.get? key with
  | none => rfl
  | some value => rw [map_insert, shows]; rfl

/-- A change that does not show in the parts. -/
theorem map_update_of_same
    (table : Table Key Value)
    (key : Key)
    {change : Value → Value}
    (same : ∀ value, part (change value) = part value) :
    (table.update key change).map part = table.map part := by
  unfold update
  cases found : table.get? key with
  | none => rfl
  | some value =>
      rw [map_insert, same]
      exact insert_of_present (by rw [get?_map, found]; rfl)

end Map

/-! ## Sizes and repeated changes -/

/-- A key that gives nothing is not there to be taken out. -/
theorem erase_of_absent
    {table : Table Key Value}
    {key : Key}
    (absent : table.get? key = none) : table.erase key = table := by
  unfold get? at absent
  unfold erase
  congr 1
  generalize table.entries = entries at absent ⊢
  induction entries with
  | nil => rfl
  | cons entry rest hypothesis =>
      obtain ⟨first, old⟩ := entry
      unfold lookup at absent
      split at absent
      case isTrue => cases absent
      case isFalse differs =>
        rw [List.filter_cons_of_pos (by simpa using Ne.symm differs),
          hypothesis absent]

/-- What a key was given makes no difference when it is taken out. -/
theorem erase_insert
    (table : Table Key Value)
    (key : Key)
    (value : Value) : (table.insert key value).erase key = table.erase key := by
  unfold erase insert
  congr 1
  dsimp only
  generalize table.entries = entries
  induction entries with
  | nil => simp [put]
  | cons entry rest hypothesis =>
      obtain ⟨first, old⟩ := entry
      by_cases same : key = first
      · subst same
        simp [put]
      · rw [put, if_neg same, List.filter_cons_of_pos, List.filter_cons_of_pos,
          hypothesis] <;> simpa using Ne.symm same

theorem erase_update
    (table : Table Key Value)
    (key : Key)
    (change : Value → Value) :
    (table.update key change).erase key = table.erase key := by
  unfold update
  cases table.get? key with
  | none => rfl
  | some value => exact erase_insert table key (change value)

/-- Two changes of a key are one. -/
theorem update_update
    (table : Table Key Value)
    (key : Key)
    (first second : Value → Value) :
    (table.update key first).update key second =
      table.update key (second ∘ first) := by
  have twice : ∀ (entries : List (Key × Value)) (left right : Value),
      put key right (put key left entries) = put key right entries := by
    intro entries left right
    induction entries with
    | nil => simp [put]
    | cons entry rest hypothesis =>
        obtain ⟨other, old⟩ := entry
        by_cases same : key = other
        · simp [put, same]
        · simp [put, same, hypothesis]
  cases found : table.get? key with
  | none => simp [update, found]
  | some value =>
      simp only [update, found, get?_insert, if_true]
      exact congrArg Table.mk (twice _ _ _)

/-- A change that does nothing to the value of its key. -/
theorem update_eq_self
    {table : Table Key Value}
    {key : Key}
    {value : Value}
    {change : Value → Value}
    (found : table.get? key = some value)
    (same : change value = value) : table.update key change = table := by
  simp only [update, found, same]
  exact insert_of_present found

/-- A change is undone by giving the key what it had. -/
theorem insert_update_of_present
    {table : Table Key Value}
    {key : Key}
    {value : Value}
    (found : table.get? key = some value)
    (change : Value → Value) :
    (table.update key change).insert key value = table := by
  have changed : (table.update key change).get? key = some (change value) := by
    rw [get?_update, if_pos rfl, found, Option.map_some]
  have twice : (table.update key change).insert key value =
      (table.update key change).update key fun _ => value := by
    conv_rhs => rw [update]
    rw [changed]
  rw [twice, update_update]
  exact update_eq_self found rfl

theorem size_update
    (table : Table Key Value)
    (key : Key)
    (change : Value → Value) : (table.update key change).size = table.size := by
  have same : (table.update key change).map (fun _ => ()) =
      table.map fun _ => () := map_update_of_same _ table key fun _ => rfl
  simpa [size, map] using congrArg size same

theorem size_insert_of_absent
    {table : Table Key Value}
    {key : Key}
    (absent : table.get? key = none)
    (value : Value) : (table.insert key value).size = table.size + 1 := by
  rw [size, entries_insert_of_absent absent, List.length_append]
  rfl

theorem IsProper.size_erase
    {table : Table Key Value}
    (proper : table.IsProper)
    {key : Key}
    {value : Value}
    (found : table.get? key = some value) :
    (table.erase key).size + 1 = table.size :=
  (proper.perm_erase found).length_eq.symm

end Table
end VirtualAdapter
