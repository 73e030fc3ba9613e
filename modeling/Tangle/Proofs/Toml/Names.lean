import Tangle.Toml.Reader
import Tangle.Proofs.Tree.FlatStore

namespace Tangle.Toml

/-!
# No setting is named twice

A setting is only added to a table in which its name is new, and whatever stands under
a name keeps this name.  So in all tables of settings that can be read, the names are
apart from each other.
-/

/-- In all tables of a value the names are apart. -/
inductive Value.NamesApart : Value → Prop where
  | text (text : String) : NamesApart (.text text)
  | date (text : String) : NamesApart (.date text)
  | list {items : List Value} (each : ∀ item ∈ items, NamesApart item) : NamesApart (.list items)
  | table {origin : Origin} {entries : List (String × Value)}
      (distinct : (entries.map Prod.fst).Nodup) (each : ∀ entry ∈ entries, NamesApart entry.2) :
      NamesApart (.table origin entries)

namespace Entries

/-- The names of settings are apart, and so are those in their values. -/
structure NamesApart (entries : Entries) : Prop where
  distinct : (entries.map Prod.fst).Nodup
  each : ∀ entry ∈ entries, entry.2.NamesApart

/-- The names in a table are apart as those of its entries are. -/
theorem namesApart_table_iff {origin : Origin} {entries : Entries} :
    (Value.table origin entries).NamesApart ↔ NamesApart entries := by
  constructor
  · intro apart
    cases apart with
    | table distinct each => exact ⟨distinct, each⟩
  · rintro ⟨distinct, each⟩
    exact .table distinct each

/-! ## Adding settings -/

/-- Another value for a name leaves the names as they are. -/
theorem map_fst_replace (name : String) (value : Value) (entries : Entries) :
    (replace name value entries).map Prod.fst = entries.map Prod.fst := by
  induction entries with
  | nil =>
      rfl
  | cons entry rest inductionHypothesis =>
      rw [replace]
      split
      · rfl
      · rw [List.map_cons, List.map_cons, inductionHypothesis]

/-- Where a value takes the place of others, an entry was there before or has this value. -/
theorem mem_replace
    {name : String} {value : Value} {entries : Entries} {entry : String × Value}
    (member : entry ∈ replace name value entries) : entry ∈ entries ∨ entry.2 = value := by
  induction entries with
  | nil =>
      contradiction
  | cons first rest inductionHypothesis =>
      rw [replace] at member
      split at member
      · rcases List.mem_cons.mp member with rfl | later
        · exact .inr rfl
        · exact .inl (List.mem_cons_of_mem _ later)
      · rcases List.mem_cons.mp member with rfl | later
        · exact .inl List.mem_cons_self
        · exact (inductionHypothesis later).imp_left (List.mem_cons_of_mem _)

namespace NamesApart

variable {entries : Entries}

/-- No entries have no names to keep apart. -/
theorem nil : NamesApart [] :=
  ⟨.nil, by simp⟩

/-- Another value whose names are apart may take the place of one. -/
theorem replace
    (apart : NamesApart entries) (name : String) {value : Value} (valueApart : value.NamesApart) :
    NamesApart (replace name value entries) where
  distinct := by
    rw [map_fst_replace]
    exact apart.distinct
  each entry member := by
    rcases mem_replace member with isOld | isNew
    · exact apart.each entry isOld
    · rw [isNew]
      exact valueApart

/-- An entry whose name is new may come behind the others. -/
theorem concat
    (apart : NamesApart entries) {name : String} (isNew : List.lookup name entries = none)
    {value : Value} (valueApart : value.NamesApart) :
    NamesApart (entries ++ [(name, value)]) where
  distinct := by
    rw [List.map_append, List.map_singleton, (List.perm_append_singleton _ _).nodup_iff]
    exact List.nodup_cons.mpr ⟨lookup_eq_none_iff.mp isNew, apart.distinct⟩
  each := by
    rw [List.forall_mem_append, List.forall_mem_singleton]
    exact ⟨apart.each, valueApart⟩

/-- The names are apart in every value that is found among such entries. -/
theorem of_lookup
    (apart : NamesApart entries) {name : String} {value : Value}
    (found : List.lookup name entries = some value) : value.NamesApart :=
  apart.each _ ((lookup_eq_some_iff_of_nodup apart.distinct).mp found)

/-- The names in a table that stands under a name are apart. -/
theorem inside
    (apart : NamesApart entries) {name : String} {origin : Origin} {inside : Entries}
    (found : List.lookup name entries = some (.table origin inside)) : NamesApart inside :=
  namesApart_table_iff.mp (apart.of_lookup found)

end NamesApart

section Adding

variable {entries result : Entries}

/-- Setting a value under a path keeps names apart. -/
theorem namesApart_assign
    {value : Value} (valueApart : value.NamesApart) {path : List String}
    (assigned : assign value path entries = some result) (apart : NamesApart entries) :
    NamesApart result := by
  fun_induction assign value path entries generalizing result with
  | case1 => contradiction
  | case2 name entries isNew =>
      cases assigned
      exact apart.concat isNew valueApart
  | case3 => contradiction
  | case4 name next deeper entries isNew inductionHypothesis =>
      obtain ⟨inside, assignedInside, rfl⟩ := Option.map_eq_some_iff.mp assigned
      have insideApart := inductionHypothesis assignedInside .nil
      exact apart.concat isNew (namesApart_table_iff.mpr insideApart)
  | case5 name next deeper entries before found inductionHypothesis =>
      obtain ⟨inside, assignedInside, rfl⟩ := Option.map_eq_some_iff.mp assigned
      have insideApart := inductionHypothesis assignedInside (apart.inside found)
      exact apart.replace name (namesApart_table_iff.mpr insideApart)
  | case6 name next deeper entries before found inductionHypothesis =>
      obtain ⟨inside, assignedInside, rfl⟩ := Option.map_eq_some_iff.mp assigned
      have insideApart := inductionHypothesis assignedInside (apart.inside found)
      exact apart.replace name (namesApart_table_iff.mpr insideApart)
  | case7 => contradiction

/-- So does opening a table by its header. -/
theorem namesApart_openTable
    {path : List String} (opened : openTable path entries = some result)
    (apart : NamesApart entries) : NamesApart result := by
  fun_induction openTable path entries generalizing result with
  | case1 => contradiction
  | case2 name entries isNew =>
      cases opened
      exact apart.concat isNew (namesApart_table_iff.mpr .nil)
  | case3 name entries inside found =>
      cases opened
      exact apart.replace name (namesApart_table_iff.mpr (apart.inside found))
  | case4 => contradiction
  | case5 name next deeper entries isNew inductionHypothesis =>
      obtain ⟨inside, openedInside, rfl⟩ := Option.map_eq_some_iff.mp opened
      have insideApart := inductionHypothesis openedInside .nil
      exact apart.concat isNew (namesApart_table_iff.mpr insideApart)
  | case6 => contradiction
  | case7 name next deeper entries origin before _ found inductionHypothesis =>
      obtain ⟨inside, openedInside, rfl⟩ := Option.map_eq_some_iff.mp opened
      have insideApart := inductionHypothesis openedInside (apart.inside found)
      exact apart.replace name (namesApart_table_iff.mpr insideApart)
  | case8 => contradiction

/-- So does setting a value in the table that is open. -/
theorem namesApart_assignUnder
    {value : Value} (valueApart : value.NamesApart) {path table : List String}
    (assigned : assignUnder value path table entries = some result)
    (apart : NamesApart entries) : NamesApart result := by
  fun_induction assignUnder value path table entries generalizing result with
  | case1 entries => exact namesApart_assign valueApart assigned apart
  | case2 name deeper entries origin before found inductionHypothesis =>
      obtain ⟨inside, assignedInside, rfl⟩ := Option.map_eq_some_iff.mp assigned
      have insideApart := inductionHypothesis assignedInside (apart.inside found)
      exact apart.replace name (namesApart_table_iff.mpr insideApart)
  | case3 => contradiction

end Adding

end Entries

/-! ## Reading settings -/

/-- With some fuel, nothing is read in which a name stands twice. -/
structure ReadsApart (fuel : Nat) : Prop where
  value : ∀ {text behind value}, value? fuel text = some (value, behind) → value.NamesApart
  items : ∀ {text behind items}, listItems? fuel text = some (items, behind) →
    ∀ item ∈ items, item.NamesApart
  entries : ∀ {before text behind entries}, Entries.NamesApart before →
    tableEntries? fuel before text = some (entries, behind) → Entries.NamesApart entries
  setting : ∀ {text behind path value}, setting? fuel text = some (path, value, behind) →
    value.NamesApart

section Steps

variable {fuel : Nat} (smaller : ReadsApart fuel) {text behind : List Char}

include smaller

/-- A value is a list, a table or plain, and with one step of fuel more its names are apart. -/
theorem ReadsApart.value_succ
    {value : Value} (read : value? (fuel + 1) text = some (value, behind)) : value.NamesApart := by
  unfold value? at read
  split at read
  · contradiction
  · rename_i same
    cases same
    obtain ⟨⟨items, _⟩, itemsRead, same⟩ := Option.map_eq_some_iff.mp read
    cases same
    exact .list (smaller.items itemsRead)
  · rename_i same
    cases same
    split at read
    · cases read
      exact Entries.namesApart_table_iff.mpr .nil
    · obtain ⟨⟨entries, _⟩, entriesRead, same⟩ := Option.map_eq_some_iff.mp read
      cases same
      exact Entries.namesApart_table_iff.mpr (smaller.entries .nil entriesRead)
  · rw [plainValue?] at read
    split at read
    · cases read
      exact .text _
    · obtain ⟨⟨kept, _⟩, _, same⟩ := Option.map_eq_some_iff.mp read
      cases same
      exact .date _

/-- The names are apart in every item of a list, the one in front and those behind. -/
theorem ReadsApart.items_succ
    {items : List Value} (read : listItems? (fuel + 1) text = some (items, behind)) :
    ∀ item ∈ items, item.NamesApart := by
  unfold listItems? at read
  split at read
  · contradiction
  · cases read
    simp
  · split at read
    · contradiction
    · rename_i item behindItem itemRead
      have itemApart := smaller.value itemRead
      split at read
      · obtain ⟨⟨later, _⟩, laterRead, same⟩ := Option.map_eq_some_iff.mp read
        cases same
        exact List.forall_mem_cons.mpr ⟨itemApart, smaller.items laterRead⟩
      · cases read
        exact List.forall_mem_singleton.mpr itemApart
      · contradiction

/-- Each entry of a table in braces is set among those before it. -/
theorem ReadsApart.entries_succ
    {before entries : Entries} (apart : before.NamesApart)
    (read : tableEntries? (fuel + 1) before text = some (entries, behind)) :
    entries.NamesApart := by
  unfold tableEntries? at read
  split at read
  · contradiction
  · rename_i path value behindValue settingRead
    split at read
    · contradiction
    · rename_i assigned isAssigned
      have assignedApart :=
        Entries.namesApart_assign (smaller.setting settingRead) isAssigned apart
      split at read
      · exact smaller.entries assignedApart read
      · cases read
        exact assignedApart
      · contradiction

/-- The value behind a name is read with the names in it apart. -/
theorem ReadsApart.setting_succ
    {path : List String} {value : Value}
    (read : setting? (fuel + 1) text = some (path, value, behind)) : value.NamesApart := by
  unfold setting? at read
  split at read
  · obtain ⟨⟨value, _⟩, valueRead, same⟩ := Option.map_eq_some_iff.mp read
    cases same
    exact smaller.value valueRead
  · contradiction

end Steps

/-- Whatever the fuel, the names in what is read are apart. -/
theorem readsApart (fuel : Nat) : ReadsApart fuel := by
  induction fuel with
  | zero =>
      constructor <;> intros <;> contradiction
  | succ fuel inductionHypothesis =>
      exact
        { value := inductionHypothesis.value_succ
          items := inductionHypothesis.items_succ
          entries := inductionHypothesis.entries_succ
          setting := inductionHypothesis.setting_succ }

/-- Line by line, headers and settings keep the names apart. -/
theorem namesApart_lines?
    {fuel : Nat} {table : List String} {before entries : Entries} {text : List Char}
    (apart : before.NamesApart) (read : lines? fuel table before text = some entries) :
    entries.NamesApart := by
  induction fuel generalizing table before text with
  | zero =>
      unfold lines? at read
      split at read
      · cases read
        exact apart
      · contradiction
  | succ fuel inductionHypothesis =>
      unfold lines? at read
      split at read
      · contradiction
      · cases read
        exact apart
      · split at read
        · contradiction
        · split at read
          · contradiction
          · rename_i opened
            exact inductionHypothesis (Entries.namesApart_openTable opened apart) read
      · split at read
        · contradiction
        · rename_i settingRead
          split at read
          · rename_i assigned _
            have valueApart := (readsApart _).setting settingRead
            exact inductionHypothesis
              (Entries.namesApart_assignUnder valueApart assigned apart) read
          · contradiction

/-- However settings are written, no table among them names one twice. -/
theorem namesApart_read? {text : List Char} {entries : Entries} (read : read? text = some entries) :
    entries.NamesApart :=
  namesApart_lines? .nil read

/-- A field that is given is read from the value under its name. -/
theorem Entries.exists_of_optional?
    {Result : Type} {read : Value → Option Result} {name : String} {entries : Entries}
    {result : Result} (isRead : entries.optional? read name = some (some result)) :
    ∃ value, List.lookup name entries = some value ∧ read value = some result := by
  rw [optional?] at isRead
  split at isRead
  · cases isRead
  · rename_i value found
    obtain ⟨_, valueRead, same⟩ := Option.map_eq_some_iff.mp isRead
    cases same
    exact ⟨value, found, valueRead⟩

/-- A table read as texts keeps its names in their order. -/
theorem Value.map_fst_of_textTable?
    {origin : Origin} {entries : List (String × Value)} {texts : List (String × String)}
    (isTable : (Value.table origin entries).textTable? = some texts) :
    texts.map Prod.fst = entries.map Prod.fst := by
  rw [textTable?] at isTable
  induction entries generalizing texts with
  | nil =>
      cases isTable
      rfl
  | cons entry rest inductionHypothesis =>
      rw [List.mapM_cons] at isTable
      obtain ⟨first, isFirst, isRest⟩ := Option.bind_eq_some_iff.mp isTable
      obtain ⟨later, areLater, same⟩ := Option.bind_eq_some_iff.mp isRest
      obtain ⟨text, _, rfl⟩ := Option.map_eq_some_iff.mp isFirst
      cases same
      rw [List.map_cons, List.map_cons, inductionHypothesis areLater]

/-- Texts that stand under names in a table have these names, and so they are apart. -/
theorem Value.NamesApart.nodup_textTable?
    {value : Value} (apart : value.NamesApart) {texts : List (String × String)}
    (isTable : value.textTable? = some texts) : (texts.map Prod.fst).Nodup := by
  cases apart with
  | table distinct _ =>
      rw [map_fst_of_textTable? isTable]
      exact distinct
  | date known =>
      cases isTable
      exact List.pairwise_singleton _ _
  | _ => contradiction

end Tangle.Toml
