import Bracket.Registry
import Mathlib.Data.List.Induction
import Mathlib.Data.List.Nodup
import Mathlib.Logic.Function.Basic

/-!
Registries over any history of changes. Seen from outside, a registry is two finite maps, the local
one in front of the defaults; its own three views of them are the entry of a name, the list of all
entries, and the answers that the changes give. Main statement: the views agree after any changes,
and the local entries stand in the order in which their names came in, where a name that was removed
comes in anew.
-/

namespace Bracket

namespace Table

variable {α : Type}

/-! ### Tables whose keys are distinct -/

theorem keys_append (t u : Table α) : keys (t ++ u) = keys t ++ keys u := List.map_append

theorem mem_keys {t : Table α} {key : String} {value : α} (member : (key, value) ∈ t) :
    key ∈ t.keys :=
  List.mem_map_of_mem member

/-- Where no key comes twice, the entry of a key is the only one that it has. -/
theorem get?_eq_some_iff {t : Table α} (distinct : t.keys.Nodup) {key : String} {value : α} :
    t.get? key = some value ↔ (key, value) ∈ t := by
  induction t with
  | nil => simp [get?]
  | cons entry rest ih =>
    obtain ⟨k, v⟩ := entry
    obtain ⟨new, distinct⟩ := List.nodup_cons.mp distinct
    by_cases same : k = key
    · subst same
      have absent : (k, value) ∉ rest := fun member => new (mem_keys member)
      simp [get?, absent, eq_comm]
    · simp [get?, same, Ne.symm same, ih distinct]

theorem keys_erase_sublist (t : Table α) (key : String) : (t.erase key).keys.Sublist t.keys := by
  induction t with
  | nil => exact .slnil
  | cons entry rest ih =>
    obtain ⟨k, v⟩ := entry
    by_cases same : k = key
    · simp [erase, same]
    · simpa [erase, same] using ih

theorem get?_erase_of_ne (t : Table α) {key other : String} (ne : key ≠ other) :
    (t.erase key).get? other = t.get? other := by
  induction t with
  | nil => rfl
  | cons entry rest ih =>
    obtain ⟨k, v⟩ := entry
    by_cases same : k = key
    · subst same
      simp [erase, get?, ne]
    · simp [erase, get?, same, ih]

theorem get?_erase_self {t : Table α} (distinct : t.keys.Nodup) (key : String) :
    (t.erase key).get? key = none := by
  induction t with
  | nil => rfl
  | cons entry rest ih =>
    obtain ⟨k, v⟩ := entry
    obtain ⟨new, distinct⟩ := List.nodup_cons.mp distinct
    by_cases same : k = key
    · subst same
      rw [erase, if_pos rfl, get?_eq_none_iff]
      exact new
    · simp [erase, get?, same, ih distinct]

theorem nodup_keys_insert {t : Table α} (distinct : t.keys.Nodup) (key : String) (value : α) :
    (t.insert key value).keys.Nodup := by
  rw [keys_insert]
  split
  · exact distinct
  · next new => exact List.nodup_append.mpr ⟨distinct, List.nodup_singleton key, by grind⟩

/-- Entries whose keys are new come behind those that are there. -/
theorem insertAll_of_nodup (t : Table α) {entries : List (String × α)}
    (distinct : (keys (t ++ entries)).Nodup) : t.insertAll entries = t ++ entries := by
  induction entries generalizing t with
  | nil => simp [insertAll]
  | cons entry rest ih =>
    obtain ⟨key, value⟩ := entry
    have behind : t.insert key value = t ++ [(key, value)] := by
      rw [keys_append, List.nodup_append] at distinct
      have new : key ∉ t.keys := fun member => distinct.2.2 key member key List.mem_cons_self rfl
      clear ih distinct
      induction t with
      | nil => rfl
      | cons first t ih =>
        obtain ⟨k, v⟩ := first
        simp only [keys_cons, List.mem_cons, not_or] at new
        rw [insert, if_neg (Ne.symm new.1), ih new.2, List.cons_append]
    show (t.insert key value).insertAll rest = _
    rw [behind, ih _ (by simpa using distinct)]
    simp

end Table

namespace Registry

variable {α : Type}

/-! ### Histories -/

/-- A change of the local entries. -/
inductive Change (α : Type) where
  | insert (name : String) (entry : α)
  | remove (name : String)

/-- A registry after a change. -/
def change (r : Registry α) : Change α → Registry α
  | .insert name entry => (r.insert name entry).2
  | .remove name => (r.remove name).2

/-- The registry over defaults after changes. -/
def after (defaults : List (String × α)) (history : List (Change α)) : Registry α :=
  history.foldl change ⟨defaults, []⟩

/-- What a change makes of a finite map. -/
def Change.on (entries : String → Option α) : Change α → String → Option α
  | .insert name entry => Function.update entries name (some entry)
  | .remove name => Function.update entries name none

/-- The finite map of local entries that a history makes. -/
def locals (history : List (Change α)) : String → Option α :=
  history.foldl Change.on fun _ => none

/-- The name came in with the change at a position: it was inserted there and not removed since,
and before that it was not there, for it was removed behind every earlier insertion. -/
structure Entered (history : List (Change α)) (name : String) (position : Nat) : Prop where
  inserted : ∃ entry, history[position]? = some (.insert name entry)
  kept : ∀ later, position < later → history[later]? ≠ some (.remove name)
  anew : ∀ earlier entry, earlier < position → history[earlier]? = some (.insert name entry) →
    ∃ between, earlier < between ∧ between < position ∧ history[between]? = some (.remove name)

/-- A registry shows what a history made of its defaults: two finite maps, the local one first. -/
structure Shows (defaults : List (String × α)) (history : List (Change α)) (r : Registry α) :
    Prop where
  /-- The entry of a name is the local one, or else the default. -/
  get : ∀ name, r.get? name = (locals history name).or (Table.get? defaults name)
  /-- The list has no name twice. -/
  once : (r.toList.map Prod.fst).Nodup
  /-- The list has the entries of all names that have one. -/
  lists : ∀ name entry, (name, entry) ∈ r.toList ↔ r.get? name = some entry
  /-- The local entries come first, in the order in which their names came in, and behind them the
  defaults that they do not shadow, in the order of the defaults. -/
  order : ∃ own, r.toList = own ++ defaults.filter (fun entry => (locals history entry.1).isNone) ∧
    (∀ name entry, (name, entry) ∈ own ↔ locals history name = some entry) ∧
    own.Pairwise fun first second => ∃ i j, Entered history first.1 i ∧
      Entered history second.1 j ∧ i < j
  /-- Inserting an entry answers with the local entry that it replaces. -/
  replaced : ∀ name entry, (r.insert name entry).1 = locals history name
  /-- Removing an entry answers with the local entry that it removes. -/
  removed : ∀ name, (r.remove name).1 = locals history name
  /-- Removing an entry uncovers the default. -/
  uncovered : ∀ name, (r.remove name).2.get? name = Table.get? defaults name

/-! ### One change -/

variable {history : List (Change α)} {name : String} {position : Nat}

theorem after_snoc (defaults : List (String × α)) (history : List (Change α)) (c : Change α) :
    after defaults (history ++ [c]) = (after defaults history).change c := by
  simp [after]

theorem locals_snoc (history : List (Change α)) (c : Change α) :
    locals (history ++ [c]) = c.on (locals history) := by
  simp [locals]

theorem Entered.lt_length (entered : Entered history name position) :
    position < history.length := by
  obtain ⟨entry, found⟩ := entered.inserted
  exact (List.getElem?_eq_some_iff.mp found).1

/-- A name that is there stays where it came in until it is removed. -/
theorem Entered.snoc (entered : Entered history name position) {c : Change α}
    (stays : c ≠ .remove name) : Entered (history ++ [c]) name position := by
  have low := entered.lt_length
  refine ⟨?_, ?_, ?_⟩
  · obtain ⟨entry, found⟩ := entered.inserted
    exact ⟨entry, by rw [List.getElem?_append_left low, found]⟩
  · intro later behind found
    rw [List.getElem?_append] at found
    split at found
    · exact entered.kept later behind found
    · have last := List.mem_of_getElem? found
      exact stays (List.mem_singleton.mp last).symm
  · intro earlier entry before found
    rw [List.getElem?_append_left (by omega)] at found
    obtain ⟨between, first, second, removed⟩ := entered.anew earlier entry before found
    exact ⟨between, first, second, by rw [List.getElem?_append_left (by omega), removed]⟩

/-- A name that is not there was removed behind every insertion. -/
theorem removed_of_locals (absent : locals history name = none) {earlier : Nat} {entry : α}
    (found : history[earlier]? = some (.insert name entry)) :
    ∃ between, earlier < between ∧ between < history.length ∧
      history[between]? = some (.remove name) := by
  induction history using List.reverseRecOn with
  | nil => simp at found
  | append_singleton history c ih =>
    have before (other : c ≠ .insert name entry) : earlier < history.length := by
      by_contra beyond
      rw [List.getElem?_append_right (by omega)] at found
      exact other (List.mem_singleton.mp (List.mem_of_getElem? found)).symm
    have longer (absent : locals history name = none) (other : c ≠ .insert name entry) :
        ∃ between, earlier < between ∧ between < (history ++ [c]).length ∧
          (history ++ [c])[between]? = some (.remove name) := by
      rw [List.getElem?_append_left (before other)] at found
      obtain ⟨between, first, second, removed⟩ := ih absent found
      refine ⟨between, first, by simp; omega, ?_⟩
      rw [List.getElem?_append_left second, removed]
    rw [locals_snoc] at absent
    cases c with
    | insert key value =>
      by_cases same : name = key
      · subst same
        simp [Change.on] at absent
      · refine longer (by simpa [Change.on, same] using absent) ?_
        rintro ⟨⟩
        exact same rfl
    | remove key =>
      by_cases same : name = key
      · subst same
        exact ⟨history.length, before nofun, by simp, by simp⟩
      · exact longer (by simpa [Change.on, same] using absent) nofun

/-- A name that is not there comes in with the change that inserts it. -/
theorem entered_of_insert (absent : locals history name = none) (entry : α) :
    Entered (history ++ [.insert name entry]) name history.length := by
  refine ⟨⟨entry, by simp⟩, ?_, ?_⟩
  · intro later behind
    rw [List.getElem?_append_right (by omega), List.getElem?_eq_none (by simp; omega)]
    exact nofun
  · intro earlier value before found
    rw [List.getElem?_append_left before] at found
    obtain ⟨between, first, second, removed⟩ := removed_of_locals absent found
    exact ⟨between, first, second, by rw [List.getElem?_append_left second, removed]⟩

/-! ### Any changes -/

/-- The local entries are those of the finite map, in the order in which they came in. -/
structure Tracks (history : List (Change α)) (entries : Table α) : Prop where
  distinct : entries.keys.Nodup
  get : ∀ name, entries.get? name = locals history name
  order : entries.keys.Pairwise fun first second =>
    ∃ i j, Entered history first i ∧ Entered history second j ∧ i < j
  entered : ∀ name ∈ entries.keys, ∃ i, Entered history name i

theorem Tracks.insert {entries : Table α} (tracks : Tracks history entries) (name : String)
    (entry : α) : Tracks (history ++ [.insert name entry]) (entries.insert name entry) where
  distinct := Table.nodup_keys_insert tracks.distinct name entry
  get other := by
    rw [locals_snoc]
    by_cases same : name = other
    · subst same
      simp [Change.on]
    · rw [Table.get?_insert_of_ne _ _ same, tracks.get]
      simp [Change.on, Ne.symm same]
  order := by
    have before : entries.keys.Pairwise fun first second =>
        ∃ i j, Entered (history ++ [.insert name entry]) first i ∧
          Entered (history ++ [.insert name entry]) second j ∧ i < j := by
      refine tracks.order.imp ?_
      rintro first second ⟨i, j, entered, entered', less⟩
      exact ⟨i, j, entered.snoc nofun, entered'.snoc nofun, less⟩
    rw [Table.keys_insert]
    split
    · exact before
    · next new =>
      have absent : locals history name = none := by
        rw [← tracks.get, Table.get?_eq_none_iff]
        exact new
      refine List.pairwise_append.mpr ⟨before, List.pairwise_singleton _ _, ?_⟩
      intro first member second last
      obtain rfl := List.mem_singleton.mp last
      obtain ⟨i, entered⟩ := tracks.entered first member
      exact ⟨i, _, entered.snoc nofun, entered_of_insert absent entry, entered.lt_length⟩
  entered other member := by
    have before (old : other ∈ entries.keys) :
        ∃ i, Entered (history ++ [.insert name entry]) other i := by
      obtain ⟨i, entered⟩ := tracks.entered other old
      exact ⟨i, entered.snoc nofun⟩
    rw [Table.keys_insert] at member
    split at member
    · exact before member
    · next new =>
      have absent : locals history name = none := by
        rw [← tracks.get, Table.get?_eq_none_iff]
        exact new
      rcases List.mem_append.mp member with old | last
      · exact before old
      · obtain rfl := List.mem_singleton.mp last
        exact ⟨_, entered_of_insert absent entry⟩

theorem Tracks.remove {entries : Table α} (tracks : Tracks history entries) (name : String) :
    Tracks (history ++ [.remove name]) (entries.erase name) := by
  have fewer := entries.keys_erase_sublist name
  have gone : name ∉ (entries.erase name).keys := by
    rw [← Table.get?_eq_none_iff]
    exact Table.get?_erase_self tracks.distinct name
  have stays {other : String} (member : other ∈ (entries.erase name).keys) :
      (Change.remove name : Change α) ≠ .remove other := by
    rintro ⟨⟩
    exact gone member
  refine ⟨tracks.distinct.sublist fewer, ?_, ?_, ?_⟩
  · intro other
    rw [locals_snoc]
    by_cases same : name = other
    · subst same
      rw [Table.get?_erase_self tracks.distinct]
      simp [Change.on]
    · rw [Table.get?_erase_of_ne _ same, tracks.get]
      simp [Change.on, Ne.symm same]
  · refine (tracks.order.sublist fewer).imp_of_mem ?_
    rintro first second member member' ⟨i, j, entered, entered', less⟩
    exact ⟨i, j, entered.snoc (stays member), entered'.snoc (stays member'), less⟩
  · intro other member
    obtain ⟨i, entered⟩ := tracks.entered other (fewer.subset member)
    exact ⟨i, entered.snoc (stays member)⟩

theorem after_defaults (defaults : List (String × α)) (history : List (Change α)) :
    (after defaults history).defaults = defaults := by
  induction history using List.reverseRecOn with
  | nil => rfl
  | append_singleton history c ih =>
    rw [after_snoc]
    cases c <;> exact ih

/-- After any changes the local entries are those of the finite map that the changes make. -/
theorem after_tracks (defaults : List (String × α)) (history : List (Change α)) :
    Tracks history (after defaults history).entries := by
  induction history using List.reverseRecOn with
  | nil => exact ⟨.nil, fun _ => rfl, .nil, fun _ member => absurd member List.not_mem_nil⟩
  | append_singleton history c ih =>
    rw [after_snoc]
    cases c with
    | insert name entry => exact ih.insert name entry
    | remove name => exact ih.remove name

/-! ### The views agree -/

theorem nodup_toList {r : Registry α} (own : r.entries.keys.Nodup)
    (distinct : (Table.keys r.defaults).Nodup) : (Table.keys r.toList).Nodup := by
  rw [toList, Table.keys_append, List.nodup_append]
  refine ⟨own, (distinct.sublist ((List.filter_sublist).map _)), ?_⟩
  rintro name member _ member' rfl
  obtain ⟨entry, unshadowed, rfl⟩ := List.mem_map.mp member'
  have absent : r.entries.get? entry.1 = none := by
    simpa [Table.contains] using (List.mem_filter.mp unshadowed).2
  exact (Table.get?_eq_none_iff _ _).mp absent member

theorem mem_toList_iff {r : Registry α} (own : r.entries.keys.Nodup)
    (distinct : (Table.keys r.defaults).Nodup) (name : String) (entry : α) :
    (name, entry) ∈ r.toList ↔ r.get? name = some entry := by
  rw [toList, List.mem_append, List.mem_filter, ← Table.get?_eq_some_iff own,
    ← Table.get?_eq_some_iff distinct, get?]
  cases found : r.entries.get? name with
  | none => simp [Table.contains, found]
  | some local' => simp [Table.contains, found]

/-- After any changes a registry shows what they made of its defaults. -/
theorem after_shows {defaults : List (String × α)} (distinct : (Table.keys defaults).Nodup)
    (history : List (Change α)) : Shows defaults history (after defaults history) := by
  have tracks := after_tracks defaults history
  have kept := after_defaults defaults history
  generalize after defaults history = r at tracks kept
  subst kept
  have get (name : String) :
      r.get? name = (locals history name).or (Table.get? r.defaults name) := by
    rw [get?, tracks.get]
    cases locals history name <;> rfl
  refine
    { get
      once := nodup_toList tracks.distinct distinct
      lists := mem_toList_iff tracks.distinct distinct
      order := ⟨r.entries, ?_, ?_, ?_⟩
      replaced := fun name _ => tracks.get name
      removed := tracks.get
      uncovered := ?_ }
  · rw [toList]
    refine congrArg _ (List.filter_congr fun entry _ => ?_)
    rw [Table.contains, tracks.get]
    cases locals history entry.1 <;> rfl
  · intro name entry
    rw [← Table.get?_eq_some_iff tracks.distinct, tracks.get]
  · exact List.pairwise_map.mp tracks.order
  · intro name
    rw [remove, get?, Table.get?_erase_self tracks.distinct]

end Registry

end Bracket
