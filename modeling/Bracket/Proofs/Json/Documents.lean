import Bracket.Proofs.Json.Scalars
import Bracket.Proofs.Registry

/-!
Reading back JSON documents. Arrays and objects are read item by item with one level of nesting
less, so that a document is read back from its text if it is not nested too deeply, and is refused
otherwise; nothing else can go wrong.
Main statement: this holds of all documents of integers of 64 bits whose objects have no key twice.
-/

namespace Bracket.Json

open Digits (isDigit_of_mem_ofNat)

open Lexeme (Ends ends_nil ends_cons isNumeric)

mutual

/-- How deeply arrays and objects are nested. -/
def nesting : Json → Nat
  | .array items => itemsNesting items + 1
  | .object members => membersNesting members + 1
  | _ => 0

def itemsNesting : List Json → Nat
  | [] => 0
  | item :: rest => max (nesting item) (itemsNesting rest)

def membersNesting : List (String × Json) → Nat
  | [] => 0
  | (_, item) :: rest => max (nesting item) (membersNesting rest)

end

mutual

/-- All numbers are integers of 64 bits, and no object has a key twice. -/
def Whole : Json → Prop
  | .integer n => IsWord n
  | .float _ => False
  | .array items => ItemsWhole items
  | .object members => (Table.keys members).Nodup ∧ MembersWhole members
  | _ => True

def ItemsWhole : List Json → Prop
  | [] => True
  | item :: rest => Whole item ∧ ItemsWhole rest

def MembersWhole : List (String × Json) → Prop
  | [] => True
  | (_, item) :: rest => Whole item ∧ MembersWhole rest

end

/-! ### Outcomes -/

/-- What is read is given back with the rest of the text if it fits, and refused for its nesting
otherwise. -/
def Settles {α : Type} (fits : Prop) (a : α) (rest : List Char)
    (result : Except Failure (α × List Char)) : Prop :=
  (fits → result = .ok (a, rest)) ∧
    (¬ fits → ∃ left, result = .error ⟨.recursionLimitExceeded, left⟩)

section Settles

variable {α β : Type} {fits fits' : Prop} {a : α} {rest : List Char}
  {result : Except Failure (α × List Char)}

theorem settles_of_ok (read : result = .ok (a, rest)) (fit : fits) : Settles fits a rest result :=
  ⟨fun _ => read, fun unfit => absurd fit unfit⟩

theorem Settles.map (f : α → β) (settles : Settles fits a rest result) :
    Settles fits (f a) rest (result.map fun found => (f found.1, found.2)) := by
  constructor
  · intro fit
    rw [settles.1 fit]
    rfl
  · intro unfit
    obtain ⟨left, refused⟩ := settles.2 unfit
    exact ⟨left, by rw [refused]; rfl⟩

theorem Settles.congr (same : fits ↔ fits') (settles : Settles fits a rest result) :
    Settles fits' a rest result := by
  rwa [Settles, ← same]

/-- Two parts are read one after the other, the second one if the first one fits. -/
theorem Settles.andThen {b : β} {tail : List Char} {whole : Except Failure (β × List Char)}
    (first : Settles fits a tail result) (next : fits → Settles fits' b rest whole)
    (fails : ∀ e, result = .error e → whole = .error e) : Settles (fits ∧ fits') b rest whole := by
  constructor
  · rintro ⟨fit, fit'⟩
    exact (next fit).1 fit'
  · intro unfit
    by_cases fit : fits
    · exact (next fit).2 fun fit' => unfit ⟨fit, fit'⟩
    · obtain ⟨left, refused⟩ := first.2 fit
      exact ⟨left, fails _ refused⟩

/-- A last part ends what it belongs to. -/
theorem Settles.last {b : β} {tail : List Char} {whole : Except Failure (β × List Char)}
    (last : Settles fits a tail result) (ends : fits → whole = .ok (b, rest))
    (fails : ∀ e, result = .error e → whole = .error e) : Settles fits b rest whole := by
  have both := last.andThen (fun fit => settles_of_ok (ends fit) trivial) fails
  rwa [and_true] at both

end Settles

/-! ### Characters between the parts -/

theorem skipBlanks_cons {c : Char} (solid : isBlank c = false) (cs : List Char) :
    skipBlanks (c :: cs) = c :: cs :=
  List.dropWhile_cons_of_neg (by simp [solid])

/-- The character starts a document: neither blank nor the end of an array. -/
structure Starts (c : Char) : Prop where
  solid : isBlank c = false
  item : c ≠ ']'

theorem starts_of_isDigit {c : Char} (digit : Decimal.isDigit c = true) : Starts c := by
  constructor
  · rw [← Bool.not_eq_true]
    intro blank
    simp only [isBlank, Bool.or_eq_true, beq_iff_eq] at blank
    rcases blank with ((rfl | rfl) | rfl) | rfl <;> cases digit
  · rintro rfl
    cases digit

theorem toList_array (items : List Json) :
    (text (.array items)).toList = '[' :: ((itemsText items).toList ++ [']']) := by simp [text]

theorem toList_object (members : List (String × Json)) :
    (text (.object members)).toList = '\x7b' :: ((membersText members).toList ++ ['\x7d']) := by
  simp [text]

theorem exists_starts {json : Json} (whole : json.Whole) :
    ∃ c cs, json.text.toList = c :: cs ∧ Starts c := by
  cases json with
  | null => exact ⟨'n', _, rfl, rfl, by decide⟩
  | bool b =>
    cases b
    · exact ⟨'f', _, rfl, rfl, by decide⟩
    · exact ⟨'t', _, rfl, rfl, by decide⟩
  | integer n =>
    rw [text, integerText]
    split
    · exact ⟨'-', _, String.toList_append, rfl, by decide⟩
    · rw [String.toList_ofList]
      obtain ⟨c, cs, split⟩ := List.exists_cons_of_ne_nil (Nat.toDigits_ne_nil (b := 10))
      exact ⟨c, cs, split, starts_of_isDigit (isDigit_of_mem_ofNat (split ▸ List.mem_cons_self))⟩
  | float x => exact whole.elim
  | string s => exact ⟨'"', _, toList_stringText s, rfl, by decide⟩
  | array items => exact ⟨'[', _, toList_array items, rfl, by decide⟩
  | object members => exact ⟨'\x7b', _, toList_object members, rfl, by decide⟩

/-! ### Parts of arrays and objects -/

section Parts

variable {item : List Char → Except Failure (Json × List Char)} {bound : Nat}
  {cs tail rest : List Char} {fits fits' : Prop}

theorem Settles.readItems_last {json : Json} (last : Settles fits json (']' :: rest) (item cs)) :
    Settles fits [json] rest (readItems item (bound + 1) cs) := by
  refine last.last (fun fit => ?_) fun e failed => by rw [readItems, failed]
  rw [readItems, last.1 fit]
  simp only [skipBlanks_cons (c := ']') rfl]

theorem Settles.readItems_next {json : Json} {items : List Json} {c : Char}
    (first : Settles fits json (',' :: c :: tail) (item cs)) (starts : Starts c)
    (others : Settles fits' items rest (readItems item bound (c :: tail))) :
    Settles (fits ∧ fits') (json :: items) rest (readItems item (bound + 1) cs) := by
  refine first.andThen (fun fit => ?_) fun e failed => by rw [readItems, failed]
  have next : readItems item (bound + 1) cs =
      (readItems item bound (c :: tail)).map fun found => (json :: found.1, found.2) := by
    rw [readItems, first.1 fit]
    simp only [skipBlanks_cons (c := ',') rfl, skipBlanks_cons starts.solid]
    split
    · next empty => cases empty
    · next same => exact absurd (List.cons.inj same).1 starts.item
    · cases readItems item bound (c :: tail) <;> rfl
  rw [next]
  exact others.map (json :: ·)

/-- A member is read as its item is. -/
theorem Settles.readMember {json : Json} (key : String) (whole : json.Whole)
    (value : Settles fits json rest (item (json.text.toList ++ rest))) :
    Settles fits (key, json) rest
      (readMember item ((stringText key).toList ++ ':' :: (json.text.toList ++ rest))) := by
  obtain ⟨c, cs, split, starts⟩ := exists_starts whole
  rw [split, List.cons_append] at value ⊢
  have member : Json.readMember item ((stringText key).toList ++ ':' :: c :: (cs ++ rest)) =
      (item (c :: (cs ++ rest))).map fun found => ((key, found.1), found.2) := by
    rw [toList_stringText, List.cons_append, List.append_assoc, List.singleton_append,
      Json.readMember, readString_flatMap]
    simp only [skipBlanks_cons (c := ':') rfl, skipBlanks_cons starts.solid]
    cases item (c :: (cs ++ rest)) <;> simp [Except.map]
  rw [member]
  exact value.map (Prod.mk key)

theorem Settles.readMembers_last {member : String × Json}
    (last : Settles fits member ('\x7d' :: rest) (Json.readMember item cs)) :
    Settles fits [member] rest (readMembers item (bound + 1) cs) := by
  refine last.last (fun fit => ?_) fun e failed => by rw [readMembers, failed]
  rw [readMembers, last.1 fit]
  simp only [skipBlanks_cons (c := '\x7d') rfl]

theorem Settles.readMembers_next {member : String × Json} {members : List (String × Json)}
    (first : Settles fits member (',' :: '"' :: tail) (Json.readMember item cs))
    (others : Settles fits' members rest (readMembers item bound ('"' :: tail))) :
    Settles (fits ∧ fits') (member :: members) rest (readMembers item (bound + 1) cs) := by
  refine first.andThen (fun fit => ?_) fun e failed => by rw [readMembers, failed]
  have next : readMembers item (bound + 1) cs =
      (readMembers item bound ('"' :: tail)).map fun found => (member :: found.1, found.2) := by
    rw [readMembers, first.1 fit]
    simp only [skipBlanks_cons (c := ',') rfl, skipBlanks_cons (c := '"') rfl]
    split
    · next empty => cases empty
    · next same => cases (List.cons.inj same).1
    · cases readMembers item bound ('"' :: tail) <;> rfl
  rw [next]
  exact others.map (member :: ·)

end Parts

/-! ### Texts of items and members -/

theorem toList_items (item next : Json) (more : List Json) :
    (itemsText (item :: next :: more)).toList =
      item.text.toList ++ ',' :: (itemsText (next :: more)).toList := by
  simp [itemsText]

theorem toList_members (key : String) (item : Json) (next : String × Json)
    (more : List (String × Json)) :
    (membersText ((key, item) :: next :: more)).toList =
      (stringText key).toList ++ ':' :: (item.text.toList ++ ',' ::
        (membersText (next :: more)).toList) := by
  simp [membersText]

theorem exists_starts_items {item : Json} {more : List Json} (whole : ItemsWhole (item :: more)) :
    ∃ c cs, (itemsText (item :: more)).toList = c :: cs ∧ Starts c := by
  obtain ⟨c, cs, split, starts⟩ := exists_starts whole.1
  cases more with
  | nil => exact ⟨c, cs, split, starts⟩
  | cons next more =>
    rw [toList_items, split]
    exact ⟨c, _, List.cons_append, starts⟩

theorem exists_quote_members (member : String × Json) (more : List (String × Json)) :
    ∃ cs, (membersText (member :: more)).toList = '"' :: cs := by
  obtain ⟨key, item⟩ := member
  cases more with
  | nil =>
    rw [membersText, String.toList_append, String.toList_append, toList_stringText,
      List.append_assoc]
    exact ⟨_, List.cons_append⟩
  | cons next more =>
    rw [toList_members, toList_stringText]
    exact ⟨_, List.cons_append⟩

/-- Every item takes a character. -/
theorem length_le_itemsText {items : List Json} (whole : ItemsWhole items) :
    items.length ≤ (itemsText items).toList.length := by
  induction items with
  | nil => exact Nat.zero_le _
  | cons item more ih =>
    obtain ⟨c, cs, split, -⟩ := exists_starts whole.1
    cases more with
    | nil =>
      rw [itemsText, split]
      exact Nat.le_add_left ..
    | cons next more =>
      have later := ih whole.2
      rw [toList_items]
      simp only [List.length_append, List.length_cons] at later ⊢
      omega

theorem length_le_membersText (members : List (String × Json)) :
    members.length ≤ (membersText members).toList.length := by
  induction members with
  | nil => exact Nat.zero_le _
  | cons member more ih =>
    obtain ⟨key, item⟩ := member
    cases more with
    | nil =>
      obtain ⟨cs, split⟩ := exists_quote_members (key, item) []
      rw [split]
      exact Nat.le_add_left ..
    | cons next more =>
      rw [toList_members]
      simp only [List.length_append, List.length_cons] at ih ⊢
      omega

/-! ### Documents -/

/-- A scalar is read at any depth. -/
theorem readValue_of_readScalar {c : Char} {cs : List Char} {found : Json × List Char}
    (solid : isBlank c = false) (read : readScalar (c :: cs) = .ok found) (depth : Nat) :
    readValue depth (c :: cs) = .ok found := by
  have bracket : c ≠ '[' := by
    rintro rfl
    cases read
  have brace : c ≠ '\x7b' := by
    rintro rfl
    cases read
  unfold readValue
  rw [skipBlanks_cons solid]
  split <;> simp_all

theorem settles_scalar {json : Json} {rest : List Char} (whole : json.Whole)
    (flat : json.nesting = 0) (read : readScalar (json.text.toList ++ rest) = .ok (json, rest))
    (depth : Nat) :
    Settles (json.nesting ≤ depth) json rest (readValue depth (json.text.toList ++ rest)) := by
  obtain ⟨c, cs, split, starts⟩ := exists_starts whole
  rw [split, List.cons_append] at read ⊢
  exact settles_of_ok (readValue_of_readScalar starts.solid read depth) (flat ▸ Nat.zero_le depth)

theorem readArray_cons {item : List Char → Except Failure (Json × List Char)} {c : Char}
    (starts : Starts c) (cs : List Char) :
    readArray item (c :: cs) =
      (readItems item (c :: cs).length (c :: cs)).map fun found => (.array found.1, found.2) := by
  rw [readArray, skipBlanks_cons starts.solid]
  split
  · next empty => cases empty
  · next same => exact absurd (List.cons.inj same).1 starts.item
  · cases readItems item (c :: cs).length (c :: cs) <;> rfl

theorem readObject_quote {item : List Char → Except Failure (Json × List Char)} (cs : List Char) :
    readObject item ('"' :: cs) =
      (readMembers item ('"' :: cs).length ('"' :: cs)).map fun found =>
        (.object (Table.ofEntries found.1), found.2) := by
  rw [readObject, skipBlanks_cons (c := '"') rfl]
  split
  · next empty => cases empty
  · next same => cases (List.cons.inj same).1
  · cases readMembers item ('"' :: cs).length ('"' :: cs) <;> rfl

/-- An array is read as its items are, one level further in. -/
theorem settles_array {items : List Json} (whole : ItemsWhole items) {rest : List Char}
    (settles : ∀ depth bound, items ≠ [] → items.length ≤ bound →
      Settles (itemsNesting items ≤ depth) items rest
        (readItems (readValue depth) bound ((itemsText items).toList ++ ']' :: rest))) :
    (depth : Nat) → Settles (nesting (.array items) ≤ depth) (.array items) rest
      (readValue depth ((text (.array items)).toList ++ rest)) := by
  intro depth
  rw [toList_array, List.cons_append, List.append_assoc, List.singleton_append, nesting]
  cases depth with
  | zero => exact ⟨by simp, fun _ => ⟨_, rfl⟩⟩
  | succ depth =>
    have opens (cs : List Char) :
        readValue (depth + 1) ('[' :: cs) = readArray (readValue depth) cs := rfl
    rw [opens]
    cases items with
    | nil => exact settles_of_ok rfl (by simp [itemsNesting])
    | cons item more =>
      have bounded := length_le_itemsText whole
      obtain ⟨c, cs, split, starts⟩ := exists_starts_items whole
      rw [split] at settles bounded ⊢
      rw [List.cons_append, readArray_cons starts]
      refine ((settles depth _ (List.cons_ne_nil item more) ?_).map Json.array).congr
        Nat.succ_le_succ_iff.symm
      simp only [List.length_cons, List.length_append] at bounded ⊢
      omega

/-- An object is read as its members are, one level further in. -/
theorem settles_object {members : List (String × Json)} (distinct : (Table.keys members).Nodup)
    {rest : List Char}
    (settles : ∀ depth bound, members ≠ [] → members.length ≤ bound →
      Settles (membersNesting members ≤ depth) members rest
        (readMembers (readValue depth) bound ((membersText members).toList ++ '\x7d' :: rest))) :
    (depth : Nat) → Settles (nesting (.object members) ≤ depth) (.object members) rest
      (readValue depth ((text (.object members)).toList ++ rest)) := by
  intro depth
  rw [toList_object, List.cons_append, List.append_assoc, List.singleton_append, nesting]
  cases depth with
  | zero => exact ⟨by simp, fun _ => ⟨_, rfl⟩⟩
  | succ depth =>
    have opens (cs : List Char) :
        readValue (depth + 1) ('\x7b' :: cs) = readObject (readValue depth) cs := rfl
    rw [opens]
    cases members with
    | nil => exact settles_of_ok rfl (by simp [membersNesting])
    | cons member more =>
      have bounded := length_le_membersText (member :: more)
      obtain ⟨cs, split⟩ := exists_quote_members member more
      have table : Table.ofEntries (member :: more) = member :: more :=
        Table.insertAll_of_nodup [] distinct
      rw [split] at settles bounded ⊢
      rw [List.cons_append, readObject_quote]
      have read := (settles depth ('"' :: cs ++ '\x7d' :: rest).length
        (List.cons_ne_nil member more) (by
          simp only [List.length_cons, List.length_append] at bounded ⊢
          omega)).map fun found => Json.object (Table.ofEntries found)
      rw [table] at read
      exact read.congr Nat.succ_le_succ_iff.symm

mutual

/-- A document is read back from its text, unless it is nested too deeply. -/
theorem settles_text : (json : Json) → json.Whole → (rest : List Char) → Ends isNumeric rest →
    (depth : Nat) →
    Settles (json.nesting ≤ depth) json rest (readValue depth (json.text.toList ++ rest))
  | .null, whole, rest, _, depth => settles_scalar whole rfl (readScalar_null rest) depth
  | .bool b, whole, rest, _, depth => settles_scalar whole rfl (readScalar_bool b rest) depth
  | .integer _, whole, _, stop, depth =>
    settles_scalar whole rfl (readScalar_integer whole stop) depth
  | .float _, whole, _, _, _ => whole.elim
  | .string s, whole, rest, _, depth => settles_scalar whole rfl (readScalar_string s rest) depth
  | .array items, whole, rest, _, depth =>
    settles_array whole (fun d bound nonempty enough =>
      settles_itemsText items whole nonempty d bound enough rest) depth
  | .object members, whole, rest, _, depth =>
    settles_object whole.1 (fun d bound nonempty enough =>
      settles_membersText members whole.2 nonempty d bound enough rest) depth

theorem settles_itemsText : (items : List Json) → ItemsWhole items → items ≠ [] →
    (depth bound : Nat) → items.length ≤ bound → (rest : List Char) →
    Settles (itemsNesting items ≤ depth) items rest
      (readItems (readValue depth) bound ((itemsText items).toList ++ ']' :: rest))
  | [], _, nonempty, _, _, _, _ => absurd rfl nonempty
  | [item], whole, _, depth, bound + 1, _, rest => by
    have last := settles_text item whole.1 (']' :: rest) (ends_cons.mpr rfl) depth
    rw [itemsNesting, itemsNesting, Nat.max_zero]
    exact last.readItems_last
  | item :: next :: more, whole, _, depth, bound + 1, enough, rest => by
    have others := settles_itemsText (next :: more) whole.2 (List.cons_ne_nil next more) depth
      bound (Nat.le_of_succ_le_succ enough) rest
    obtain ⟨c, cs, split, starts⟩ := exists_starts_items whole.2
    have first := settles_text item whole.1
      (',' :: (itemsText (next :: more)).toList ++ ']' :: rest) (ends_cons.mpr rfl) depth
    rw [toList_items, List.append_assoc]
    rw [split] at others first ⊢
    exact (first.readItems_next starts others).congr Nat.max_le.symm

theorem settles_membersText : (members : List (String × Json)) → MembersWhole members →
    members ≠ [] → (depth bound : Nat) → members.length ≤ bound → (rest : List Char) →
    Settles (membersNesting members ≤ depth) members rest
      (readMembers (readValue depth) bound ((membersText members).toList ++ '\x7d' :: rest))
  | [], _, nonempty, _, _, _, _ => absurd rfl nonempty
  | [(key, item)], whole, _, depth, bound + 1, _, rest => by
    have last := settles_text item whole.1 ('\x7d' :: rest) (ends_cons.mpr rfl) depth
    have text : (membersText [(key, item)]).toList =
        (stringText key).toList ++ ':' :: item.text.toList := by simp [membersText]
    rw [membersNesting, membersNesting, Nat.max_zero, text, List.append_assoc]
    exact (last.readMember key whole.1).readMembers_last
  | (key, item) :: next :: more, whole, _, depth, bound + 1, enough, rest => by
    have others := settles_membersText (next :: more) whole.2 (List.cons_ne_nil next more) depth
      bound (Nat.le_of_succ_le_succ enough) rest
    obtain ⟨cs, split⟩ := exists_quote_members next more
    have first := settles_text item whole.1
      (',' :: (membersText (next :: more)).toList ++ '\x7d' :: rest) (ends_cons.mpr rfl) depth
    have member := first.readMember key whole.1
    rw [toList_members]
    simp only [List.append_assoc, List.cons_append] at member ⊢
    rw [split] at others member ⊢
    exact (member.readMembers_next others).congr Nat.max_le.symm

end

/-- A text is read back as its document if it is nested at most 127 deep, and refused for its
nesting otherwise. -/
theorem read_text {json : Json} (whole : json.Whole) :
    (json.nesting ≤ 127 → read json.text = .ok json) ∧
      (127 < json.nesting → ∃ line column,
        read json.text = .error (.json .recursionLimitExceeded line column)) := by
  obtain ⟨accepted, refused⟩ := settles_text json whole [] ends_nil 127
  rw [List.append_nil] at accepted refused
  constructor
  · intro fits
    have blank : skipBlanks [] = [] := rfl
    simp only [read, readAll, accepted fits, blank]
  · intro deep
    obtain ⟨left, failed⟩ := refused (Nat.not_le.mpr deep)
    simp only [read, readAll, failed]
    exact ⟨_, _, rfl⟩

end Bracket.Json
