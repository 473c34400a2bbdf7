import Bracket.Proofs.Likeness.Value

/-!
Renaming: values with other numbers for the levels of the store. Closures are the only values that
hold scopes, and nothing but a search of the store looks at their levels, so whatever else the
language does with values does not depend on how the levels are numbered. Main statement: a value
and the renamed one are alike, and nothing else is alike in this way.
-/

namespace Bracket

/-- The scope with every level renamed. -/
def Scope.rename (ρ : Nat → Nat) (scope : Scope) : Scope := ⟨ρ scope.level, scope.outer.map ρ⟩

/-- The table with every entry mapped in its place. -/
def Table.mapValues {α β : Type} (f : α → β) (t : Table α) : Table β :=
  t.map fun entry => (entry.1, f entry.2)

mutual

def Literal.rename (ρ : Nat → Nat) : Literal → Literal
  | .string s => .string s
  | .number n => .number n
  | .identifier => .identifier
  | .boolean b => .boolean b
  | .null => .null
  | .undefined => .undefined
  | .keyword v => .keyword (v.rename ρ)

/-- The expression with every level renamed that the values of its keywords hold. -/
def Node.rename (ρ : Nat → Nat) : Node → Node
  | .leaf mark literal => .leaf mark (literal.rename ρ)
  | .call mark children => .call mark (Node.renameAll ρ children)
  | .function mark children => .function mark (Node.renameAll ρ children)
  | .member mark target name => .member mark (target.rename ρ) name

def Node.renameAll (ρ : Nat → Nat) : List Node → List Node
  | [] => []
  | n :: rest => n.rename ρ :: Node.renameAll ρ rest

/-- The value with every level renamed that it holds. -/
def Value.rename (ρ : Nat → Nat) : Value → Value
  | .undefined => .undefined
  | .null => .null
  | .bool b => .bool b
  | .number n => .number n
  | .string s => .string s
  | .array id items => .array id (Value.renameItems ρ items)
  | .object id entries => .object id (Value.renameEntries ρ entries)
  | .function id procedure => .function id (procedure.rename ρ)
  | .date d => .date d

def Value.renameItems (ρ : Nat → Nat) : List Value → List Value
  | [] => []
  | v :: rest => v.rename ρ :: Value.renameItems ρ rest

def Value.renameEntries (ρ : Nat → Nat) : List (String × Value) → List (String × Value)
  | [] => []
  | (key, v) :: rest => (key, v.rename ρ) :: Value.renameEntries ρ rest

def Procedure.rename (ρ : Nat → Nat) : Procedure → Procedure
  | .closure params none env => .closure params none (env.rename ρ)
  | .closure params (some body) env => .closure params (some (body.rename ρ)) (env.rename ρ)
  | .native name code properties =>
    .native name (code.rename ρ) (Value.renameEntries ρ properties)

def Code.rename (ρ : Nat → Nat) : Code → Code
  | .builtin b => .builtin b
  | .bound f values => .bound (f.rename ρ) (Value.renameItems ρ values)
  | .flipped f values => .flipped (f.rename ρ) (Value.renameItems ρ values)
  | .chained functions => .chained (Value.renameItems ρ functions)
  | .host index => .host index

end

variable {ρ : Nat → Nat}

/-! ### Equations -/

@[simp] theorem Node.renameAll_eq_map (nodes : List Node) :
    Node.renameAll ρ nodes = nodes.map (Node.rename ρ) := by
  induction nodes with
  | nil => rfl
  | cons n rest ih => rw [Node.renameAll, ih, List.map_cons]

@[simp] theorem Value.renameItems_eq_map (items : List Value) :
    Value.renameItems ρ items = items.map (Value.rename ρ) := by
  induction items with
  | nil => rfl
  | cons v rest ih => rw [Value.renameItems, ih, List.map_cons]

@[simp] theorem Value.renameEntries_eq_mapValues (entries : List (String × Value)) :
    Value.renameEntries ρ entries = Table.mapValues (Value.rename ρ) entries := by
  induction entries with
  | nil => rfl
  | cons entry rest ih =>
    obtain ⟨key, v⟩ := entry
    rw [Value.renameEntries, ih]
    rfl

attribute [simp] Literal.rename Node.rename Value.rename Code.rename

@[simp] theorem Procedure.rename_closure (params : List String) (body : Option Node) (env : Scope) :
    (Procedure.closure params body env).rename ρ =
      .closure params (body.map (Node.rename ρ)) (env.rename ρ) := by
  cases body <;> rfl

@[simp] theorem Procedure.rename_native (name : String) (code : Code)
    (properties : List (String × Value)) :
    (Procedure.native name code properties).rename ρ =
      .native name (code.rename ρ) (Table.mapValues (Value.rename ρ) properties) := by
  rw [Procedure.rename, Value.renameEntries_eq_mapValues]

/-! ### The renaming that changes nothing -/

theorem Scope.rename_id (scope : Scope) : scope.rename id = scope := by
  simp [Scope.rename]

mutual

theorem Literal.rename_id : (literal : Literal) → literal.rename id = literal
  | .string _ | .number _ | .identifier | .boolean _ | .null | .undefined => rfl
  | .keyword v => by rw [Literal.rename, Value.rename_id v]

theorem Node.rename_id : (n : Node) → n.rename id = n
  | .leaf _ literal => by rw [Node.rename, Literal.rename_id literal]
  | .call _ children => by rw [Node.rename, Node.renameAll_id children]
  | .function _ children => by rw [Node.rename, Node.renameAll_id children]
  | .member _ target _ => by rw [Node.rename, Node.rename_id target]

theorem Node.renameAll_id : (nodes : List Node) → Node.renameAll id nodes = nodes
  | [] => rfl
  | n :: rest => by rw [Node.renameAll, Node.rename_id n, Node.renameAll_id rest]

theorem Value.rename_id : (v : Value) → v.rename id = v
  | .undefined | .null | .bool _ | .number _ | .string _ | .date _ => rfl
  | .array _ items => by rw [Value.rename, Value.renameItems_id items]
  | .object _ entries => by rw [Value.rename, Value.renameEntries_id entries]
  | .function _ procedure => by rw [Value.rename, Procedure.rename_id procedure]

theorem Value.renameItems_id : (items : List Value) → Value.renameItems id items = items
  | [] => rfl
  | v :: rest => by rw [Value.renameItems, Value.rename_id v, Value.renameItems_id rest]

theorem Value.renameEntries_id :
    (entries : List (String × Value)) → Value.renameEntries id entries = entries
  | [] => rfl
  | (_, v) :: rest => by rw [Value.renameEntries, Value.rename_id v, Value.renameEntries_id rest]

theorem Procedure.rename_id : (procedure : Procedure) → procedure.rename id = procedure
  | .closure _ none env => by rw [Procedure.rename, Scope.rename_id]
  | .closure _ (some body) env => by rw [Procedure.rename, Node.rename_id body, Scope.rename_id]
  | .native _ code properties => by
    rw [Procedure.rename, Code.rename_id code, Value.renameEntries_id properties]

theorem Code.rename_id : (code : Code) → code.rename id = code
  | .builtin _ | .host _ => rfl
  | .bound f values => by rw [Code.rename, Value.rename_id f, Value.renameItems_id values]
  | .flipped f values => by rw [Code.rename, Value.rename_id f, Value.renameItems_id values]
  | .chained functions => by rw [Code.rename, Value.renameItems_id functions]

end

/-! ### Tables -/

namespace Table

variable {α β : Type} (f : α → β)

@[simp] theorem mapValues_cons (key : String) (v : α) (rest : Table α) :
    mapValues f ((key, v) :: rest) = (key, f v) :: mapValues f rest := rfl

@[simp] theorem get?_mapValues (t : Table α) (key : String) :
    (mapValues f t).get? key = (t.get? key).map f := by
  induction t with
  | nil => rfl
  | cons entry rest ih =>
    obtain ⟨k, v⟩ := entry
    by_cases same : k = key
    · simp [get?, same]
    · simp [get?, same, ih]

theorem mapValues_insert (t : Table α) (key : String) (v : α) :
    mapValues f (t.insert key v) = (mapValues f t).insert key (f v) := by
  induction t with
  | nil => rfl
  | cons entry rest ih =>
    obtain ⟨k, w⟩ := entry
    by_cases same : k = key
    · simp [insert, same]
    · simp [insert, same, ih]

end Table

/-! ### Texts -/

@[simp] theorem Node.mark_rename (n : Node) : (n.rename ρ).mark = n.mark := by
  cases n <;> rfl

mutual

@[simp] theorem Node.text_rename : (n : Node) → (n.rename ρ).text = n.text
  | .leaf mark literal => rfl
  | .call mark children => by
    rw [Node.rename, Node.text, Node.text, Node.textAll_rename children]
  | .function mark children => by
    rw [Node.rename, Node.text, Node.text, Node.textAll_rename children]
  | .member mark target name => by
    rw [Node.rename, Node.text, Node.text, Node.text_rename target]

theorem Node.textAll_rename :
    (nodes : List Node) → Node.textAll (Node.renameAll ρ nodes) = Node.textAll nodes
  | [] => rfl
  | [n] => Node.text_rename n
  | n :: m :: rest => by
    show (n.rename ρ).text ++ " " ++ Node.textAll (Node.renameAll ρ (m :: rest)) =
      n.text ++ " " ++ Node.textAll (m :: rest)
    rw [Node.text_rename n, Node.textAll_rename (m :: rest)]

end

/-! ### Renamed values are alike -/

/-- The likeness of values and renamed values. -/
def Likeness.renaming (ρ : Nat → Nat) : Likeness where
  ids := Eq
  closures body env body' env' := body' = body.map (Node.rename ρ) ∧ env' = env.rename ρ
  ids_iff := @Likeness.eq_iff_eq
  text_eq := by
    rintro body body' env env' ⟨rfl, -⟩
    cases body with
    | none => rfl
    | some n => exact congrArg some (Node.text_rename n)

mutual

theorem Value.like_rename : (v : Value) → v.Like (.renaming ρ) (v.rename ρ)
  | .undefined => .undefined
  | .null => .null
  | .bool b => .bool b
  | .number n => .number n
  | .string s => .string s
  | .array _ items => .array rfl (Value.likeAll_rename items)
  | .object _ entries => .object rfl (Table.like_rename entries)
  | .function _ procedure => .function rfl (Procedure.like_rename procedure)
  | .date d => .date d

theorem Value.likeAll_rename :
    (items : List Value) → Value.LikeAll (.renaming ρ) items (Value.renameItems ρ items)
  | [] => .nil
  | v :: rest => .cons (Value.like_rename v) (Value.likeAll_rename rest)

theorem Table.like_rename : (entries : List (String × Value)) →
    Table.Like (.renaming ρ) entries (Value.renameEntries ρ entries)
  | [] => .nil
  | (key, v) :: rest => .cons (.mk key (Value.like_rename v)) (Table.like_rename rest)

theorem Procedure.like_rename : (p : Procedure) → p.Like (.renaming ρ) (p.rename ρ)
  | .closure params none _ => .closure params ⟨rfl, rfl⟩
  | .closure params (some _) _ => .closure params ⟨rfl, rfl⟩
  | .native name code properties =>
    .native name (Code.like_rename code) (Table.like_rename properties)

theorem Code.like_rename : (code : Code) → code.Like (.renaming ρ) (code.rename ρ)
  | .builtin b => .builtin b
  | .bound f values => .bound (Value.like_rename f) (Value.likeAll_rename values)
  | .flipped f values => .flipped (Value.like_rename f) (Value.likeAll_rename values)
  | .chained functions => .chained (Value.likeAll_rename functions)
  | .host index => .host index

end

mutual

/-- A value that is alike in this way is the renamed one. -/
theorem Value.Like.eq_rename {v v' : Value} : v.Like (.renaming ρ) v' → v' = v.rename ρ
  | .undefined | .null | .bool _ | .number _ | .string _ | .date _ => rfl
  | .array ids each => by
    obtain rfl : _ = _ := ids
    rw [Value.rename, Value.LikeAll.eq_rename each]
  | .object ids each => by
    obtain rfl : _ = _ := ids
    rw [Value.rename, Table.Like.eq_rename each]
  | .function ids alike => by
    obtain rfl : _ = _ := ids
    rw [Value.rename, alike.eq_rename]

theorem Value.LikeAll.eq_rename {items items' : List Value} :
    Value.LikeAll (.renaming ρ) items items' → items' = Value.renameItems ρ items
  | .nil => rfl
  | .cons first rest => by
    rw [Value.renameItems, first.eq_rename, Value.LikeAll.eq_rename rest]

theorem Table.Like.eq_rename {entries entries' : List (String × Value)} :
    Table.Like (.renaming ρ) entries entries' → entries' = Value.renameEntries ρ entries
  | .nil => rfl
  | .cons (.mk key alike) rest => by
    rw [Value.renameEntries, alike.eq_rename, Table.Like.eq_rename rest]

theorem Procedure.Like.eq_rename {p p' : Procedure} :
    p.Like (.renaming ρ) p' → p' = p.rename ρ
  | .closure params same => by
    obtain ⟨rfl, rfl⟩ := same
    rw [Procedure.rename_closure]
  | .native name alike each => by
    rw [Procedure.rename, alike.eq_rename, Table.Like.eq_rename each]

theorem Code.Like.eq_rename {code code' : Code} :
    code.Like (.renaming ρ) code' → code' = code.rename ρ
  | .builtin _ | .host _ => rfl
  | .bound function each => by
    rw [Code.rename, function.eq_rename, Value.LikeAll.eq_rename each]
  | .flipped function each => by
    rw [Code.rename, function.eq_rename, Value.LikeAll.eq_rename each]
  | .chained each => by rw [Code.rename, Value.LikeAll.eq_rename each]

end

namespace Value

@[simp] theorem property?_rename (v : Value) (key : String) :
    (v.rename ρ).property? key = (v.property? key).map (rename ρ) := by
  have found := (v.like_rename (ρ := ρ)).property? key
  revert found
  cases v.property? key <;> cases (v.rename ρ).property? key <;> rintro (_ | alike)
  · rfl
  · exact congrArg some (Like.eq_rename (by assumption))

@[simp] theorem getD_map_rename (v : Option Value) :
    (v.map (rename ρ)).getD .undefined = (v.getD .undefined).rename ρ := by
  cases v <;> rfl

end Value

end Bracket
