import Bracket.Proofs.Evaluator.Plan
import Bracket.Session.Basic

/-!
How a session evaluates a text: it opens the text, which gives the trees of the text and the scope
to evaluate them in, and hands both to the evaluator. Opening needs no fuel.
-/

namespace Bracket.Session

/-- What an evaluation in a session goes by. -/
def setting (x : Session × World) : Evaluator.Setting := ⟨x.1.limit, x.2.hosts, x.2.now⟩

/-- The trees of a text and the scope that they are evaluated in. -/
def opening (text : String) (bindings : Table Value) : Run (List Node × Scope) := do
  let nodes ← tree text
  let scope ← scopeWith bindings
  return (nodes, scope)

/-- The value of the last expression, given all of them. -/
def lastValue (evaluated : List (Node × Value)) : Value :=
  (evaluated.getLast?.map Prod.snd).getD .undefined

/-! ### Stage by stage -/

theorem tokenize_hit {text : String} {s : Session} {tokens : List Token} (w : World)
    (known : s.tokens.get? text = some tokens) : tokenize text (s, w) = (.ok tokens, s, w) := by
  simp only [tokenize, known]

theorem tokenize_miss {text : String} {s : Session} (w : World)
    (missing : s.tokens.get? text = none) :
    tokenize text (s, w) = match s.lexicon.tokenize text with
      | .error e => (.error (.error e), s, w)
      | .ok tokens => (.ok tokens, { s with tokens := s.tokens.insert text tokens }, w) := by
  cases lexed : s.lexicon.tokenize text with
  | error e => simp only [tokenize, missing, lexed]
  | ok tokens => simp only [tokenize, missing, lexed]

theorem get_apply (x : Session × World) : (get : Run (Session × World)) x = (.ok x, x) := rfl

theorem tree_hit {text : String} {s : Session} {nodes : List Node} (w : World)
    (known : s.trees.get? text = some nodes) : tree text (s, w) = (.ok nodes, s, w) := by
  rw [tree, bind_apply, get_apply]
  simp only [known]
  rfl

theorem tree_miss {text : String} {s : Session} (w : World)
    (missing : s.trees.get? text = none) :
    tree text (s, w) = match tokenize text (s, w) with
      | (.error stop, after) => (.error stop, after)
      | (.ok tokens, s', w') =>
        match Node.ofTokens s'.limit tokens with
        | .error e => (.error (.error e), s', w')
        | .ok nodes => (.ok nodes, { s' with trees := s'.trees.insert text nodes }, w') := by
  rw [tree, bind_apply, get_apply]
  simp only [missing, bind_apply]
  cases tokenize text (s, w) with
  | mk result after =>
    obtain ⟨s', w'⟩ := after
    cases result with
    | error stop => rfl
    | ok tokens =>
      simp only [parse]
      cases Node.ofTokens s'.limit tokens <;> rfl

theorem libraryScope_hit {s : Session} {library : Scope} (w : World)
    (known : s.library = some library) : libraryScope (s, w) = (.ok library, s, w) := by
  simp only [libraryScope, known]

theorem libraryScope_miss {s : Session} (w : World) (missing : s.library = none) :
    libraryScope (s, w) =
      (.ok (w.store.newScope none).1, { s with library := some (w.store.newScope none).1 },
        { w with
          store := (w.store.newScope none).2.assignAll (w.store.newScope none).1
            s.functions.toList }) := by
  simp only [libraryScope, missing]

theorem scopeWith_of_library {x : Session × World} {library : Scope} {s : Session} {w : World}
    (made : libraryScope x = (.ok library, s, w)) (bindings : Table Value) :
    scopeWith bindings x =
      (.ok (w.store.newScope (some library)).1, s,
        { w with
          store := (w.store.newScope (some library)).2.assignAll
            (w.store.newScope (some library)).1 bindings }) := by
  rw [scopeWith, bind_apply, made]
  rfl

/-! ### What opening a text keeps -/

/-- The session and the world go by the same as before. -/
def Kept (x y : Session × World) : Prop :=
  y.1.lexicon = x.1.lexicon ∧ y.1.functions = x.1.functions ∧ setting y = setting x

theorem Kept.trans {x y z : Session × World} (first : Kept x y) (second : Kept y z) : Kept x z :=
  ⟨second.1.trans first.1, second.2.1.trans first.2.1, second.2.2.trans first.2.2⟩

/-- A computation that stops only with errors of the language, and keeps what evaluations go by. -/
structure IsSteady {α : Type} (r : Run α) : Prop where
  keeps : ∀ x, Kept x (r x).2
  ends : ∀ x, (r x).1 ≠ .error .outOfFuel

theorem IsSteady.bind {α β : Type} {r : Run α} {f : α → Run β} (first : IsSteady r)
    (rest : ∀ a, IsSteady (f a)) : IsSteady (r >>= f) where
  keeps x := by
    have kept := first.keeps x
    rw [bind_apply]
    cases outcome : r x with
    | mk result after =>
      rw [outcome] at kept
      cases result with
      | error stop => exact kept
      | ok a => exact kept.trans ((rest a).keeps after)
  ends x := by
    have ended := first.ends x
    rw [bind_apply]
    cases outcome : r x with
    | mk result after =>
      rw [outcome] at ended
      cases result with
      | error stop => simpa using ended
      | ok a => exact (rest a).ends after

theorem tokenize_isSteady (text : String) : IsSteady (tokenize text) where
  keeps x := by
    obtain ⟨s, w⟩ := x
    unfold tokenize
    dsimp only
    repeat' split
    all_goals exact ⟨rfl, rfl, rfl⟩
  ends x := by
    obtain ⟨s, w⟩ := x
    unfold tokenize
    dsimp only
    repeat' split
    all_goals simp

theorem parse_isSteady (tokens : List Token) : IsSteady (parse tokens) where
  keeps x := by
    obtain ⟨s, w⟩ := x
    unfold parse
    dsimp only
    split
    all_goals exact ⟨rfl, rfl, rfl⟩
  ends x := by
    obtain ⟨s, w⟩ := x
    unfold parse
    dsimp only
    split
    all_goals simp

theorem get_isSteady : IsSteady (get : Run (Session × World)) where
  keeps _ := ⟨rfl, rfl, rfl⟩
  ends _ := nofun

theorem pure_isSteady {α : Type} (a : α) : IsSteady (pure a : Run α) where
  keeps _ := ⟨rfl, rfl, rfl⟩
  ends _ := nofun

theorem modify_isSteady {f : Session × World → Session × World} (keeps : ∀ x, Kept x (f x)) :
    IsSteady (modify f : Run PUnit) where
  keeps := keeps
  ends _ := nofun

theorem tree_isSteady (text : String) : IsSteady (tree text) := by
  refine get_isSteady.bind fun x => ?_
  obtain ⟨s, w⟩ := x
  dsimp only
  split
  · exact pure_isSteady _
  · refine (tokenize_isSteady text).bind fun tokens => (parse_isSteady tokens).bind fun nodes => ?_
    refine (modify_isSteady ?_).bind fun _ => pure_isSteady nodes
    exact fun _ => ⟨rfl, rfl, rfl⟩

theorem libraryScope_isSteady : IsSteady libraryScope where
  keeps x := by
    obtain ⟨s, w⟩ := x
    unfold libraryScope
    dsimp only
    split
    all_goals exact ⟨rfl, rfl, rfl⟩
  ends x := by
    obtain ⟨s, w⟩ := x
    unfold libraryScope
    dsimp only
    split
    all_goals simp

theorem scopeWith_isSteady (bindings : Table Value) : IsSteady (scopeWith bindings) :=
  libraryScope_isSteady.bind fun _ => ⟨fun _ => ⟨rfl, rfl, rfl⟩, fun _ => nofun⟩

theorem opening_isSteady (text : String) (bindings : Table Value) :
    IsSteady (opening text bindings) :=
  (tree_isSteady text).bind fun nodes => (scopeWith_isSteady bindings).bind fun scope =>
    pure_isSteady (nodes, scope)

/-! ### The evaluation of an opened text -/

/-- The outcome of a text is that of its trees in its scope. -/
theorem compute_eq (fuel : Nat) (text : String) (bindings : Table Value) (x : Session × World) :
    compute fuel text bindings x = match opening text bindings x with
      | (.error stop, after) => (.error stop, after)
      | (.ok (nodes, scope), s, w) =>
        match Evaluator.evaluateAll (setting x) fuel scope nodes { store := w.store } with
        | (.error stop, after) => (.error stop, s, { w with store := after.store })
        | (.ok values, after) => (.ok (nodes.zip values), s, { w with store := after.store }) := by
  have staged : compute fuel text bindings = opening text bindings >>= fun opened => do
      let values ← evaluating fun setting =>
        Evaluator.evaluateAll setting fuel opened.2 opened.1
      return opened.1.zip values := by
    simp [compute, opening]
  have kept := (opening_isSteady text bindings).keeps x
  rw [staged, bind_apply]
  cases outcome : opening text bindings x with
  | mk result after =>
    obtain ⟨s, w⟩ := after
    cases result with
    | error stop => rfl
    | ok opened =>
      obtain ⟨nodes, scope⟩ := opened
      have same : setting x = ⟨s.limit, w.hosts, w.now⟩ := by
        rw [outcome] at kept
        exact kept.2.2.symm
      simp only [bind_apply, evaluating, same]
      cases Evaluator.evaluateAll ⟨s.limit, w.hosts, w.now⟩ fuel scope nodes _ with
      | mk result after => cases result <;> rfl

theorem evaluateNodes_fst (fuel elapsed : Nat) (text : String) (bindings : Table Value)
    (x : Session × World) :
    (evaluateNodes fuel elapsed text bindings x).1 = (compute fuel text bindings x).1 := by
  rw [evaluateNodes, bind_apply]
  cases compute fuel text bindings x with
  | mk result after => cases result <;> rfl

theorem evaluate_fst (fuel elapsed : Nat) (text : String) (bindings : Table Value)
    (x : Session × World) :
    (evaluate fuel elapsed text bindings x).1 =
      (compute fuel text bindings x).1.map lastValue := by
  rw [← evaluateNodes_fst fuel elapsed, evaluate, bind_apply]
  cases evaluateNodes fuel elapsed text bindings x with
  | mk result after => cases result <;> rfl

end Bracket.Session
