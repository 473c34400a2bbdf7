import Bracket.Proofs.Evaluator.Fuel
import Bracket.Proofs.Session.Coherence

/-!
Raising the limit of nesting. The limit acts in two places: no tree is built that is taller, and no
expression is evaluated that is deeper. Neither the parser nor any function catches the error that
it ends in. Main statement: a text that does not fail for its depth has the same outcome under
every higher limit.
-/

namespace Bracket.Node

variable {limit higher : Nat}

/-! ### Taller trees -/

theorem Nest.push_raise (le : limit ≤ higher) {nest : Nest} {n : Tall} {r : Except Error Nest}
    (pushed : nest.push limit n = r) (shallow : r ≠ .error (.tooDeep limit)) :
    nest.push higher n = r := by
  unfold push at pushed ⊢
  by_cases tall : limit < n.height
  · rw [if_pos tall] at pushed
    exact absurd pushed.symm shallow
  · rw [if_neg tall] at pushed
    rw [if_neg (by omega), pushed]

theorem Nest.close_raise (le : limit ≤ higher) {nest : Nest} {t : Token} {r : Except Error Nest}
    (closed : nest.close limit t = r) (shallow : r ≠ .error (.tooDeep limit)) :
    nest.close higher t = r := by
  unfold close at closed ⊢
  cases openers : nest.openers with
  | nil => simpa only [openers] using closed
  | cons entry outer =>
    obtain ⟨opener, before⟩ := entry
    simp only [openers] at closed ⊢
    by_cases fits : closes opener t = true
    · rw [if_pos fits] at closed ⊢
      exact push_raise le closed shallow
    · rw [if_neg fits] at closed ⊢
      exact closed

theorem Nest.member_raise (le : limit ≤ higher) {nest : Nest} {period name : Token}
    {r : Except Error Nest} (accessed : nest.member limit period name = r)
    (shallow : r ≠ .error (.tooDeep limit)) : nest.member higher period name = r := by
  unfold member at accessed ⊢
  cases nodes : nest.nodes with
  | nil => simpa only [nodes] using accessed
  | cons target before =>
    simp only [nodes] at accessed ⊢
    by_cases structural : name.isStructural = true
    · rw [if_pos structural] at accessed ⊢
      exact accessed
    · rw [if_neg structural] at accessed ⊢
      exact push_raise le accessed shallow

/-- As long as no token fails for the height, every token does the same under a higher limit. -/
theorem build_raise (le : limit ≤ higher) (nest : Nest) (tokens : List Token)
    (shallow : build limit nest tokens ≠ .error (.tooDeep limit)) :
    build higher nest tokens = build limit nest tokens := by
  fun_induction build limit nest tokens with
  | case1 nest => rw [build]
  | case2 nest t rest kind ih =>
    rw [build.eq_def]
    simpa only [kind] using ih shallow
  | case3 nest t rest kind ih =>
    rw [build.eq_def]
    simpa only [kind] using ih shallow
  | case4 nest t rest kind ih =>
    rw [build.eq_def]
    simpa only [kind] using ih shallow
  | case5 nest t rest kind e failed =>
    rw [build.eq_def]
    simp only [kind, Nest.close_raise le failed (by simpa using shallow)]
  | case6 nest t rest kind inner closed ih =>
    rw [build.eq_def]
    simpa only [kind, Nest.close_raise le closed (by simp)] using ih shallow
  | case7 nest t rest kind e failed =>
    rw [build.eq_def]
    simp only [kind, Nest.close_raise le failed (by simpa using shallow)]
  | case8 nest t rest kind inner closed ih =>
    rw [build.eq_def]
    simpa only [kind, Nest.close_raise le closed (by simp)] using ih shallow
  | case9 nest t kind =>
    rw [build.eq_def]
    simp only [kind]
  | case10 nest t kind name rest e failed =>
    rw [build.eq_def]
    simp only [kind, Nest.member_raise le failed (by simpa using shallow)]
  | case11 nest t kind name rest inner accessed ih =>
    rw [build.eq_def]
    simpa only [kind, Nest.member_raise le accessed (by simp)] using ih shallow
  | case12 nest t rest l kind e failed =>
    rw [build.eq_def]
    simp only [kind, Nest.push_raise le failed (by simpa using shallow)]
  | case13 nest t rest l kind inner pushed ih =>
    rw [build.eq_def]
    simpa only [kind, Nest.push_raise le pushed (by simp)] using ih shallow

/-- Tokens that make no tree above the limit make the same trees, or fail in the same way, under a
higher limit. -/
theorem ofTokens_raise (le : limit ≤ higher) (tokens : List Token)
    (shallow : ofTokens limit tokens ≠ .error (.tooDeep limit)) :
    ofTokens higher tokens = ofTokens limit tokens := by
  have built := build_raise le {} tokens
  unfold ofTokens at shallow ⊢
  cases outcome : build limit {} tokens with
  | error e =>
    simp only [outcome] at shallow built ⊢
    rw [built (by simpa using shallow)]
  | ok nest =>
    rw [outcome] at built
    rw [built nofun]

end Bracket.Node

namespace Bracket.Evaluator

variable {limit higher : Nat} {hosts : List HostFunction} {now : Date}

/-! ### Deeper expressions -/

/-- The plan of a routine goes by the time of day alone. -/
theorem Plan.ofRoutine_congr {α : Type} {setting setting' : Setting}
    (same : setting'.now = setting.now) (call : Call) (r : Routine α) :
    ofRoutine setting' call r = ofRoutine setting call r := by
  induction r with
  | done a => rfl
  | fail e => rfl
  | ask request next ih =>
    cases request with
    | argument position =>
      cases found : call.arguments[position]? with
      | none =>
        simp only [ofRoutine, found]
        exact ih _
      | some argument =>
        cases argument with
        | value v =>
          simp only [ofRoutine, found]
          exact ih v
        | node n =>
          simp only [ofRoutine, found]
          exact congrArg (Plan.part _) (funext ih)
    | invoke f values => exact congrArg (Plan.part _) (funext ih)
    | evaluate node scope => exact congrArg (Plan.part _) (funext ih)
    | reserve count => exact congrArg (Plan.reserve _) (funext ih)
    | now =>
      rw [ofRoutine, ofRoutine, same]
      exact ih _
    | nested outer => exact congrArg (Plan.nested _) (funext ih)
    | assign scope name v => exact congrArg (Plan.assign _ _ _) (ih ())
    | lookup scope name => exact congrArg (Plan.lookup _ _) (funext ih)

/-- The limit does not show in the plan of a task. -/
theorem Task.plan_congr {setting setting' : Setting} (hosts : setting'.hosts = setting.hosts)
    (now : setting'.now = setting.now) (t : Task) : t.plan setting' = t.plan setting := by
  cases t with
  | node n scope => rfl
  | call f call =>
    cases f with
    | function id procedure =>
      rw [Task.plan, Task.plan, hosts]
      exact Plan.ofRoutine_congr now call _
    | _ => rfl

/-- A task that does not fail for its depth does the same under a higher limit. -/
theorem perform_raise (le : limit ≤ higher) (fuel : Nat) (t : Task) :
    AgreesUnless (· = .error (.tooDeep limit)) (perform ⟨limit, hosts, now⟩ fuel t)
      (perform ⟨higher, hosts, now⟩ fuel t) := by
  induction fuel generalizing t with
  | zero => exact fun _ _ => rfl
  | succ fuel ih =>
    intro s goes
    have same : t.plan ⟨higher, hosts, now⟩ = t.plan ⟨limit, hosts, now⟩ := by
      apply Task.plan_congr <;> rfl
    rw [perform_succ] at goes ⊢
    rw [perform_succ, same]
    cases entered : t.enter limit s with
    | none =>
      simp only [entered] at goes
      exact absurd rfl (goes _ rfl)
    | some inner =>
      have entered' : t.enter higher s = some inner := by
        cases t with
        | call f call => exact entered
        | node n scope =>
          simp only [Task.enter] at entered ⊢
          split at entered
          · cases entered
          · rw [if_neg (by omega), entered]
      simp only [entered] at goes
      have agree := Plan.run_agreesUnless ih _ inner goes
      simp only [entered', agree]

theorem evaluateAll_raise (le : limit ≤ higher) (fuel : Nat) (scope : Scope) (nodes : List Node) :
    AgreesUnless (· = .error (.tooDeep limit))
      (evaluateAll ⟨limit, hosts, now⟩ fuel scope nodes)
      (evaluateAll ⟨higher, hosts, now⟩ fuel scope nodes) := by
  intro s goes
  rw [← Plan.run_ofNodes_done] at goes ⊢
  rw [← Plan.run_ofNodes_done]
  exact Plan.run_agreesUnless (perform_raise le fuel) _ s goes

end Bracket.Evaluator

namespace Bracket.Session

open Evaluator

variable {limit higher : Nat}

/-! ### Texts -/

/-- A session whose limit has just been set reads every text anew. -/
theorem tree_setLimit (s : Session) (w : World) (limit : Nat) (text : String) :
    ∃ known trees, tree text (s.setLimit limit, w) =
      (((s.setLimit limit).treesOf text).mapError .error,
        { s.setLimit limit with tokens := known, trees := trees }, w) := by
  have unread : (s.setLimit limit).trees.get? text = none := rfl
  have unknown : (s.setLimit limit).tokens.get? text = none := rfl
  rw [tree_miss w unread, tokenize_miss w unknown]
  cases lexed : (s.setLimit limit).lexicon.tokenize text with
  | error e =>
    rw [treesOf_of_error lexed]
    exact ⟨_, _, rfl⟩
  | ok tokens =>
    rw [treesOf_of_tokens lexed]
    dsimp only
    cases Node.ofTokens (s.setLimit limit).limit tokens with
    | error e => exact ⟨_, _, rfl⟩
    | ok nodes => exact ⟨_, _, rfl⟩

theorem compute_setLimit (s : Session) (w : World) (limit fuel : Nat) (text : String)
    (bindings : Table Value) :
    (compute fuel text bindings (s.setLimit limit, w)).1 =
      match (s.setLimit limit).treesOf text with
      | .error e => .error (.error e)
      | .ok nodes =>
        (evaluateAll ⟨limit, w.hosts, w.now⟩ fuel (innerScope s w) nodes
          { store := innerStore s w bindings }).1.map nodes.zip := by
  obtain ⟨known, trees, opened⟩ := tree_setLimit s w limit text
  rw [compute_of_tree opened]
  cases (s.setLimit limit).treesOf text <;> rfl

/-- The trees of a text are the same under a higher limit, unless one of them is too tall. -/
theorem treesOf_raise (le : limit ≤ higher) (s : Session) (text : String)
    (shallow : (s.setLimit limit).treesOf text ≠ .error (.tooDeep limit)) :
    (s.setLimit higher).treesOf text = (s.setLimit limit).treesOf text := by
  unfold treesOf at shallow ⊢
  cases lexed : s.lexicon.tokenize text with
  | error e =>
    simp only [setLimit, forgetTexts, lexed]
    rfl
  | ok tokens =>
    simp only [setLimit, forgetTexts, lexed] at shallow ⊢
    exact Node.ofTokens_raise le tokens shallow

/-- A text that does not fail for its depth has the same outcome under every higher limit. -/
theorem evaluate_raise (le : limit ≤ higher) (s : Session) (w : World) (fuel elapsed : Nat)
    (text : String) (bindings : Table Value)
    (shallow : (evaluate fuel elapsed text bindings (s.setLimit limit, w)).1 ≠
      .error (.error (.tooDeep limit))) :
    (evaluate fuel elapsed text bindings (s.setLimit higher, w)).1 =
      (evaluate fuel elapsed text bindings (s.setLimit limit, w)).1 := by
  rw [evaluate_fst, compute_setLimit] at shallow ⊢
  rw [evaluate_fst, compute_setLimit]
  have trees := treesOf_raise le s text
  cases parsed : (s.setLimit limit).treesOf text with
  | error e =>
    rw [parsed] at shallow trees
    have fits : (Except.error e : Except Error (List Node)) ≠ .error (.tooDeep limit) := by
      rintro ⟨⟩
      exact shallow rfl
    rw [trees fits]
  | ok nodes =>
    rw [parsed] at shallow trees
    rw [trees nofun]
    dsimp only at shallow ⊢
    have goes : ∀ stop, stop = .error (.tooDeep limit) →
        (evaluateAll ⟨limit, w.hosts, w.now⟩ fuel (innerScope s w) nodes
          { store := innerStore s w bindings }).1 ≠ .error stop := by
      rintro stop rfl stopped
      rw [stopped] at shallow
      exact shallow rfl
    rw [evaluateAll_raise le fuel _ nodes _ goes]

/-- A call of a function literal just fits under a limit of four, its own height. -/
theorem evaluate_raise_closure :
    (evaluate 9 0 "({x (+ x 1)} 2)" [] (standard.setLimit 4, { now := ⟨0, 0, 0⟩ })).1 ≠
        .error (.error (.tooDeep 4)) ∧
      (evaluate 9 0 "({x (+ x 1)} 2)" [] (standard.setLimit 256, { now := ⟨0, 0, 0⟩ })).1 =
        (evaluate 9 0 "({x (+ x 1)} 2)" [] (standard.setLimit 4, { now := ⟨0, 0, 0⟩ })).1 := by
  have succeeds : (evaluate 9 0 "({x (+ x 1)} 2)" []
      (standard.setLimit 4, { now := ⟨0, 0, 0⟩ })).1.isOk = true := by decide +kernel
  have shallow : (evaluate 9 0 "({x (+ x 1)} 2)" []
      (standard.setLimit 4, { now := ⟨0, 0, 0⟩ })).1 ≠ .error (.error (.tooDeep 4)) := by
    intro failed
    rw [failed] at succeeds
    cases succeeds
  exact ⟨shallow, evaluate_raise (by decide) standard _ 9 0 _ [] shallow⟩

end Bracket.Session
