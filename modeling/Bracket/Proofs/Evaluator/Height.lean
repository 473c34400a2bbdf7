import Bracket.Proofs.Evaluator.Failure
import Bracket.Proofs.Evaluator.Frame
import Bracket.Proofs.Evaluator.Reuse
import Bracket.Proofs.Grammar
import Bracket.Proofs.Lexical.Pairing
import Bracket.Proofs.Likeness.Library

/-!
The height of trees and the depth of their evaluation. The parser counts the levels of a tree from
its leaves up; the evaluator counts from the top down, through callees, targets and arguments that
native code asks for when it gets to them. Without closures nothing is evaluated but parts of the
tree, and every expression has used up no more levels than lie above it.
Main statement: a tree that the parser accepts is not too deep for the evaluator with the same
limit, and no part of it is evaluated deeper than the height that the parser found.
-/

namespace Bracket

/-! ### Values without closures -/

/-- Numbers belong to themselves, and no closures belong together. -/
def Likeness.unclosed : Likeness where
  ids := Eq
  closures _ _ _ _ := False
  ids_iff := Likeness.eq_iff_eq
  text_eq := False.elim

/-- There is no closure anywhere in the value: it is like itself where no closure is. -/
def Value.ClosureFree (v : Value) : Prop := v.Like .unclosed v

theorem Builtin.toValue_closureFree (b : Builtin) : b.toValue.ClosureFree := by
  refine .function rfl (.native b.name (.builtin b) ?_)
  cases b with
  | date =>
    refine .cons (.mk _ (.function rfl ?_)) .nil
    exact .native _ (.builtin .addDays) .nil
  | _ => exact .nil

namespace Node

/-- The first expression is a part of the second, or the whole. -/
inductive Within (m : Node) : Node → Prop
  | whole : Within m m
  | call (mark : Mark) {children : List Node} {child : Node} (member : child ∈ children)
      (inside : Within m child) : Within m (.call mark children)
  | function (mark : Mark) {children : List Node} {child : Node} (member : child ∈ children)
      (inside : Within m child) : Within m (.function mark children)
  | member (mark : Mark) {target : Node} (name : Mark) (inside : Within m target) :
      Within m (.member mark target name)

theorem Within.trans {m n tree : Node} (inner : m.Within n) (outer : n.Within tree) :
    m.Within tree := by
  induction outer with
  | whole => exact inner
  | call mark member _ ih => exact .call mark member ih
  | function mark member _ ih => exact .function mark member ih
  | member mark name _ ih => exact .member mark name ih

/-- The tree makes no closure: it holds no function literal, and no keyword whose value has a
closure. -/
def MakesNoClosure (tree : Node) : Prop :=
  ∀ n : Node, n.Within tree → (∀ mark children, n ≠ .function mark children) ∧
    ∀ mark v, n = .leaf mark (.keyword v) → v.ClosureFree

theorem makesNoClosure_identifier (mark : Mark) : (leaf mark .identifier).MakesNoClosure := by
  intro n within
  cases within
  exact ⟨fun _ _ => by simp, fun _ _ => by simp⟩

theorem makesNoClosure_call (mark : Mark) {children : List Node}
    (each : ∀ child ∈ children, child.MakesNoClosure) : (call mark children).MakesNoClosure := by
  intro n within
  cases within with
  | whole => exact ⟨fun _ _ => by simp, fun _ _ => by simp⟩
  | call _ member inside => exact each _ member n inside

theorem makesNoClosure_member (mark name : Mark) {target : Node} (bare : target.MakesNoClosure) :
    (member mark target name).MakesNoClosure := by
  intro n within
  cases within with
  | whole => exact ⟨fun _ _ => by simp, fun _ _ => by simp⟩
  | member _ _ inside => exact bare n inside

theorem height_pos (n : Node) : 0 < n.height := by
  cases n <;> exact Nat.succ_pos _

end Node

/-! ### Scopes that see no closures -/

/-- No variable that the scope sees holds a closure. -/
def Store.SeesNoClosure (st : Store) (scope : Scope) : Prop :=
  ∀ name v, st.get? scope name = some v → v.ClosureFree

/-- The variables of the second store are those of the first. -/
def Store.Unwritten (st st' : Store) : Prop := ∀ level, st'.locals level = st.locals level

variable {st st' : Store}

theorem Store.Unwritten.get? (same : st.Unwritten st') (scope : Scope) (name : String) :
    st'.get? scope name = st.get? scope name :=
  Store.get?_congr (fun level _ => same level) name

theorem Store.Unwritten.newScope (same : st.Unwritten st') (outer : Option Scope) :
    st.Unwritten (st'.newScope outer).2 := by
  intro level
  rw [Store.locals_newScope_eq]
  exact same level

/-- A new scope sees what the scope around it sees. -/
theorem Store.SeesNoClosure.newScope {outer : Scope} (clear : st.SeesNoClosure outer)
    (same : st.Unwritten st') : st.SeesNoClosure (st'.newScope (some outer)).1 := by
  intro name v found
  rw [← (same.newScope (some outer)).get?, Store.get?_newScope, same.get?] at found
  exact clear name v found

namespace Evaluator

variable {α : Type} {tree : Node} {levels limit : Nat} {now : Date}

/-! ### What a tree comes to -/

/-- The expression is a part of the tree with at most so many levels, and its scope sees no
closure. -/
structure Stays (st : Store) (tree : Node) (levels : Nat) (n : Node) (scope : Scope) : Prop where
  within : n.Within tree
  low : n.height ≤ levels
  clear : st.SeesNoClosure scope

/-- Every expression takes up a level. -/
theorem Stays.exists_lower {n : Node} {scope : Scope} (stays : Stays st tree levels n scope) :
    ∃ lower, levels = lower + 1 := by
  have used := n.height_pos
  have low := stays.low
  exact ⟨levels - 1, by omega⟩

/-- The task is about parts of the tree with at most so many levels, and about values without
closures. -/
def Task.Stays (st : Store) (tree : Node) (levels : Nat) : Task → Prop
  | .node n scope => Evaluator.Stays st tree levels n scope
  | .call f made => f.ClosureFree ∧
    (∀ n, .node n ∈ made.arguments → Evaluator.Stays st tree levels n made.scope) ∧
    ∀ v, .value v ∈ made.arguments → v.ClosureFree

/-- The plan has such parts only, writes no variable and does not fail for the depth by itself. Its
parts may have any value without closures. -/
def Plan.Stays (st : Store) (tree : Node) (levels : Nat) (P : α → Prop) : Plan α → Prop
  | .done a => P a
  | .fail e => ∀ limit, e ≠ .tooDeep limit
  | .part t next => t.Stays st tree levels ∧ ∀ v : Value, v.ClosureFree →
    (next v).Stays st tree levels P
  | .reserve _ next => ∀ id, (next id).Stays st tree levels P
  | .nested outer next => st.SeesNoClosure outer ∧ ∀ scope, st.SeesNoClosure scope →
    (next scope).Stays st tree levels P
  | .assign _ _ _ _ => False
  | .lookup scope _ next => st.SeesNoClosure scope ∧ ∀ found : Option Value,
    (∀ v, found = some v → v.ClosureFree) → (next found).Stays st tree levels P

/-- Native code without closures asks for its arguments and calls functions without closures. -/
theorem Plan.stays_ofRoutine {setting : Setting} {call : Call} {R : Likeness → α → α → Prop}
    (arguments : ∀ n, .node n ∈ call.arguments → Evaluator.Stays st tree levels n call.scope)
    (values : ∀ v, .value v ∈ call.arguments → v.ClosureFree) {r : Routine α}
    (alike : r.Alike R .unclosed r) (fails : r.FailsByArguments) :
    (Plan.ofRoutine setting call r).Stays st tree levels fun a => R .unclosed a a := by
  induction r with
  | done a =>
    cases alike with
    | done related => exact related
  | fail e =>
    intro limit tooDeep
    rw [tooDeep] at fails
    exact fails
  | ask request next ih =>
    cases alike with
    | @argument _ position next _ later =>
      have goes (v : Value) (free : v.ClosureFree) :
          (Plan.ofRoutine setting call (next v)).Stays st tree levels fun a => R .unclosed a a :=
        ih v (later _ (Likeness.le_refl _) v v free) (fails v)
      rw [Plan.ofRoutine_argument]
      cases found : call.arguments[position]? with
      | none => exact goes .undefined .undefined
      | some argument =>
        have member := List.mem_of_getElem? found
        cases argument with
        | node n => exact ⟨arguments n member, goes⟩
        | value v => exact goes v (values v member)
    | invoke function given later =>
      refine ⟨⟨function, ?_, ?_⟩, fun v free => ?_⟩
      · intro n member
        simp at member
      · intro v member
        obtain ⟨w, inside, same⟩ := List.mem_map.mp member
        obtain rfl := Argument.value.inj same
        exact List.forall₂_same.mp given w inside
      · exact ih v (later _ (Likeness.le_refl _) v v free) (fails v)
    | reserve count later =>
      exact fun id => ih id (later _ (Likeness.le_refl _) id id fun _ _ => rfl) (fails id)
    | now later => exact ih setting.now (later setting.now) (fails setting.now)

theorem Plan.stays_ofGroup {callee : Node} {rest : List Node} {f : Value} (free : f.ClosureFree) :
    (Plan.ofGroup callee rest f).Stays st tree levels Value.ClosureFree := by
  unfold Plan.ofGroup
  split
  · exact free
  · exact fun _ => by simp

/-- The arguments of a call wait until native code asks for them. -/
theorem Plan.stays_ofCallee {node callee : Node} {rest : List Node} {scope : Scope} {f : Value}
    (arguments : ∀ n ∈ rest, Evaluator.Stays st tree levels n scope)
    (clear : st.SeesNoClosure scope) (free : f.ClosureFree) :
    (Plan.ofCallee node callee rest scope f).Stays st tree levels Value.ClosureFree := by
  have other : (Plan.ofOther callee rest scope f).Stays st tree levels Value.ClosureFree := by
    unfold Plan.ofOther
    split
    · refine ⟨clear, fun found _ => ?_⟩
      dsimp only
      split
      · exact stays_ofGroup free
      · exact fun _ => by simp
    · exact stays_ofGroup free
  cases f with
  | function id procedure =>
    refine ⟨⟨free, ?_, ?_⟩, fun v valued => valued⟩
    · intro n member
      exact arguments n (by simpa using member)
    · intro v member
      simp at member
  | _ => exact other

/-- What an expression comes to is one level lower in the tree. -/
theorem Plan.stays_ofNode {n : Node} {scope : Scope} (bare : tree.MakesNoClosure)
    (stays : Evaluator.Stays st tree (levels + 1) n scope) :
    (Plan.ofNode scope n).Stays st tree levels Value.ClosureFree := by
  obtain ⟨within, low, clear⟩ := stays
  cases n with
  | leaf mark literal =>
    cases literal with
    | identifier =>
      refine ⟨clear, fun found free => ?_⟩
      cases found with
      | none => exact Value.Like.undefined
      | some v => exact free v rfl
    | keyword v => exact (bare _ within).2 mark v rfl
    | string s => exact Value.Like.string s
    | number n => exact Value.Like.number n
    | boolean b => exact Value.Like.bool b
    | null => exact Value.Like.null
    | undefined => exact Value.Like.undefined
  | function mark children => exact absurd rfl ((bare _ within).1 mark children)
  | member mark target name =>
    refine ⟨⟨.trans (.member mark name .whole) within, Nat.le_of_succ_le_succ low, clear⟩, ?_⟩
    exact fun v free => Value.Like.getD (Value.Like.property? free name.text)
  | call mark children =>
    cases children with
    | nil => exact fun _ => by simp
    | cons callee rest =>
      have child (inner : Scope) (seen : st.SeesNoClosure inner) :
          ∀ n ∈ callee :: rest, Evaluator.Stays st tree levels n inner := by
        intro n member
        refine ⟨.trans (.call mark member .whole) within, ?_, seen⟩
        exact Nat.le_trans (Node.height_le_tallest member) (Nat.le_of_succ_le_succ low)
      refine ⟨clear, fun inner seen => ⟨child inner seen callee List.mem_cons_self, ?_⟩⟩
      intro f free
      have arguments : ∀ n ∈ rest, Evaluator.Stays st tree levels n inner :=
        fun n member => child inner seen n (List.mem_cons_of_mem callee member)
      exact stays_ofCallee arguments seen free

/-- What a call comes to is no lower in the tree than the call. -/
theorem Task.stays_call {f : Value} {call : Call}
    (stays : (Task.call f call).Stays st tree levels) :
    ((Task.call f call).plan (.standard limit now)).Stays st tree levels Value.ClosureFree := by
  obtain ⟨free, arguments, values⟩ := stays
  cases free with
  | function _ procedure =>
    cases procedure with
    | closure _ same => exact absurd same id
    | @native name code _ properties _ alike _ =>
      have uniform : (code.routine [] call).Alike Value.Like .unclosed (code.routine [] call) :=
        Code.routine_alike (fun _ member => absurd member List.not_mem_nil) alike ⟨rfl, rfl⟩
      exact Plan.stays_ofRoutine arguments values uniform (code.routine_fails call)
  | _ => exact fun _ => by simp

/-! ### No part of the tree is too deep -/

/-- The outcome is not that something was too deep, a result is as wanted, and no variable was
written. -/
structure Keeps (st : Store) (P : α → Prop) (x : Except Stop α × State) : Prop where
  unwritten : st.Unwritten x.2.store
  result : ∀ a, x.1 = .ok a → P a
  shallow : ∀ limit, x.1 ≠ .error (.error (.tooDeep limit))

/-- Where the levels that are left suffice for every part, they suffice for the plan. -/
theorem Plan.Stays.run {evaluate : Task → Eval Value} {P : α → Prop}
    (depth : ∀ t s, (evaluate t s).2.depth = s.depth)
    (part : ∀ {t : Task} {s : State}, t.Stays st tree levels → st.Unwritten s.store →
      s.depth + levels ≤ limit → Keeps st Value.ClosureFree (evaluate t s))
    {plan : Plan α} (stays : plan.Stays st tree levels P) {s : State}
    (same : st.Unwritten s.store) (room : s.depth + levels ≤ limit) :
    Keeps st P (plan.run evaluate s) := by
  induction plan generalizing s with
  | done a => exact ⟨same, fun _ equal => Except.ok.inj equal ▸ stays, fun _ => by simp [Plan.run]⟩
  | fail e =>
    refine ⟨same, fun _ => by simp [Plan.run], fun limit equal => ?_⟩
    exact stays limit (Stop.error.inj (Except.error.inj equal))
  | part t next ih =>
    have first := part stays.1 same room
    have restored := depth t s
    rw [Plan.run]
    revert first restored
    generalize evaluate t s = outcome
    obtain ⟨result, after⟩ := outcome
    intro first restored
    cases result with
    | error stop =>
      refine ⟨first.unwritten, fun _ => by simp, fun limit equal => ?_⟩
      exact first.shallow limit (congrArg Except.error (Except.error.inj equal))
    | ok v => exact ih v (stays.2 v (first.result v rfl)) first.unwritten (restored ▸ room)
  | reserve count next ih => exact ih _ (stays _) same room
  | nested outer next ih =>
    exact ih _ (stays.2 _ (stays.1.newScope same)) (same.newScope (some outer)) room
  | assign => exact absurd stays id
  | lookup scope name next ih =>
    refine ih _ (stays.2 _ fun v found => stays.1 name v ?_) same room
    rwa [same.get?] at found

/-- A task within the levels that are left is not too deep, and has a value without closures. -/
theorem Task.Stays.perform (bare : tree.MakesNoClosure) (now : Date) (fuel : Nat) {t : Task}
    {s : State} (stays : t.Stays st tree levels) (same : st.Unwritten s.store)
    (room : s.depth + levels ≤ limit) :
    Keeps st Value.ClosureFree (Evaluator.perform (.standard limit now) fuel t s) := by
  induction fuel generalizing t s levels with
  | zero =>
    show Keeps st _ (.error .outOfFuel, s)
    exact ⟨same, fun _ => by simp, fun _ => by simp⟩
  | succ fuel ih =>
    rw [perform_succ]
    have depth := perform_depth (.standard limit now) fuel
    cases t with
    | call f call =>
      obtain ⟨unwritten, result, shallow⟩ := (Task.stays_call stays).run depth ih same room
      exact ⟨unwritten, result, shallow⟩
    | node n scope =>
      -- the expression has a level of its own, so that there is one less for its parts
      obtain ⟨lower, rfl⟩ := Evaluator.Stays.exists_lower stays
      have fits : ¬ limit < s.depth + 1 := by omega
      have parts := Plan.stays_ofNode bare stays
      simp only [Task.enter, if_neg fits]
      obtain ⟨unwritten, result, shallow⟩ :=
        parts.run depth ih (s := { s with depth := s.depth + 1 }) same (by simp only; omega)
      exact ⟨unwritten, result, shallow⟩

/-! ### Jobs and the levels above them -/

/-- A plan comes to parts of the tree, at its own depth. -/
theorem Plan.Stays.asks {P : α → Prop} (bare : tree.MakesNoClosure) {plan : Plan α}
    (stays : plan.Stays st tree levels P) {s : State} (same : st.Unwritten s.store)
    (room : s.depth + levels ≤ limit) {job : Job}
    (asks : plan.Asks (.standard limit now) s job) :
    job.1.Stays st tree levels ∧ st.Unwritten job.2.store := by
  induction asks with
  | here => exact ⟨stays.1, same⟩
  | @behind t next s after v fuel job valued _ ih =>
    have first := stays.1.perform bare now fuel same room
    have restored := perform_depth (.standard limit now) fuel t s
    rw [valued] at first restored
    exact ih (stays.2 v (first.result v rfl)) first.unwritten (restored ▸ room)
  | reserve _ ih => exact ih (stays _) same room
  | @nested outer _ _ _ _ ih =>
    exact ih (stays.2 _ (stays.1.newScope same)) (same.newScope (some outer)) room
  | assign => exact absurd stays id
  | @lookup scope name _ _ _ _ ih =>
    refine ih (stays.2 _ fun v found => stays.1 name v ?_) same room
    rwa [same.get?] at found

/-- The job is about parts of the tree whose levels, with those above them, are no more than the
tree has. -/
structure Job.Stays (st : Store) (tree : Node) (job : Job) (levels : Nat) : Prop where
  task : job.1.Stays st tree levels
  unwritten : st.Unwritten job.2.store
  room : job.2.depth + levels ≤ tree.height

/-- An expression gives up one of the levels that are left, and a call none. -/
theorem Spawns.stays (bare : tree.MakesNoClosure) (accepted : tree.height ≤ limit) {job part : Job}
    (spawns : Spawns (.standard limit now) job part) (stays : Job.Stays st tree job levels) :
    ∃ lower, Job.Stays st tree part lower := by
  obtain ⟨t, s⟩ := job
  obtain ⟨task, same, room⟩ := stays
  simp only at task same room
  cases t with
  | call f call =>
    have depth : part.2.depth = s.depth := spawns.depth_call
    obtain ⟨inner, entered, asks⟩ := spawns
    obtain rfl := Option.some.inj entered
    obtain ⟨inside, kept⟩ := (Task.stays_call task).asks bare same (room.trans accepted) asks
    exact ⟨levels, inside, kept, depth ▸ room⟩
  | node n scope =>
    obtain ⟨lower, rfl⟩ := Evaluator.Stays.exists_lower task
    have depth : part.2.depth = s.depth + 1 := spawns.depth_node.1
    obtain ⟨inner, entered, asks⟩ := spawns
    have fits : ¬ limit < s.depth + 1 := by omega
    simp only [Task.enter, if_neg fits] at entered
    obtain rfl := Option.some.inj entered
    have below : s.depth + 1 + lower ≤ limit := by omega
    obtain ⟨inside, kept⟩ := Plan.Stays.asks (s := { s with depth := s.depth + 1 }) bare
      (Plan.stays_ofNode bare task) same below asks
    exact ⟨lower, inside, kept, by omega⟩

theorem Awaits.stays (bare : tree.MakesNoClosure) (accepted : tree.height ≤ limit)
    {job part : Job} (awaits : Awaits (.standard limit now) job part)
    (stays : Job.Stays st tree job levels) : ∃ lower, Job.Stays st tree part lower := by
  induction awaits with
  | refl => exact ⟨levels, stays⟩
  | tail _ spawns ih =>
    obtain ⟨lower, inside⟩ := ih
    exact spawns.stays bare accepted inside

/-! ### Trees in order -/

/-- A tree at the start of an evaluation has all its levels. -/
theorem stays_whole {scope : Scope} (clear : st.SeesNoClosure scope) :
    (Task.node tree scope).Stays st tree tree.height :=
  ⟨.whole, Nat.le_refl _, clear⟩

theorem evaluateAll_keeps {scope : Scope} {nodes : List Node}
    (bare : ∀ n ∈ nodes, n.MakesNoClosure) (fits : Node.Bounded limit nodes)
    (clear : st.SeesNoClosure scope) (fuel : Nat) {s : State} (same : st.Unwritten s.store)
    (start : s.depth = 0) :
    Keeps st (fun _ => True) (evaluateAll (.standard limit now) fuel scope nodes s) := by
  induction nodes generalizing s with
  | nil =>
    show Keeps st _ (.ok [], s)
    exact ⟨same, fun _ _ => trivial, fun _ => by simp⟩
  | cons n rest ih =>
    have room : s.depth + n.height ≤ limit := by
      rw [start, Nat.zero_add]
      exact fits n List.mem_cons_self
    have first := (stays_whole clear).perform (bare n List.mem_cons_self) now fuel same room
    have restored := perform_depth (.standard limit now) fuel (.node n scope) s
    rw [evaluateAll, bind_apply]
    revert first restored
    generalize perform (.standard limit now) fuel (.node n scope) s = outcome
    obtain ⟨result, after⟩ := outcome
    intro first restored
    cases result with
    | error stop =>
      refine ⟨first.unwritten, fun _ _ => trivial, fun limit equal => ?_⟩
      exact first.shallow limit (congrArg Except.error (Except.error.inj equal))
    | ok v =>
      have later := ih (fun m member => bare m (List.mem_cons_of_mem n member))
        (fun m member => fits m (List.mem_cons_of_mem n member)) first.unwritten
        (restored.trans start)
      dsimp only
      rw [bind_apply]
      revert later
      generalize evaluateAll (.standard limit now) fuel scope rest after = outcome
      obtain ⟨result, last⟩ := outcome
      intro later
      cases result with
      | error stop => exact ⟨later.unwritten, fun _ _ => trivial, later.shallow⟩
      | ok vs =>
        show Keeps st _ (.ok (v :: vs), last)
        exact ⟨later.unwritten, fun _ _ => trivial, fun _ => by simp⟩

/-- Trees in order are evaluated one after the other, and what comes before one of them writes no
variable. -/
theorem stays_ofNodes {scope : Scope} {nodes : List Node} {next : List Value → Plan α}
    (bare : ∀ n ∈ nodes, n.MakesNoClosure) (fits : Node.Bounded limit nodes)
    (clear : st.SeesNoClosure scope) {s : State} (same : st.Unwritten s.store)
    (start : s.depth = 0) {job : Job}
    (last : ∀ values after, ¬ (next values).Asks (.standard limit now) after job)
    (asks : (Plan.ofNodes scope nodes next).Asks (.standard limit now) s job) :
    ∃ n ∈ nodes, job.1 = .node n scope ∧ Job.Stays st n job n.height := by
  induction nodes generalizing s next with
  | nil => exact absurd asks (last [] s)
  | cons n rest ih =>
    have room : s.depth + n.height ≤ limit := by
      rw [start, Nat.zero_add]
      exact fits n List.mem_cons_self
    cases asks with
    | here =>
      refine ⟨n, List.mem_cons_self, rfl, stays_whole clear, same, ?_⟩
      simp only [start, Nat.zero_add, Nat.le_refl]
    | @behind _ _ _ after v fuel _ valued later =>
      have first := (stays_whole clear).perform (bare n List.mem_cons_self) now fuel same room
      have restored := perform_depth (.standard limit now) fuel (.node n scope) s
      rw [valued] at first restored
      obtain ⟨m, member, found⟩ := ih (fun m member => bare m (List.mem_cons_of_mem n member))
        (fun m member => fits m (List.mem_cons_of_mem n member)) first.unwritten
        (restored.trans start) (fun values => last (v :: values)) later
      exact ⟨m, List.mem_cons_of_mem n member, found⟩

/-- Parser height and evaluator depth agree. Trees that the parser accepts under a limit, and that
make no closure, are never too deep for the evaluator with that limit, in any scope that sees no
closure and with no functions but those of the standard library. While one of them is evaluated,
every expression that is come to is a part of it, and is evaluated no deeper than the height that
the parser found for it. -/
theorem accepted_never_tooDeep {limit : Nat} {tokens : List Token} {nodes : List Node}
    (accepted : Node.ofTokens limit tokens = .ok nodes)
    (bare : ∀ n ∈ nodes, n.MakesNoClosure) {st : Store} {scope : Scope}
    (clear : st.SeesNoClosure scope) (now : Date) :
    (∀ fuel depth, (evaluateAll (.standard limit now) fuel scope nodes { store := st }).1 ≠
      .error (.error (.tooDeep depth))) ∧
    ∃ nest, Node.build limit {} tokens = .ok nest ∧
      nodes = (nest.nodes.map Node.Tall.node).reverse ∧
      ∀ first job, (Entry.expressions nodes scope).plan.Asks (.standard limit now)
          { store := st } first → Awaits (.standard limit now) first job →
        ∃ tree ∈ nest.nodes, first.1 = .node tree.node scope ∧
          ∀ n inner, job.1 = .node n inner →
            n.Within tree.node ∧ job.2.depth + 1 ≤ tree.height := by
  obtain ⟨derives, fits⟩ := Node.derives_of_ofTokens accepted
  have same : st.Unwritten st := fun _ => rfl
  refine ⟨fun fuel => (evaluateAll_keeps bare fits clear fuel same rfl).shallow, ?_⟩
  refine ⟨Node.Nest.extend {} nodes, ?_, ?_, ?_⟩
  · have built := derives.build_eq {} [] fits
    rwa [List.append_nil, Node.build] at built
  · simp only [Node.Nest.extend, List.append_nil, Node.map_node_tall, List.reverse_reverse]
  · intro first job asks awaits
    have last (values : List Value) (after : State) :
        ¬ (Plan.done values).Asks (.standard limit now) after first := by
      rintro ⟨⟩
    obtain ⟨tree, member, task, stays⟩ := stays_ofNodes bare fits clear same rfl last asks
    obtain ⟨lower, inside⟩ := awaits.stays (bare tree member) (fits tree member) stays
    refine ⟨Node.tall tree, ?_, task, ?_⟩
    · simp only [Node.Nest.extend, List.append_nil]
      exact List.mem_map_of_mem (List.mem_reverse.mpr member)
    · intro n inner expression
      obtain ⟨part, -, room⟩ := inside
      rw [expression] at part
      have used := n.height_pos
      have low := part.low
      exact ⟨part.within, by simp only [Node.tall]; omega⟩

/-- The tree of `(+ (last a).length b)` has four levels, and its evaluation takes all of them. -/
theorem accepted_never_tooDeep_exact :
    let tokens : List Token :=
      [⟨.openParen, "(", 1, 0⟩, ⟨.literal .identifier, "+", 1, 1⟩, ⟨.delimiter, " ", 1, 2⟩,
        ⟨.openParen, "(", 1, 3⟩, ⟨.literal .identifier, "last", 4, 4⟩, ⟨.delimiter, " ", 1, 8⟩,
        ⟨.literal .identifier, "a", 1, 9⟩, ⟨.closeParen, ")", 1, 10⟩, ⟨.period, ".", 1, 11⟩,
        ⟨.literal .identifier, "length", 6, 12⟩, ⟨.delimiter, " ", 1, 18⟩,
        ⟨.literal .identifier, "b", 1, 19⟩, ⟨.closeParen, ")", 1, 20⟩]
    let inner : Node :=
      .call ⟨"(", 3⟩ [.leaf ⟨"last", 4⟩ .identifier, .leaf ⟨"a", 9⟩ .identifier]
    let tree : Node :=
      .call ⟨"(", 0⟩ [.leaf ⟨"+", 1⟩ .identifier, .member ⟨".", 11⟩ inner ⟨"length", 12⟩,
        .leaf ⟨"b", 19⟩ .identifier]
    let library : State := { store := { levels := #[Builtin.library] } }
    Node.ofTokens 3 tokens = .error (.tooDeep 3) ∧ Node.ofTokens 4 tokens = .ok [tree] ∧
    (evaluateAll (.standard 3 ⟨0, 0, 0⟩) 10 ⟨0, []⟩ [tree] library).1 =
      .error (.error (.tooDeep 3)) ∧
    ∀ fuel depth, (evaluateAll (.standard 4 ⟨0, 0, 0⟩) fuel ⟨0, []⟩ [tree] library).1 ≠
      .error (.error (.tooDeep depth)) := by
  intro tokens inner tree library
  have accepted : Node.ofTokens 4 tokens = .ok [tree] := rfl
  have bare : tree.MakesNoClosure := by
    have bareInner : inner.MakesNoClosure := by
      refine Node.makesNoClosure_call _ ?_
      simp only [List.forall_mem_cons, List.not_mem_nil, false_implies, implies_true, and_true]
      exact ⟨Node.makesNoClosure_identifier _, Node.makesNoClosure_identifier _⟩
    refine Node.makesNoClosure_call _ ?_
    simp only [List.forall_mem_cons, List.not_mem_nil, false_implies, implies_true, and_true]
    exact ⟨Node.makesNoClosure_identifier _, Node.makesNoClosure_member _ _ bareInner,
      Node.makesNoClosure_identifier _⟩
  have clear : library.store.SeesNoClosure ⟨0, []⟩ := by
    intro name v found
    obtain ⟨level, member⟩ := Store.mem_of_get? found
    cases level with
    | zero =>
      obtain ⟨b, -, same⟩ := List.mem_map.mp member
      rw [← (Prod.mk.inj same).2]
      exact b.toValue_closureFree
    | succ level => simp [Store.locals, library] at member
  refine ⟨rfl, accepted, rfl, ?_⟩
  exact (accepted_never_tooDeep accepted (List.forall_mem_singleton.mpr bare) clear ⟨0, 0, 0⟩).1

end Evaluator

end Bracket
