import Bracket.Proofs.Likeness.Value

/-!
Resemblance: when two values show no difference. Values resemble each other if they are built up in
the same way from the same texts, numbers and dates, and their functions have the same name, or the
same parameters and body; which numbers the parts have, and where closures were made, does not
matter.
Main statement: values that are alike to one and the same value resemble each other.
-/

namespace Bracket

mutual

/-- The values are built up in the same way, as far as that shows. -/
inductive Value.Resembles : Value → Value → Prop
  | undefined : Value.Resembles .undefined .undefined
  | null : Value.Resembles .null .null
  | bool (b : Bool) : Value.Resembles (.bool b) (.bool b)
  | number (n : Number) : Value.Resembles (.number n) (.number n)
  | string (s : String) : Value.Resembles (.string s) (.string s)
  | array {id id' : Nat} {items items' : List Value}
      (each : List.Forall₂ Value.Resembles items items') :
      Value.Resembles (.array id items) (.array id' items')
  | object {id id' : Nat} {entries entries' : List (String × Value)}
      (each : List.Forall₂ Entry.Resembles entries entries') :
      Value.Resembles (.object id entries) (.object id' entries')
  | function {id id' : Nat} {procedure procedure' : Procedure}
      (same : Procedure.Resembles procedure procedure') :
      Value.Resembles (.function id procedure) (.function id' procedure')
  | date (d : Date) : Value.Resembles (.date d) (.date d)

/-- The entries have the same key, and values that resemble each other. -/
inductive Entry.Resembles : String × Value → String × Value → Prop
  | mk (key : String) {v v' : Value} (same : Value.Resembles v v') :
      Entry.Resembles (key, v) (key, v')

/-- Closures have the same parameters and body, native procedures the same name, code and
properties. -/
inductive Procedure.Resembles : Procedure → Procedure → Prop
  | closure (params : List String) (body : Option Node) {env env' : Scope} :
      Procedure.Resembles (.closure params body env) (.closure params body env')
  | native (name : String) {code code' : Code} {properties properties' : List (String × Value)}
      (same : Code.Resembles code code')
      (each : List.Forall₂ Entry.Resembles properties properties') :
      Procedure.Resembles (.native name code properties) (.native name code' properties')

inductive Code.Resembles : Code → Code → Prop
  | builtin (b : Builtin) : Code.Resembles (.builtin b) (.builtin b)
  | bound {f f' : Value} {values values' : List Value} (function : Value.Resembles f f')
      (each : List.Forall₂ Value.Resembles values values') :
      Code.Resembles (.bound f values) (.bound f' values')
  | flipped {f f' : Value} {values values' : List Value} (function : Value.Resembles f f')
      (each : List.Forall₂ Value.Resembles values values') :
      Code.Resembles (.flipped f values) (.flipped f' values')
  | chained {functions functions' : List Value}
      (each : List.Forall₂ Value.Resembles functions functions') :
      Code.Resembles (.chained functions) (.chained functions')
  | host (index : Nat) : Code.Resembles (.host index) (.host index)

end

/-- Closures that belong together have the very same body. -/
def Likeness.KeepsBodies (C : Likeness) : Prop :=
  ∀ {body body' : Option Node} {scope scope' : Scope},
    C.closures body scope body' scope' → body' = body

variable {C D : Likeness}

mutual

/-- What is alike to the same value resembles each other. -/
theorem Value.Like.resembles (keeps : C.KeepsBodies) (keeps' : D.KeepsBodies) {v w u : Value} :
    v.Like C w → v.Like D u → w.Resembles u
  | .undefined, .undefined => .undefined
  | .null, .null => .null
  | .bool b, .bool _ => .bool b
  | .number n, .number _ => .number n
  | .string s, .string _ => .string s
  | .array _ each, .array _ each' => .array (Value.LikeAll.resembles keeps keeps' each each')
  | .object _ each, .object _ each' => .object (Table.Like.resembles keeps keeps' each each')
  | .function _ alike, .function _ alike' => .function (alike.resembles keeps keeps' alike')
  | .date d, .date _ => .date d

theorem Value.LikeAll.resembles (keeps : C.KeepsBodies) (keeps' : D.KeepsBodies)
    {vs ws us : List Value} : Value.LikeAll C vs ws → Value.LikeAll D vs us →
      List.Forall₂ Value.Resembles ws us
  | .nil, .nil => .nil
  | .cons first rest, .cons first' rest' =>
    .cons (first.resembles keeps keeps' first') (Value.LikeAll.resembles keeps keeps' rest rest')

theorem Table.Like.resembles (keeps : C.KeepsBodies) (keeps' : D.KeepsBodies)
    {t u w : Table Value} : Table.Like C t u → Table.Like D t w →
      List.Forall₂ Entry.Resembles u w
  | .nil, .nil => .nil
  | .cons (.mk key alike) rest, .cons (.mk _ alike') rest' =>
    .cons (.mk key (alike.resembles keeps keeps' alike'))
      (Table.Like.resembles keeps keeps' rest rest')

theorem Procedure.Like.resembles (keeps : C.KeepsBodies) (keeps' : D.KeepsBodies)
    {p q r : Procedure} : p.Like C q → p.Like D r → q.Resembles r
  | .closure params same, .closure _ same' => by
    obtain rfl := keeps same
    obtain rfl := keeps' same'
    exact .closure params _
  | .native name alike each, .native _ alike' each' =>
    .native name (alike.resembles keeps keeps' alike')
      (Table.Like.resembles keeps keeps' each each')

theorem Code.Like.resembles (keeps : C.KeepsBodies) (keeps' : D.KeepsBodies) {c d e : Code} :
    c.Like C d → c.Like D e → d.Resembles e
  | .builtin b, .builtin _ => .builtin b
  | .bound function each, .bound function' each' =>
    .bound (function.resembles keeps keeps' function')
      (Value.LikeAll.resembles keeps keeps' each each')
  | .flipped function each, .flipped function' each' =>
    .flipped (function.resembles keeps keeps' function')
      (Value.LikeAll.resembles keeps keeps' each each')
  | .chained each, .chained each' => .chained (Value.LikeAll.resembles keeps keeps' each each')
  | .host index, .host _ => .host index

end

end Bracket
