import Bracket.Evaluator.Basic
import Bracket.Node.Parser
import Bracket.Stats
import Bracket.Token.Lexicon

/-!
Sessions: a lexicon, a library of functions and a limit of nesting, with the means to tokenize,
parse and evaluate texts by them. A session remembers the tokens and trees of texts it has seen and
the scope of its library, and forgets them when what they depend on changes.
-/

namespace Bracket

/-- What all sessions of a host share: the store, the functions of the host and the time of
day. -/
structure World where
  store : Store := {}
  hosts : List HostFunction := []
  now : Date

/-- The default levels of the registries of a session. -/
structure Defaults where
  nests : List (String × Recognizer)
  primitives : List (String × Recognizer)
  identifiers : List (String × Recognizer)
  keywords : List (String × KeywordRecognizer)
  functions : List (String × Value)

/-- The standard recognizers, keywords and library. -/
def Defaults.standard : Defaults where
  nests := Lexicon.standardNests
  primitives := Lexicon.standardPrimitives
  identifiers := Lexicon.standardIdentifiers
  keywords := Lexicon.standardKeywords
  functions := Builtin.library

structure Session where
  lexicon : Lexicon
  functions : Registry Value
  limit : Nat := Evaluator.defaultLimit
  stats : Stats := {}
  /-- The tokens of texts, as the lexicon gives them. -/
  tokens : Table (List Token) := []
  /-- The trees of texts, as the lexicon and the limit give them. -/
  trees : Table (List Node) := []
  /-- The scope that holds the functions. -/
  library : Option Scope := none

/-- The tiers of a lexicon. -/
inductive Tier where
  | nests
  | primitives
  | identifiers

def Lexicon.tier (lexicon : Lexicon) : Tier → Registry Recognizer
  | .nests => lexicon.nests
  | .primitives => lexicon.primitives
  | .identifiers => lexicon.identifiers

def Lexicon.setTier (lexicon : Lexicon) (tier : Tier) (r : Registry Recognizer) : Lexicon :=
  match tier with
  | .nests => { lexicon with nests := r }
  | .primitives => { lexicon with primitives := r }
  | .identifiers => { lexicon with identifiers := r }

namespace Session

/-- A new session over the given defaults. -/
def ofDefaults (d : Defaults) : Session where
  lexicon := ⟨⟨d.nests, []⟩, ⟨d.primitives, []⟩, ⟨d.identifiers, []⟩, ⟨d.keywords, []⟩⟩
  functions := ⟨d.functions, []⟩

def standard : Session := ofDefaults .standard

/-! ### Changes -/

/-- Forgets the tokens and trees of all texts. -/
def forgetTexts (s : Session) : Session := { s with tokens := [], trees := [] }

/-- Sets how tall trees may be and how deeply expressions may nest. -/
def setLimit (s : Session) (limit : Nat) : Session := { s.forgetTexts with limit }

/-- Adds or replaces a recognizer of a tier, with what it replaced. -/
def insertRecognizer (s : Session) (tier : Tier) (name : String) (r : Recognizer) :
    Option Recognizer × Session :=
  let (replaced, entries) := (s.lexicon.tier tier).insert name r
  (replaced, { s.forgetTexts with lexicon := s.lexicon.setTier tier entries })

def removeRecognizer (s : Session) (tier : Tier) (name : String) : Option Recognizer × Session :=
  let (removed, entries) := (s.lexicon.tier tier).remove name
  (removed, { s.forgetTexts with lexicon := s.lexicon.setTier tier entries })

/-- Adds or replaces a keyword, with what it replaced. -/
def insertKeyword (s : Session) (name : String) (k : KeywordRecognizer) :
    Option KeywordRecognizer × Session :=
  let (replaced, keywords) := s.lexicon.keywords.insert name k
  (replaced, { s.forgetTexts with lexicon := { s.lexicon with keywords } })

def removeKeyword (s : Session) (name : String) : Option KeywordRecognizer × Session :=
  let (removed, keywords) := s.lexicon.keywords.remove name
  (removed, { s.forgetTexts with lexicon := { s.lexicon with keywords } })

/-- Adds or replaces a function, with what it replaced. -/
def insertFunction (s : Session) (name : String) (f : Value) : Option Value × Session :=
  let (replaced, functions) := s.functions.insert name f
  (replaced, { s with functions, library := none })

def removeFunction (s : Session) (name : String) : Option Value × Session :=
  let (removed, functions) := s.functions.remove name
  (removed, { s with functions, library := none })

end Session

/-- Takes a function of the host in, as a value with properties of its own. -/
def World.hostFunction (w : World) (name : String) (f : HostFunction)
    (properties : Table Value) : Value × World :=
  let (id, store) := w.store.reserve 1
  (.function id (.native name (.host w.hosts.length) properties),
    { w with store, hosts := w.hosts ++ [f] })

namespace Session

/-! ### Evaluation -/

/-- What a session does in a world; both keep what was changed when it stops short. -/
abbrev Run := ExceptT Stop (StateM (Session × World))

/-- The tokens of a text, remembered. -/
def tokenize (text : String) : Run (List Token) := fun (s, w) =>
  match s.tokens.get? text with
  | some tokens => (.ok tokens, s, w)
  | none =>
    match s.lexicon.tokenize text with
    | .error e => (.error (.error e), s, w)
    | .ok tokens => (.ok tokens, { s with tokens := s.tokens.insert text tokens }, w)

/-- The trees of tokens. -/
def parse (tokens : List Token) : Run (List Node) := fun (s, w) =>
  match Node.ofTokens s.limit tokens with
  | .error e => (.error (.error e), s, w)
  | .ok nodes => (.ok nodes, s, w)

/-- The trees of a text, remembered. -/
def tree (text : String) : Run (List Node) := do
  let (s, _) ← get
  match s.trees.get? text with
  | some nodes => return nodes
  | none =>
    let nodes ← parse (← tokenize text)
    modify fun (s, w) => ({ s with trees := s.trees.insert text nodes }, w)
    return nodes

/-- The scope of the library, made once for the functions as they are. -/
def libraryScope : Run Scope := fun (s, w) =>
  match s.library with
  | some scope => (.ok scope, s, w)
  | none =>
    let (scope, store) := w.store.newScope none
    let store := store.assignAll scope s.functions.toList
    (.ok scope, { s with library := some scope }, { w with store })

/-- A scope inside that of the library, with the variables of the host. -/
def scopeWith (bindings : Table Value) : Run Scope := do
  let library ← libraryScope
  modifyGet fun (s, w) =>
    let (scope, store) := w.store.newScope (some library)
    (scope, s, { w with store := store.assignAll scope bindings })

/-- Runs an evaluation in the world of the session, within its limit. -/
def evaluating {α : Type} (f : Evaluator.Setting → Evaluator.Eval α) : Run α := fun (s, w) =>
  let (result, after) := f ⟨s.limit, w.hosts, w.now⟩ { store := w.store }
  (result, s, { w with store := after.store })

/-- The top-level expressions of a text with their values. -/
def compute (fuel : Nat) (text : String) (bindings : Table Value) : Run (List (Node × Value)) := do
  let nodes ← tree text
  let scope ← scopeWith bindings
  let values ← evaluating fun setting => Evaluator.evaluateAll setting fuel scope nodes
  return nodes.zip values

/-- Counts a successful evaluation of a text and the time that it took. -/
def record (text : String) (elapsed : Nat) : Run Unit :=
  modify fun (s, w) => ({ s with stats := s.stats.record text elapsed }, w)

/-- The top-level expressions of a text with their values. Success is recorded with the time that
it took, which whoever measures it supplies. -/
def evaluateNodes (fuel elapsed : Nat) (text : String) (bindings : Table Value) :
    Run (List (Node × Value)) := do
  let evaluated ← compute fuel text bindings
  record text elapsed
  return evaluated

/-- The value of the last expression of a text, undefined if there is none. -/
def evaluate (fuel elapsed : Nat) (text : String) (bindings : Table Value) : Run Value := do
  let evaluated ← evaluateNodes fuel elapsed text bindings
  return (evaluated.getLast?.map Prod.snd).getD .undefined

/-- Calls a function on values, for the host. -/
def callWith (fuel : Nat) (f : Value) (values : List Value) : Run Value := do
  let scope ← scopeWith []
  evaluating fun setting => Evaluator.callWith setting fuel f scope values none

end Session

end Bracket
