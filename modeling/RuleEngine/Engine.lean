import RuleEngine.Eval
import RuleEngine.Function.Builtin
import RuleEngine.Record.Serial

/-!
# The engine

An engine holds a registry, the settings, and what evaluation keeps. Rules are
compiled and evaluated by an engine, one after the other. Functions can be added
to it at any time between two evaluations, and stay in it.
-/

namespace RuleEngine

/-- A rule engine. -/
structure Engine where
  registry : Registry
  config : Config
  session : Session

namespace Engine

/-- An engine over a registry, with nothing kept yet. -/
def ofRegistry (registry : Registry) (config : Config) : Engine :=
  ⟨registry, config, ⟨Caches.empty config.cacheCapacity, []⟩⟩

/-- An engine with the built-in functions. -/
def ofConfig (config : Config) : Engine :=
  ofRegistry Registry.builtin config

/-- What the rules of an engine are evaluated by. -/
def environment (engine : Engine) : Environment :=
  ⟨engine.registry, engine.config⟩

/-- The functions as rules see them now. -/
def scope (engine : Engine) : Scope :=
  engine.environment.scope

/-- Adds a function under a name that is not taken. -/
def register (engine : Engine) (name : String) (function : Function) : Except Error Engine := do
  let registry ← engine.registry.register name function
  return { engine with registry := registry }

/-- Compiles a rule by the functions that the engine has now. -/
def compile (engine : Engine) (source : String) : Except Error Compiled :=
  Compiled.ofSource engine.scope engine.config.maxDepth source

/-- Compiles a rule that is to be a condition. -/
def compilePredicate (engine : Engine) (source : String) : Except Error Compiled :=
  Compiled.ofPredicate engine.scope engine.config.maxDepth source

/-- The value of a rule on a record, and the engine afterwards. -/
def evaluate (engine : Engine) (rule : Compiled) (record : Record) :
    Except Error Value × Engine :=
  let (result, session) := (Expr.eval engine.environment rule.root record).run engine.session
  (result, { engine with session := session })

/-- Whether a rule holds of a record. -/
def evaluateRecord (engine : Engine) (rule : Compiled) (record : Record) :
    Except Error Bool × Engine :=
  let (result, engine) := engine.evaluate rule record
  (result.bind (Value.truth (.conditionOf rule.source)), engine)

theorem evaluateRecord_fst (engine : Engine) (rule : Compiled) (record : Record) :
    (engine.evaluateRecord rule record).1 =
      (engine.evaluate rule record).1.bind (Value.truth (.conditionOf rule.source)) := rfl

/-- Whether a rule holds of a record that is extracted from something else. -/
def evaluateExtracted (engine : Engine) (rule : Compiled) (extracted : Except Error Record) :
    Except Error Bool × Engine :=
  match extracted with
  | .ok record => engine.evaluateRecord rule record
  | .error e => (.error e, engine)

/-- Whether a rule holds of the record of a JSON value. -/
def evaluateJson (engine : Engine) (rule : Compiled) (json : Json) :
    Except Error Bool × Engine :=
  engine.evaluateExtracted rule (Record.ofJson json)

/-- Whether a rule holds of the record of structured data. -/
def evaluateSerial (engine : Engine) (rule : Compiled) (data : Serial) :
    Except Error Bool × Engine :=
  engine.evaluateExtracted rule (Record.ofSerial data)

/-- Forgets the compiled rules and patterns; the functions stay. -/
def clearCaches (engine : Engine) : Engine :=
  { engine with session := { engine.session with caches := engine.session.caches.clear } }

/-- The calls noted so far, the last one first, and the engine with none. -/
def takeJournal (engine : Engine) : List Call × Engine :=
  (engine.session.journal,
    { engine with session := { engine.session with journal := [] } })

end Engine

end RuleEngine
