import RuleEngine.Compiled
import RuleEngine.Pattern

/-!
# Caches

A cache keeps what was made from a text, so that it is made once. It never
drops or replaces an entry; when it is full, what is made is still handed out
but not kept. What could not be made is not kept either.
-/

namespace RuleEngine

/-- Results under the texts that they were made from, in the order they were
    stored, at most `capacity` of them. -/
structure Cache (α : Type) where
  capacity : Nat
  /-- The slots that are taken. -/
  used : Nat
  entries : List (String × α)

namespace Cache

variable {α : Type}

/-- The cache with nothing in it. -/
def empty (capacity : Nat) : Cache α := ⟨capacity, 0, []⟩

/-- How many entries there are. -/
def size (cache : Cache α) : Nat :=
  cache.entries.length

/-- The result stored for a text. -/
def get? (cache : Cache α) (text : String) : Option α :=
  (cache.entries.find? fun entry => entry.1 = text).map (·.2)

/-- Takes a slot for a result, if one is free, and gives it back if the text has
    an entry. The result handed out is the one that the cache then has, if any. -/
def insert (cache : Cache α) (text : String) (result : α) : α × Cache α :=
  if cache.used < cache.capacity then
    match cache.get? text with
    | some old => (old, cache)
    | none =>
      (result, { cache with used := cache.used + 1, entries := cache.entries ++ [(text, result)] })
  else ((cache.get? text).getD result, cache)

/-- The result for a text: the one stored, or one made now. -/
def fetch (cache : Cache α) (make : String → Except Error α) (text : String) :
    Except Error α × Cache α :=
  match cache.get? text with
  | some result => (.ok result, cache)
  | none =>
    match make text with
    | .error e => (.error e, cache)
    | .ok result =>
      let (kept, cache) := cache.insert text result
      (.ok kept, cache)

/-- Gives back the slots of all entries. -/
def clear (cache : Cache α) : Cache α :=
  { cache with used := cache.used - cache.entries.length, entries := [] }

end Cache

/-- What an engine keeps: rules found in strings, and patterns. -/
structure Caches where
  expressions : Cache Compiled
  patterns : Cache Pattern

namespace Caches

/-- Both caches with nothing in them, each with the same capacity. -/
def empty (capacity : Nat) : Caches :=
  ⟨Cache.empty capacity, Cache.empty capacity⟩

/-- The compiled rule of a text. -/
def expression (caches : Caches) (scope : Scope) (config : Config) (source : String) :
    Except Error Compiled × Caches :=
  let (result, expressions) :=
    caches.expressions.fetch (Compiled.ofSource scope config.maxDepth) source
  (result, { caches with expressions := expressions })

/-- The pattern of a text. -/
def pattern (caches : Caches) (config : Config) (text : String) :
    Except Error Pattern × Caches :=
  let (result, patterns) := caches.patterns.fetch (Pattern.build config) text
  (result, { caches with patterns := patterns })

/-- Clears both caches. -/
def clear (caches : Caches) : Caches :=
  ⟨caches.expressions.clear, caches.patterns.clear⟩

end Caches

end RuleEngine
