import Mathlib.Data.List.DropRight
import RuleEngine.Proofs.Evaluation.Caching

/-!
# What caches contain

A cache keeps the first results that there is room for. So what it contains is
determined by the texts it was asked for since it was cleared: the first different
ones from which something can be made, as many as its capacity, and what is made
from them (`Cache.IsFilled`). The slots that are taken are as many as there are
entries, although they are counted apart: a slot is taken before an entry is stored
and given back when all are dropped.

This is an invariant of a cache and the texts it was asked for: it holds of the empty
cache, and it holds after the next text (`Cache.IsFilled.fetch`). From it what the
caches of an engine contain after any requests is read off
(`Caches.contents_after`).
-/

namespace RuleEngine

namespace Cache

variable {α : Type} {make : String → Except Error α} {cache : Cache α} {capacity : Nat}
  {asked : List String} {text : String}

/-! ### Texts that something can be made from -/

/-- The different texts among some from which something can be made, in the order in
    which they first occur. -/
def makeable (make : String → Except Error α) (asked : List String) : List String :=
  (asked.filter fun text => (make text).isOk).eraseDups

theorem mem_makeable {a : α} (h : make text = .ok a) :
    text ∈ makeable make asked ↔ text ∈ asked := by
  rw [makeable, List.mem_eraseDups, List.mem_filter, h]
  exact and_iff_left rfl

theorem makeable_concat_of_error {e : Error} (h : make text = .error e) :
    makeable make (asked ++ [text]) = makeable make asked := by
  simp [makeable, List.filter_append, h, Except.isOk, Except.toBool]

/-- A text that was asked for before makes no difference. -/
theorem makeable_concat_of_mem (h : text ∈ asked) :
    makeable make (asked ++ [text]) = makeable make asked := by
  cases hmake : make text with
  | error e => exact makeable_concat_of_error hmake
  | ok a =>
    rw [makeable, List.filter_append, List.eraseDups_append, List.removeAll]
    simp [makeable, h, hmake, Except.isOk, Except.toBool]

theorem makeable_concat_of_not_mem {a : α} (h : make text = .ok a) (hmem : text ∉ asked) :
    makeable make (asked ++ [text]) = makeable make asked ++ [text] := by
  rw [makeable, List.filter_append, List.eraseDups_append, List.removeAll]
  simp [makeable, hmem, h, Except.isOk, Except.toBool, List.eraseDups_cons]

/-! ### Entries -/

/-- The texts of the entries, in the order in which they were stored. -/
def texts (cache : Cache α) : List String :=
  cache.entries.map (·.1)

theorem get?_eq_none_iff : cache.get? text = none ↔ text ∉ cache.texts := by
  rw [get?, Option.map_eq_none_iff, List.find?_eq_none, texts, List.mem_map]
  simp only [decide_eq_true_eq, not_exists, not_and]

theorem mem_texts {a : α} (h : cache.get? text = some a) : text ∈ cache.texts := by
  by_contra hmem
  rw [get?_eq_none_iff.mpr hmem] at h
  cases h

theorem length_texts (cache : Cache α) : cache.texts.length = cache.size :=
  List.length_map _

/-- A result for a text without an entry is handed out, and stored if there is room. -/
theorem insert_of_none (h : cache.get? text = none) (a : α) :
    cache.insert text a =
      (a, if cache.used < cache.capacity then
        ⟨cache.capacity, cache.used + 1, cache.entries ++ [(text, a)]⟩ else cache) := by
  rw [insert, h]
  split <;> rfl

/-- A cache contains what is made from the first different texts that it was asked for,
    as many of those from which something can be made as there is room for. -/
structure IsFilled (capacity : Nat) (make : String → Except Error α) (asked : List String)
    (cache : Cache α) : Prop where
  capacity_eq : cache.capacity = capacity
  texts_eq : cache.texts = (makeable make asked).take capacity
  made : ∀ entry ∈ cache.entries, make entry.1 = .ok entry.2
  used_eq : cache.used = cache.size

theorem isFilled_empty (capacity : Nat) (make : String → Except Error α) :
    (empty capacity).IsFilled capacity make [] :=
  ⟨rfl, List.take_nil.symm, nofun, rfl⟩

namespace IsFilled

theorem size_le (h : cache.IsFilled capacity make asked) : cache.size ≤ capacity := by
  rw [← length_texts, h.texts_eq]
  exact List.length_take_le _ _

theorem clear (h : cache.IsFilled capacity make asked) : cache.clear.IsFilled capacity make [] := by
  refine ⟨h.capacity_eq, List.take_nil.symm, nofun, ?_⟩
  rw [Cache.clear, h.used_eq]
  exact Nat.sub_self _

/-- What is stored under a text is what would be made from it. -/
theorem get? (h : cache.IsFilled capacity make asked) {a : α} (ha : cache.get? text = some a) :
    make text = .ok a ∧ text ∈ asked := by
  have hholds : cache.Holds Eq make := fun entry hentry => ⟨entry.2, h.made entry hentry, rfl⟩
  obtain ⟨b, hb, rfl⟩ := hholds.get? ha
  have hmem := mem_texts ha
  rw [h.texts_eq] at hmem
  exact ⟨hb, (mem_makeable hb).mp (List.mem_of_mem_take hmem)⟩

/-- Storing what was made from a text keeps the slots and the entries in step. -/
theorem insert (h : cache.IsFilled capacity make asked) {a : α} (hget : cache.get? text = none)
    (ha : make text = .ok a) : (cache.insert text a).1 = a ∧
      (cache.insert text a).2.IsFilled capacity make (asked ++ [text]) := by
  have hmem : text ∉ (makeable make asked).take capacity :=
    h.texts_eq ▸ get?_eq_none_iff.mp hget
  have hsize : min capacity (makeable make asked).length = cache.used := by
    rw [h.used_eq, ← length_texts, h.texts_eq, List.length_take]
  rw [insert_of_none hget, h.capacity_eq]
  refine ⟨rfl, ?_⟩
  dsimp only
  split
  · next hroom =>
    -- Where there is room nothing was left out so far, so the text is new.
    have hall : (makeable make asked).take capacity = makeable make asked :=
      List.take_of_length_le (by omega)
    rw [hall, mem_makeable ha] at hmem
    have hlength : (makeable make asked ++ [text]).length ≤ capacity := by
      rw [List.length_append, List.length_singleton]
      omega
    refine ⟨rfl, ?_, ?_, ?_⟩
    · rw [makeable_concat_of_not_mem ha hmem, List.take_of_length_le hlength, ← hall, ← h.texts_eq]
      exact List.map_append
    · exact List.forall_mem_append.mpr ⟨h.made, List.forall_mem_singleton.mpr ha⟩
    · rw [h.used_eq, size, size, List.length_append, List.length_singleton]
  · next hfull =>
    -- Where there is none, the first texts are the same whether the text is new or not.
    refine ⟨h.capacity_eq, ?_, h.made, h.used_eq⟩
    rw [h.texts_eq]
    by_cases hasked : text ∈ asked
    · rw [makeable_concat_of_mem hasked]
    · rw [makeable_concat_of_not_mem ha hasked, List.take_append_of_le_length (by omega)]

/-- A text is answered as if nothing were kept, and what the cache contains goes on being
    what it was asked for. -/
theorem fetch (h : cache.IsFilled capacity make asked) (text : String) :
    (cache.fetch make text).1 = make text ∧
      (cache.fetch make text).2.IsFilled capacity make (asked ++ [text]) := by
  rw [Cache.fetch]
  cases hget : cache.get? text with
  | some a =>
    obtain ⟨ha, hmem⟩ := h.get? hget
    refine ⟨ha.symm, h.capacity_eq, ?_, h.made, h.used_eq⟩
    rw [makeable_concat_of_mem hmem, h.texts_eq]
  | none =>
    cases hmake : make text with
    | error e =>
      refine ⟨rfl, h.capacity_eq, ?_, h.made, h.used_eq⟩
      rw [makeable_concat_of_error hmake, h.texts_eq]
    | ok a =>
      obtain ⟨hkept, hfilled⟩ := h.insert hget hmake
      exact ⟨congrArg Except.ok hkept, hfilled⟩

end IsFilled

/-! ### One request -/

/-- What fails changes nothing. -/
theorem fetch_snd_of_error {e : Error} (h : (cache.fetch make text).1 = .error e) :
    (cache.fetch make text).2 = cache := by
  rw [fetch] at h ⊢
  split at h
  · cases h
  · split at h
    · rfl
    · cases h

/-- What is stored stays where it is. -/
theorem entries_prefix_fetch (cache : Cache α) (make : String → Except Error α) (text : String) :
    cache.entries <+: (cache.fetch make text).2.entries := by
  rw [fetch]
  split
  · exact List.prefix_rfl
  · next hget =>
    split
    · exact List.prefix_rfl
    · rw [insert_of_none hget]
      dsimp only
      split
      · exact List.prefix_append _ _
      · exact List.prefix_rfl

/-! ### Making results -/

/-- The result for a text, where making one has effects. -/
def fetchWith {m : Type → Type} [Monad m] (cache : Cache α) (make : String → m (Except Error α))
    (text : String) : m (Except Error α × Cache α) := do
  match cache.get? text with
  | some result => return (.ok result, cache)
  | none =>
    match ← make text with
    | .error e => return (.error e, cache)
    | .ok result =>
      let (kept, cache) := cache.insert text result
      return (.ok kept, cache)

/-- Where making a result has no effects this is what a cache does. -/
theorem fetchWith_pure (cache : Cache α) (make : String → Except Error α) (text : String) :
    Id.run (cache.fetchWith (fun text => pure (make text)) text) = cache.fetch make text := by
  rw [fetchWith, fetch]
  cases cache.get? text with
  | some result => rfl
  | none =>
    rw [pure_bind]
    cases make text <;> rfl

/-- Makes a result and notes the text. -/
def noting (make : String → Except Error α) (text : String) :
    StateM (List String) (Except Error α) := do
  modify (text :: ·)
  return make text

/-- A result is made exactly for a text that is not stored. -/
theorem run_fetchWith_noting (cache : Cache α) (make : String → Except Error α) (text : String)
    (noted : List String) : (cache.fetchWith (noting make) text).run noted =
      (cache.fetch make text, if text ∈ cache.texts then noted else text :: noted) := by
  rw [fetchWith, fetch]
  cases hget : cache.get? text with
  | some result =>
    rw [if_pos (mem_texts hget)]
    rfl
  | none =>
    rw [if_neg (get?_eq_none_iff.mp hget), noting, bind_assoc]
    cases make text <;> rfl

end Cache

/-! ### The caches of an engine -/

namespace Caches

/-- What caches can be asked. -/
inductive Request where
  | expression (source : String)
  | pattern (text : String)
  | clear
  deriving DecidableEq

namespace Request

/-- The rule that is asked for. -/
def source? : Request → Option String
  | expression source => some source
  | _ => none

/-- The pattern that is asked for. -/
def text? : Request → Option String
  | pattern text => some text
  | _ => none

/-- The requests after the last that clears the caches. -/
def sinceClear (requests : List Request) : List Request :=
  requests.rtakeWhile (· ≠ clear)

theorem sinceClear_concat (requests : List Request) {request : Request} (h : request ≠ clear) :
    sinceClear (requests ++ [request]) = sinceClear requests ++ [request] :=
  List.rtakeWhile_concat_pos _ _ _ (decide_eq_true h)

theorem sinceClear_concat_clear (requests : List Request) :
    sinceClear (requests ++ [clear]) = [] :=
  List.rtakeWhile_concat_neg _ _ _ (by simp)

end Request

/-- What caches answer. -/
inductive Answer where
  | expression (result : Except Error Compiled)
  | pattern (result : Except Error Pattern)
  | cleared

/-- Nothing could be made from the text. -/
def Answer.IsFailure (answer : Answer) : Prop :=
  ∃ e, answer = .expression (.error e) ∨ answer = .pattern (.error e)

variable (scope : Scope) (config : Config)

/-- The answer to a request, and the caches afterwards. -/
def respond (caches : Caches) : Request → Answer × Caches
  | .expression source => (caches.expression scope config source).map .expression id
  | .pattern text => (caches.pattern config text).map .pattern id
  | .clear => (.cleared, caches.clear)

/-- The answer where nothing is kept. -/
def freshAnswer : Request → Answer
  | .expression source => .expression (Compiled.ofSource scope config.maxDepth source)
  | .pattern text => .pattern (Pattern.build config text)
  | .clear => .cleared

/-- The caches after requests made one after the other. -/
def after (caches : Caches) (requests : List Request) : Caches :=
  requests.foldl (fun caches request => (caches.respond scope config request).2) caches

/-- Each cache contains what was asked of it since both were cleared. -/
structure AreFilled (capacity : Nat) (requests : List Request) (caches : Caches) : Prop where
  expressions : caches.expressions.IsFilled capacity (Compiled.ofSource scope config.maxDepth)
    ((Request.sinceClear requests).filterMap Request.source?)
  patterns : caches.patterns.IsFilled capacity (Pattern.build config)
    ((Request.sinceClear requests).filterMap Request.text?)

variable {scope config} {capacity : Nat} {requests : List Request} {caches : Caches}

/-- A request is answered as if nothing were kept, and each cache goes on containing what was
    asked of it. -/
theorem AreFilled.respond (h : caches.AreFilled scope config capacity requests)
    (request : Request) :
    (caches.respond scope config request).1 = freshAnswer scope config request ∧
      (caches.respond scope config request).2.AreFilled scope config capacity
        (requests ++ [request]) := by
  obtain ⟨hexpressions, hpatterns⟩ := h
  cases request with
  | expression source =>
    obtain ⟨hanswer, hfilled⟩ := hexpressions.fetch source
    have hrecent : Request.sinceClear (requests ++ [.expression source]) =
        Request.sinceClear requests ++ [.expression source] := Request.sinceClear_concat _ nofun
    refine ⟨congrArg Answer.expression hanswer, ?_, ?_⟩ <;> rw [hrecent, List.filterMap_append]
    · exact hfilled
    · exact (List.append_nil _).symm ▸ hpatterns
  | pattern text =>
    obtain ⟨hanswer, hfilled⟩ := hpatterns.fetch text
    have hrecent : Request.sinceClear (requests ++ [.pattern text]) =
        Request.sinceClear requests ++ [.pattern text] := Request.sinceClear_concat _ nofun
    refine ⟨congrArg Answer.pattern hanswer, ?_, ?_⟩ <;> rw [hrecent, List.filterMap_append]
    · exact (List.append_nil _).symm ▸ hexpressions
    · exact hfilled
  | clear =>
    refine ⟨rfl, ?_, ?_⟩ <;> rw [Request.sinceClear_concat_clear]
    · exact hexpressions.clear
    · exact hpatterns.clear

/-- Whatever was asked of them, caches contain it as far as there is room. -/
theorem areFilled_after (scope : Scope) (config : Config) (capacity : Nat)
    (requests : List Request) :
    ((empty capacity).after scope config requests).AreFilled scope config capacity requests := by
  induction requests using List.reverseRecOn with
  | nil => exact ⟨Cache.isFilled_empty _ _, Cache.isFilled_empty _ _⟩
  | append_singleton requests request ih =>
    rw [after, List.foldl_concat, ← after]
    exact (ih.respond request).2

/-- A request that fails changes nothing. -/
theorem respond_snd_of_isFailure {request : Request}
    (h : (caches.respond scope config request).1.IsFailure) :
    (caches.respond scope config request).2 = caches := by
  obtain ⟨e, he⟩ := h
  cases request with
  | expression source =>
    have hfetch : (caches.expression scope config source).1 = .error e := by
      rcases he with he | he
      · exact Answer.expression.inj he
      · cases he
    exact congrArg (fun expressions => (⟨expressions, caches.patterns⟩ : Caches))
      (Cache.fetch_snd_of_error hfetch)
  | pattern text =>
    have hfetch : (caches.pattern config text).1 = .error e := by
      rcases he with he | he
      · cases he
      · exact Answer.pattern.inj he
    exact congrArg (fun patterns => (⟨caches.expressions, patterns⟩ : Caches))
      (Cache.fetch_snd_of_error hfetch)
  | clear => rcases he with he | he <;> cases he

/-- A request leaves what is stored where it is, unless it clears the caches. -/
theorem entries_prefix_respond (caches : Caches) {request : Request} (h : request ≠ .clear) :
    caches.expressions.entries <+: (caches.respond scope config request).2.expressions.entries ∧
      caches.patterns.entries <+: (caches.respond scope config request).2.patterns.entries := by
  cases request with
  | expression source => exact ⟨Cache.entries_prefix_fetch _ _ source, List.prefix_rfl⟩
  | pattern text => exact ⟨List.prefix_rfl, Cache.entries_prefix_fetch _ _ text⟩
  | clear => exact absurd rfl h

/-- After any requests each cache contains the first different texts that it was asked for
    since both were cleared and from which something can be made, as many as there is room
    for, and what is made from them; and so many slots are taken. The next request is answered
    as if nothing were kept, and a rule is compiled exactly if it is not stored. If the request
    fails it changes nothing, and whatever it is, if it is not to clear the caches, all that is
    stored stays. -/
theorem contents_after (scope : Scope) (config : Config) (capacity : Nat)
    (requests : List Request) :
    let caches := (empty capacity).after scope config requests
    let compile := Compiled.ofSource scope config.maxDepth
    caches.AreFilled scope config capacity requests ∧
      (caches.expressions.used ≤ capacity ∧ caches.patterns.used ≤ capacity) ∧
      (∀ source noted, (caches.expressions.fetchWith (Cache.noting compile) source).run noted =
        (caches.expressions.fetch compile source,
          if source ∈ caches.expressions.texts then noted else source :: noted)) ∧
      ∀ request,
        let (answer, caches') := caches.respond scope config request
        answer = freshAnswer scope config request ∧
          (answer.IsFailure → caches' = caches) ∧
          (request ≠ .clear → caches.expressions.entries <+: caches'.expressions.entries ∧
            caches.patterns.entries <+: caches'.patterns.entries) := by
  intro caches compile
  have hfilled : caches.AreFilled scope config capacity requests :=
    areFilled_after scope config capacity requests
  refine ⟨hfilled, ⟨?_, ?_⟩, fun source noted => Cache.run_fetchWith_noting _ _ _ _,
    fun request => ⟨(hfilled.respond request).1, respond_snd_of_isFailure,
      entries_prefix_respond caches⟩⟩
  · exact hfilled.expressions.used_eq ▸ hfilled.expressions.size_le
  · exact hfilled.patterns.used_eq ▸ hfilled.patterns.size_le

end Caches

end RuleEngine
