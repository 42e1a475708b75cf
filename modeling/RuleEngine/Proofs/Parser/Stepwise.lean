import RuleEngine.Proofs.Parser.Lookahead

/-!
# Parsers step by step

What a parser does, one step after the other, among tokens the last of which is the end
of the input. No step goes past the last token, gives back a level that is not open, or
takes more than one above the limit (`Steps`).

A parser is compared with another one that has the same steps (`Does`). With that other
one it is shown what a parser does not depend on: where the two differ, it never goes.
-/

namespace RuleEngine

namespace Parse

variable {α β : Type}

/-! ### Steps -/

/-- A parser goes step by step from one cursor to another, with a result. A token is
    passed only if there is one after it. A level is taken below the limit, or refused
    exactly at it, and then it is one more than allowed. A level is given back only if it
    is open, and levels are given back together only down to a number that is open. -/
inductive Steps (limit : Nat) : {α : Type} → Parse α → Cursor → Except Error α → Cursor → Prop
  | pure {α : Type} (a : α) (c : Cursor) : Steps limit (pure a) c (.ok a) c
  | get (c : Cursor) : Steps limit get c (.ok c) c
  | current (s : Spanned) (rest : List Spanned) (depth : Nat) :
      Steps limit current ⟨s :: rest, depth⟩ (.ok s) ⟨s :: rest, depth⟩
  | fail {α : Type} (problem : SyntaxProblem) (s : Spanned) (rest : List Spanned) (depth : Nat) :
      Steps limit (fail problem : Parse α) ⟨s :: rest, depth⟩
        (.error (.badSyntax s.offset problem)) ⟨s :: rest, depth⟩
  | advance (s t : Spanned) (rest : List Spanned) (depth : Nat) :
      Steps limit advance ⟨s :: t :: rest, depth⟩ (.ok ()) ⟨t :: rest, depth⟩
  | enter {depth : Nat} (h : depth < limit) (s : Spanned) (rest : List Spanned) :
      Steps limit (enter limit) ⟨s :: rest, depth⟩ (.ok ()) ⟨s :: rest, depth + 1⟩
  | refuse (s : Spanned) (rest : List Spanned) :
      Steps limit (enter limit) ⟨s :: rest, limit⟩
        (.error (.badSyntax s.offset (.tooDeep limit))) ⟨s :: rest, limit + 1⟩
  | release {α : Type} {p : Parse α} {c : Cursor} {result : Except Error α}
      {rest : List Spanned} {depth : Nat} (h : Steps limit p c result ⟨rest, depth + 1⟩) :
      Steps limit (released p) c result ⟨rest, depth⟩
  | restore (rest : List Spanned) {base depth : Nat} (h : base ≤ depth) :
      Steps limit (modify fun c => { c with depth := base }) ⟨rest, depth⟩ (.ok ()) ⟨rest, base⟩
  | bind {α β : Type} {p : Parse α} {f : α → Parse β} {a : α} {c c' c'' : Cursor}
      {result : Except Error β} (h : Steps limit p c (.ok a) c')
      (hf : Steps limit (f a) c' result c'') : Steps limit (p >>= f) c result c''
  | failed {α β : Type} {p : Parse α} (f : α → Parse β) {e : Error} {c c' : Cursor}
      (h : Steps limit p c (.error e) c') : Steps limit (p >>= f) c (.error e) c'

namespace Steps

variable {limit : Nat} {p : Parse α} {c c' : Cursor} {result : Except Error α}

/-- What a parser does by steps is what it does. -/
theorem run_eq (h : Steps limit p c result c') : p.run c = (result, c') := by
  induction h with
  | enter h => exact run_enter_of_lt h _ _
  | refuse s rest => rw [run_enter, if_pos (Nat.lt_succ_self _)]
  | release _ ih => rw [run_released, ih, Nat.add_sub_cancel]
  | bind _ _ ih ihf => rw [run_bind_ok ih, ihf]
  | failed f _ ih => rw [run_bind, ih]
  | _ => rfl

/-- No step goes more than one level above the limit. -/
theorem depth_le (h : Steps limit p c result c') (hc : c.depth ≤ limit + 1) :
    c'.depth ≤ limit + 1 := by
  induction h with
  | enter h => exact Nat.succ_le_succ (Nat.le_of_lt h)
  | refuse => exact Nat.le_refl _
  | release _ ih => exact Nat.le_of_succ_le (ih hc)
  | restore _ h => exact Nat.le_trans h hc
  | bind _ _ ih ihf => exact ihf (ih hc)
  | failed _ _ ih => exact ih hc
  | _ => exact hc

end Steps

/-! ### What two parsers do -/

/-- From a cursor a parser goes on by steps, back over no token and to no lesser depth,
    and if it succeeds to where a condition asks for. Another parser does the same. -/
def Does (limit : Nat) (p q : Parse α) (c : Cursor) (post : α → Cursor → Prop) : Prop :=
  ∃ result c', Steps limit p c result c' ∧ q.run c = (result, c') ∧ c.Onward c' ∧
    ∀ a, result = .ok a → post a c'

section Does

variable {limit depth : Nat} {s : Spanned} {rest : List Spanned} {p q : Parse α}
  {f g : α → Parse β} {c : Cursor} {post : α → Cursor → Prop} {post' : β → Cursor → Prop}

theorem Does.run_eq (h : Does limit p q c post) : q.run c = p.run c := by
  obtain ⟨result, c', hsteps, hrun, _⟩ := h
  rw [hrun, hsteps.run_eq]

theorem Does.mono {post' : α → Cursor → Prop} (h : Does limit p q c post)
    (himp : ∀ a c', c.Onward c' → post a c' → post' a c') : Does limit p q c post' := by
  obtain ⟨result, c', hsteps, hrun, ho, hpost⟩ := h
  exact ⟨result, c', hsteps, hrun, ho, fun a ha => himp a c' ho (hpost a ha)⟩

theorem Does.bind (h : Does limit p q c post)
    (hf : ∀ a c', c.Onward c' → post a c' → Does limit (f a) (g a) c' post') :
    Does limit (p >>= f) (q >>= g) c post' := by
  obtain ⟨result, c', hsteps, hrun, ho, hpost⟩ := h
  rcases result with e | a
  · exact ⟨.error e, c', hsteps.failed f, by rw [run_bind, hrun], ho, nofun⟩
  · obtain ⟨result, c'', hsteps', hrun', ho', hpost'⟩ := hf a c' ho (hpost a rfl)
    exact ⟨result, c'', hsteps.bind hsteps', by rw [run_bind_ok hrun, hrun'], ho.trans ho', hpost'⟩

/-- A step that both parsers begin with. -/
theorem Does.step {a : α} {c' : Cursor} (h : Steps limit p c (.ok a) c') (ho : c.Onward c')
    (hf : Does limit (f a) (g a) c' post') : Does limit (p >>= f) (p >>= g) c post' := by
  obtain ⟨result, c'', hsteps, hrun, ho', hpost⟩ := hf
  exact ⟨result, c'', h.bind hsteps, by rw [run_bind_ok h.run_eq, hrun], ho.trans ho', hpost⟩

theorem onward_refl (hc : EndsOnce c.rest) : c.Onward c :=
  ⟨List.suffix_refl _, hc.ne_nil, Nat.le_refl _⟩

theorem Does.pure {a : α} (hc : EndsOnce c.rest) (h : post a c) :
    Does limit (pure a) (pure a) c post :=
  ⟨.ok a, c, .pure a c, rfl, onward_refl hc, fun _ ha => Except.ok.inj ha ▸ h⟩

theorem Does.fail (problem : SyntaxProblem) :
    Does limit (Parse.fail problem) (Parse.fail problem) ⟨s :: rest, depth⟩ post :=
  ⟨_, _, .fail problem s rest depth, rfl,
    ⟨List.suffix_refl _, List.cons_ne_nil _ _, Nat.le_refl _⟩, nofun⟩

theorem Does.current {f g : Spanned → Parse β}
    (h : Does limit (f s) (g s) ⟨s :: rest, depth⟩ post') :
    Does limit (current >>= f) (current >>= g) ⟨s :: rest, depth⟩ post' :=
  .step (.current s rest depth) ⟨List.suffix_refl _, List.cons_ne_nil _ _, Nat.le_refl _⟩ h

/-- The operator at hand is there, or the token is not one of those sought. -/
theorem Does.operator {Op : Type} {op? : Symbol → Option Op} {f g : Option Op → Parse β}
    (hnone : Does limit (f none) (g none) ⟨s :: rest, depth⟩ post')
    (hsome : ∀ op, s.token ≠ .endOfInput →
      Does limit (f (some op)) (g (some op)) ⟨s :: rest, depth⟩ post') :
    Does limit (operator? op? >>= f) (operator? op? >>= g) ⟨s :: rest, depth⟩ post' := by
  rw [operator?, bind_assoc, bind_assoc]
  refine .current ?_
  cases hs : s.token with
  | symbol x =>
    dsimp only
    rw [pure_bind, pure_bind]
    cases op? x with
    | none => exact hnone
    | some op => exact hsome op (by simp [hs])
  | _ => exact hnone

theorem Does.advance {f g : Unit → Parse β} (hc : EndsOnce (s :: rest))
    (hs : s.token ≠ .endOfInput)
    (h : EndsOnce rest → Does limit (f ()) (g ()) ⟨rest, depth⟩ post') :
    Does limit (advance >>= f) (advance >>= g) ⟨s :: rest, depth⟩ post' := by
  obtain ⟨t, rest, rfl⟩ := hc.exists_next hs
  have hrest : EndsOnce (t :: rest) := hc.of_suffix (List.suffix_cons _ _) (List.cons_ne_nil _ _)
  exact .step (.advance s t rest depth) (onward_step (List.cons_ne_nil t rest)) (h hrest)

theorem Does.expect {f g : Unit → Parse β} {x : Symbol} (hc : EndsOnce (s :: rest))
    (h : EndsOnce rest → Does limit (f ()) (g ()) ⟨rest, depth⟩ post') :
    Does limit (expect x >>= f) (expect x >>= g) ⟨s :: rest, depth⟩ post' := by
  rw [Parse.expect, bind_assoc, bind_assoc]
  refine .current ?_
  split
  · next hs => exact .advance hc (by simp [hs]) h
  · have hfail : Does limit (Parse.fail (.expected (.symbol x) s.token) : Parse Unit)
        (Parse.fail (.expected (.symbol x) s.token)) ⟨s :: rest, depth⟩ fun _ _ => False := .fail _
    exact hfail.bind fun _ _ _ h => h.elim

/-- At the limit, a level is taken that is not there, and that is a failure. -/
theorem Does.tooDeep {f g : Unit → Parse β} :
    Does limit (enter limit >>= f) (enter limit >>= g) ⟨s :: rest, limit⟩ post' :=
  have h : Steps limit (Parse.enter limit) ⟨s :: rest, limit⟩ _ _ := .refuse s rest
  ⟨_, _, h.failed f, (h.failed g).run_eq, onward_deeper, nofun⟩

theorem Does.enter {f g : Unit → Parse β} (hdepth : depth ≤ limit)
    (h : depth < limit → Does limit (f ()) (g ()) ⟨s :: rest, depth + 1⟩ post') :
    Does limit (enter limit >>= f) (enter limit >>= g) ⟨s :: rest, depth⟩ post' := by
  rcases Nat.lt_or_eq_of_le hdepth with hlt | rfl
  · exact .step (.enter hlt s rest) onward_deeper (h hlt)
  · exact .tooDeep

/-- Where no level is left, an operator is refused at the token after it. -/
theorem Does.refused (hc : EndsOnce (s :: rest)) (hs : s.token ≠ .endOfInput)
    (hdepth : depth ≤ limit) :
    Does limit (do Parse.advance; Parse.enter limit; Parse.fail (.tooDeep limit))
      (do Parse.advance; Parse.enter limit; Parse.fail (.tooDeep limit)) ⟨s :: rest, depth⟩
      post := by
  refine .advance hc hs fun hrest => ?_
  obtain ⟨t, rest, rfl⟩ := List.exists_cons_of_ne_nil hrest.ne_nil
  exact .enter hdepth fun _ => .fail _

/-- A level that is entered before a parser is given back after it, also if it fails. -/
theorem Does.entered (hdepth : depth ≤ limit)
    (h : depth < limit → Does limit p q ⟨s :: rest, depth + 1⟩ fun a c' =>
      c'.depth = depth + 1 ∧ post a ⟨c'.rest, depth⟩) :
    Does limit (do Parse.enter limit; released p) (do Parse.enter limit; released q)
      ⟨s :: rest, depth⟩ post := by
  rcases Nat.lt_or_eq_of_le hdepth with hlt | rfl
  · obtain ⟨result, ⟨rest', depth'⟩, hsteps, hrun, ho, hpost⟩ := h hlt
    -- The parser is at least as deep at its end, so there is a level to give back.
    have hle : depth + 1 ≤ depth' := ho.depth_le
    obtain ⟨d, rfl⟩ : ∃ d, depth' = d + 1 := Nat.exists_eq_add_one.mpr (Nat.zero_lt_of_lt hle)
    refine ⟨result, ⟨rest', d⟩, (Steps.enter hlt s rest).bind hsteps.release, ?_,
      ⟨ho.suffix, ho.ne_nil, Nat.le_of_succ_le_succ hle⟩, fun a ha => ?_⟩
    · rw [run_bind_ok (run_enter_of_lt hlt s rest), run_released, hrun, Nat.add_sub_cancel]
    · obtain ⟨hd, hpost⟩ := hpost a ha
      obtain rfl : d = depth := Nat.succ.inj hd
      exact hpost
  · exact .tooDeep

/-- The levels of a parser are given back all at once. -/
theorem Does.restored (h : Does limit p q c post) :
    Does limit (do let a ← p; modify fun c' => { c' with depth := c.depth }; return a)
      (do let a ← q; modify fun c' => { c' with depth := c.depth }; return a) c
      fun a c' => c'.depth = c.depth ∧ ∃ d, post a ⟨c'.rest, d⟩ := by
  obtain ⟨e | a, ⟨rest, depth⟩, hsteps, hrun, ho, hpost⟩ := h
  · exact ⟨_, _, hsteps.failed _, by rw [run_bind, hrun], ho, nofun⟩
  · refine ⟨.ok a, ⟨rest, c.depth⟩, hsteps.bind ((Steps.restore rest ho.depth_le).bind
      (.pure a _)), by rw [run_bind_ok hrun]; rfl, ⟨ho.suffix, ho.ne_nil, Nat.le_refl _⟩, ?_⟩
    rintro _ ⟨⟩
    exact ⟨rfl, depth, hpost a rfl⟩

end Does

end Parse

end RuleEngine
