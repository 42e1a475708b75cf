import RuleEngine.Expr.Parser
import RuleEngine.Proofs.Parser.Grammar
import RuleEngine.Proofs.Runs

/-!
# Steps of the parser

What the parts of the parser do to a cursor, and how what a parser does follows
from what its parts do. A parser `Meets` a condition at a cursor if it returns
what the condition asks for, or fails with a syntax error at the token it stops
at. Either way it goes forward from the cursor (`Cursor.Onward`): it never
leaves the last token, and never gives back a level that it did not take.
-/

namespace RuleEngine

/-- The symbol that a token is. -/
def Token.symbol? : Token → Option Symbol
  | symbol s => some s
  | _ => none

theorem Token.symbol?_eq_some_iff {t : Token} {s : Symbol} :
    t.symbol? = some s ↔ t = .symbol s := by
  cases t <;> simp [symbol?]

/-- Whether a number has the form of one. -/
def Token.IsSpelled : Token → Prop
  | number text => ∃ digits, Grammar.IsDigits digits ∧ (text = String.ofList digits ∨
      ∃ tail, Grammar.IsDigits tail ∧ text = String.ofList (digits ++ '.' :: tail))
  | _ => True

/-! ### The end of the input -/

/-- The last of some tokens, and no other, is the end of the input. -/
def EndsOnce (ts : List Spanned) : Prop :=
  ∃ us s, ts = us ++ [s] ∧ s.token = .endOfInput ∧ ∀ t ∈ us, t.token ≠ .endOfInput

namespace EndsOnce

variable {ts rest : List Spanned} {s : Spanned}

theorem ne_nil (h : EndsOnce ts) : ts ≠ [] := by
  obtain ⟨us, s, rfl, _⟩ := h
  simp

theorem exists_cons {c : Cursor} (h : EndsOnce c.rest) :
    ∃ s rest depth, c = ⟨s :: rest, depth⟩ := by
  obtain ⟨s, rest, hc⟩ := List.exists_cons_of_ne_nil h.ne_nil
  exact ⟨s, rest, c.depth, by rw [← hc]⟩

theorem of_suffix (h : EndsOnce ts) (hs : rest <:+ ts) (hne : rest ≠ []) : EndsOnce rest := by
  obtain ⟨us, s, rfl, hlast, hus⟩ := h
  rcases List.suffix_concat_iff.mp hs with rfl | ⟨vs, rfl, hvs⟩
  · exact absurd rfl hne
  · exact ⟨vs, s, rfl, hlast, fun t ht => hus t (hvs.subset ht)⟩

/-- After a token that is not the end of the input comes another. -/
theorem exists_next (h : EndsOnce (s :: rest)) (hs : s.token ≠ .endOfInput) :
    ∃ t rest', rest = t :: rest' := by
  obtain ⟨_ | ⟨u, us⟩, last, hus, hlast, _⟩ := h
  · obtain ⟨rfl, _⟩ := List.cons.inj hus
    exact absurd hlast hs
  · obtain ⟨_, rfl⟩ := List.cons.inj hus
    exact List.exists_cons_of_ne_nil (by simp)

end EndsOnce

/-! ### Cursors -/

namespace Cursor

/-- The tokens before a cursor are spelled as numbers are, and the last of them,
    and no other, is the end of the input. -/
structure IsLexed (c : Cursor) : Prop where
  isSpelled : ∀ s ∈ c.rest, s.token.IsSpelled
  ends : ∃ ts s, c.rest = ts ++ [s] ∧ s.token = .endOfInput ∧ ∀ t ∈ ts, t.token ≠ .endOfInput

/-- A cursor is further on than another: it has not left the tokens before that
    one, and it is as deep or deeper. -/
structure Onward (c c' : Cursor) : Prop where
  suffix : c'.rest <:+ c.rest
  ne_nil : c'.rest ≠ []
  depth_le : c.depth ≤ c'.depth

theorem Onward.trans {c c' c'' : Cursor} (h : c.Onward c') (h' : c'.Onward c'') : c.Onward c'' :=
  ⟨h'.suffix.trans h.suffix, h'.ne_nil, Nat.le_trans h.depth_le h'.depth_le⟩

theorem IsLexed.ne_nil {c : Cursor} (h : c.IsLexed) : c.rest ≠ [] :=
  EndsOnce.ne_nil h.ends

theorem IsLexed.exists_cons {c : Cursor} (h : c.IsLexed) :
    ∃ s rest depth, c = ⟨s :: rest, depth⟩ :=
  EndsOnce.exists_cons h.ends

theorem IsLexed.refl {c : Cursor} (h : c.IsLexed) : c.Onward c :=
  ⟨List.suffix_refl _, h.ne_nil, Nat.le_refl _⟩

/-- What is before a cursor further on is lexed as well. -/
theorem IsLexed.of_suffix {c c' : Cursor} (h : c.IsLexed) (hs : c'.rest <:+ c.rest)
    (hne : c'.rest ≠ []) : c'.IsLexed :=
  ⟨fun t ht => h.isSpelled t (hs.subset ht), EndsOnce.of_suffix h.ends hs hne⟩

theorem IsLexed.onward {c c' : Cursor} (h : c.IsLexed) (ho : c.Onward c') : c'.IsLexed :=
  h.of_suffix ho.suffix ho.ne_nil

/-- After a token that is not the end of the input comes another. -/
theorem IsLexed.exists_next {s : Spanned} {rest : List Spanned} {depth : Nat}
    (h : IsLexed ⟨s :: rest, depth⟩) (hs : s.token ≠ .endOfInput) :
    ∃ t rest', rest = t :: rest' :=
  EndsOnce.exists_next h.ends hs

end Cursor

namespace Parse

variable {α β : Type}

/-! ### Runs -/

@[simp] theorem run_current (s : Spanned) (rest : List Spanned) (depth : Nat) :
    current.run ⟨s :: rest, depth⟩ = (.ok s, ⟨s :: rest, depth⟩) := rfl

@[simp] theorem run_advance (s t : Spanned) (rest : List Spanned) (depth : Nat) :
    advance.run ⟨s :: t :: rest, depth⟩ = (.ok (), ⟨t :: rest, depth⟩) := rfl

@[simp] theorem run_fail (problem : SyntaxProblem) (s : Spanned) (rest : List Spanned)
    (depth : Nat) : (fail problem : Parse α).run ⟨s :: rest, depth⟩ =
      (.error (.badSyntax s.offset problem), ⟨s :: rest, depth⟩) := rfl

theorem run_enter (limit : Nat) (s : Spanned) (rest : List Spanned) (depth : Nat) :
    (enter limit).run ⟨s :: rest, depth⟩ =
      if limit < depth + 1 then
        (.error (.badSyntax s.offset (.tooDeep limit)), ⟨s :: rest, depth + 1⟩)
      else (.ok (), ⟨s :: rest, depth + 1⟩) := by
  simp only [enter, run_bind, run_modify, run_get]
  split <;> rfl

theorem run_enter_of_lt {limit depth : Nat} (h : depth < limit) (s : Spanned)
    (rest : List Spanned) :
    (enter limit).run ⟨s :: rest, depth⟩ = (.ok (), ⟨s :: rest, depth + 1⟩) := by
  rw [run_enter, if_neg (by omega)]

theorem run_released (p : Parse α) (c : Cursor) :
    (released p).run c = ((p.run c).1, ⟨(p.run c).2.rest, (p.run c).2.depth - 1⟩) := rfl

theorem run_released_ok {p : Parse α} {a : α} {c c' : Cursor} (h : p.run c = (.ok a, c')) :
    (released p).run c = (.ok a, ⟨c'.rest, c'.depth - 1⟩) := by
  rw [run_released, h]

@[simp] theorem run_operator {Op : Type} (op? : Symbol → Option Op) (s : Spanned)
    (rest : List Spanned) (depth : Nat) :
    (operator? op?).run ⟨s :: rest, depth⟩ =
      (.ok (s.token.symbol?.bind op?), ⟨s :: rest, depth⟩) := by
  simp only [operator?, run_bind, run_current]
  cases s.token <;> rfl

theorem run_expect {s : Symbol} {u : Spanned} (h : u.token = .symbol s) (t : Spanned)
    (rest : List Spanned) (depth : Nat) :
    (expect s).run ⟨u :: t :: rest, depth⟩ = (.ok (), ⟨t :: rest, depth⟩) := by
  simp only [expect, run_bind, run_current, h, if_pos, run_advance]

/-! ### Conditions -/

/-- A parser returns what a condition asks for, or fails at the token it stops at
    and not far above the limit. -/
def Meets (limit : Nat) (p : Parse α) (c : Cursor) (post : α → Cursor → Prop) : Prop :=
  match p.run c with
  | (.ok a, c') => c.Onward c' ∧ post a c'
  | (.error e, c') => c.Onward c' ∧ c'.depth ≤ limit + 1 ∧
      ∃ s rest problem, c'.rest = s :: rest ∧ e = .badSyntax s.offset problem

variable {limit : Nat} {p : Parse α} {f : α → Parse β} {c : Cursor} {post : α → Cursor → Prop}
  {post' : β → Cursor → Prop}

theorem Meets.mono {post' : α → Cursor → Prop} (h : Meets limit p c post)
    (himp : ∀ a c', c.Onward c' → post a c' → post' a c') : Meets limit p c post' := by
  rw [Meets] at h ⊢
  split at h
  · exact ⟨h.1, himp _ _ h.1 h.2⟩
  · exact h

/-- A parser that starts with a step forward meets what the rest of it meets
    after the step. -/
theorem Meets.of_run {a : α} {c' : Cursor} (hp : p.run c = (.ok a, c')) (ho : c.Onward c')
    (hf : Meets limit (f a) c' post') : Meets limit (p >>= f) c post' := by
  rw [Meets, run_bind_ok hp]
  rw [Meets] at hf
  split at hf <;> exact ⟨ho.trans hf.1, hf.2⟩

theorem Meets.bind (h : Meets limit p c post)
    (hf : ∀ a c', c.Onward c' → post a c' → Meets limit (f a) c' post') :
    Meets limit (p >>= f) c post' := by
  rw [Meets] at h
  split at h
  · next a c' hp => exact .of_run hp h.1 (hf a c' h.1 h.2)
  · next e c' hp =>
    rw [Meets, run_bind, hp]
    exact h

theorem Meets.pure {a : α} (hc : c.IsLexed) (h : post a c) :
    Meets limit (pure a) c post :=
  ⟨hc.refl, h⟩

/-! ### Steps -/

section Steps

variable {α β : Type} {limit depth : Nat} {s : Spanned} {rest : List Spanned}
  {post : β → Cursor → Prop}

theorem onward_step (h : rest ≠ []) : Cursor.Onward ⟨s :: rest, depth⟩ ⟨rest, depth⟩ :=
  ⟨List.suffix_cons _ _, h, Nat.le_refl _⟩

theorem onward_deeper : Cursor.Onward ⟨s :: rest, depth⟩ ⟨s :: rest, depth + 1⟩ :=
  ⟨List.suffix_refl _, List.cons_ne_nil _ _, Nat.le_succ _⟩

theorem Meets.current {f : Spanned → Parse β} (hc : Cursor.IsLexed ⟨s :: rest, depth⟩)
    (h : Meets limit (f s) ⟨s :: rest, depth⟩ post) :
    Meets limit (current >>= f) ⟨s :: rest, depth⟩ post :=
  .of_run (run_current _ _ _) hc.refl h

theorem Meets.operator {Op : Type} {op? : Symbol → Option Op} {f : Option Op → Parse β}
    (hc : Cursor.IsLexed ⟨s :: rest, depth⟩)
    (h : Meets limit (f (s.token.symbol?.bind op?)) ⟨s :: rest, depth⟩ post) :
    Meets limit (operator? op? >>= f) ⟨s :: rest, depth⟩ post :=
  .of_run (run_operator _ _ _ _) hc.refl h

theorem Meets.fail {problem : SyntaxProblem} (hc : Cursor.IsLexed ⟨s :: rest, depth⟩)
    (hdepth : depth ≤ limit + 1) :
    Meets limit (Parse.fail problem) ⟨s :: rest, depth⟩ post :=
  ⟨hc.refl, hdepth, s, rest, problem, rfl, rfl⟩

theorem Meets.advance {f : Unit → Parse β} (hc : Cursor.IsLexed ⟨s :: rest, depth⟩)
    (hs : s.token ≠ .endOfInput)
    (h : Cursor.IsLexed ⟨rest, depth⟩ → Meets limit (f ()) ⟨rest, depth⟩ post) :
    Meets limit (advance >>= f) ⟨s :: rest, depth⟩ post := by
  obtain ⟨t, rest, rfl⟩ := hc.exists_next hs
  have ho : Cursor.Onward ⟨s :: t :: rest, depth⟩ ⟨t :: rest, depth⟩ :=
    onward_step (List.cons_ne_nil t rest)
  exact .of_run (run_advance _ _ _ _) ho (h (hc.onward ho))

/-- At the limit, a level is taken that is not there, and that is a failure. -/
theorem Meets.tooDeep {f : Unit → Parse β} (hdepth : depth ≤ limit) (hlimit : limit ≤ depth) :
    Meets limit (enter limit >>= f) ⟨s :: rest, depth⟩ post := by
  rw [Meets, run_bind, run_enter, if_pos (Nat.lt_succ_of_le hlimit)]
  exact ⟨onward_deeper, Nat.succ_le_succ hdepth, s, rest, _, rfl, rfl⟩

theorem Meets.enter {f : Unit → Parse β} (hc : Cursor.IsLexed ⟨s :: rest, depth⟩)
    (hdepth : depth ≤ limit)
    (h : depth < limit → Cursor.IsLexed ⟨s :: rest, depth + 1⟩ →
      Meets limit (f ()) ⟨s :: rest, depth + 1⟩ post) :
    Meets limit (enter limit >>= f) ⟨s :: rest, depth⟩ post := by
  by_cases hlt : depth < limit
  · exact .of_run (run_enter_of_lt hlt _ _) onward_deeper (h hlt (hc.onward onward_deeper))
  · exact .tooDeep hdepth (Nat.le_of_not_lt hlt)

/-- Where no level is left, an operator is refused at the token after it. -/
theorem Meets.refused (hc : Cursor.IsLexed ⟨s :: rest, depth⟩) (hs : s.token ≠ .endOfInput)
    (hdepth : depth ≤ limit) :
    Meets limit (do Parse.advance; Parse.enter limit; Parse.fail (.tooDeep limit))
      ⟨s :: rest, depth⟩ post := by
  refine .advance hc hs fun hrest => ?_
  obtain ⟨t, rest, rfl⟩ := List.exists_cons_of_ne_nil hrest.ne_nil
  exact .enter hrest hdepth fun hlt hrest' => .fail hrest' (by omega)

/-- A level that is entered before a parser is given back after it. -/
theorem Meets.entered {p : Parse α} {post : α → Cursor → Prop}
    (hc : Cursor.IsLexed ⟨s :: rest, depth⟩) (hdepth : depth ≤ limit)
    (h : depth < limit → Cursor.IsLexed ⟨s :: rest, depth + 1⟩ →
      Meets limit p ⟨s :: rest, depth + 1⟩ fun a c' =>
        c'.depth = depth + 1 ∧ post a ⟨c'.rest, depth⟩) :
    Meets limit (do Parse.enter limit; released p) ⟨s :: rest, depth⟩ post := by
  by_cases hlt : depth < limit
  · -- The level that is given back was taken here, so no outcome is less deep than before.
    have h := h hlt (hc.onward onward_deeper)
    rw [Meets] at h
    rw [Meets, run_bind_ok (run_enter_of_lt hlt s rest), run_released]
    split at h
    · next a c' hrun =>
      rw [hrun]
      obtain ⟨ho, hd, hpost⟩ := h
      rw [show c'.depth - 1 = depth by omega]
      exact ⟨⟨ho.suffix, ho.ne_nil, Nat.le_refl _⟩, hpost⟩
    · next e c' hrun =>
      rw [hrun]
      obtain ⟨ho, hd, hpost⟩ := h
      have hle : depth + 1 ≤ c'.depth := ho.depth_le
      exact ⟨⟨ho.suffix, ho.ne_nil, Nat.le_sub_one_of_lt hle⟩, Nat.le_trans (Nat.sub_le _ _) hd,
        hpost⟩
  · exact .tooDeep hdepth (Nat.le_of_not_lt hlt)

/-- The depth is set back after a parser to what it was before it. -/
theorem Meets.restored {c : Cursor} {p : Parse α} {post : α → Cursor → Prop}
    (h : Meets limit p c post) :
    Meets limit (do let a ← p; modify fun c' => { c' with depth := c.depth }; return a) c
      fun a c' => c'.depth = c.depth ∧ ∃ d, post a ⟨c'.rest, d⟩ := by
  rw [Meets] at h
  rw [Meets, run_bind]
  split at h
  · next a c' hp =>
    rw [hp]
    exact ⟨⟨h.1.suffix, h.1.ne_nil, Nat.le_refl _⟩, rfl, c'.depth, h.2⟩
  · next e c' hp =>
    rw [hp]
    exact h

theorem Meets.expect {f : Unit → Parse β} {x : Symbol} (hc : Cursor.IsLexed ⟨s :: rest, depth⟩)
    (hdepth : depth ≤ limit + 1)
    (h : s.token = .symbol x → Cursor.IsLexed ⟨rest, depth⟩ →
      Meets limit (f ()) ⟨rest, depth⟩ post) :
    Meets limit (expect x >>= f) ⟨s :: rest, depth⟩ post := by
  rw [Parse.expect, bind_assoc]
  refine .current hc ?_
  split
  · next hs => exact .advance hc (by simp [hs]) (h hs)
  · rw [Meets, run_bind, run_fail]
    exact ⟨hc.refl, hdepth, s, rest, _, rfl, rfl⟩

end Steps

end Parse

end RuleEngine
