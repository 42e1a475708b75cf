import RuleEngine.Pattern

/-!
# Larger limits on patterns

The size of automata is counted until it exceeds a limit. So what is within a
limit is counted in the same way within a larger one (`Regex.countAll_extends`),
and a pattern that can be built within limits is the same pattern within larger
ones (`Pattern.build_of_le`).
-/

namespace RuleEngine

namespace Automaton

/-- Where one count stays within its limit, another one does, with the same result. -/
def Count.Extends (m m' : Count) : Prop :=
  ∀ size r, m size = some r → m' size = some r

namespace Count

theorem Extends.refl (m : Count) : m.Extends m :=
  fun _ _ h => h

theorem Extends.bind {m m' n n' : Count} (h : m.Extends m') (h' : n.Extends n') :
    Extends (m >>= fun _ => n) (m' >>= fun _ => n') := by
  intro size r hr
  obtain ⟨⟨_, size'⟩, hm, hn⟩ := Option.bind_eq_some_iff.mp hr
  exact Option.bind_eq_some_iff.mpr ⟨_, h size _ hm, h' size' r hn⟩

/-- A count that stands in a block under a condition. -/
theorem Extends.ite {m m' n n' : Count} (c : Bool) (h : m.Extends m') (h' : n.Extends n') :
    Extends (if c then m else n) (if c then m' else n') := by
  cases c
  · exact h'
  · exact h

end Count

variable {limit limit' : Nat}

theorem count_extends (h : limit ≤ limit') (add : Size → Size) :
    (count limit add).Extends (count limit' add) := by
  intro size r hr
  rw [count] at hr ⊢
  split at hr
  · next hsize => rw [← hr, if_pos (Nat.le_trans hsize h)]
  · cases hr

theorem repeatCount_extends {m m' : Count} (h : m.Extends m') (n : Nat) :
    (repeatCount m n).Extends (repeatCount m' n) := by
  induction n with
  | zero => exact .refl _
  | succ n ih => exact h.bind ih

theorem countBranch_extends (h : limit ≤ limit') (before : Nat) :
    (countBranch limit before).Extends (countBranch limit' before) := by
  unfold countBranch
  split
  · exact .refl _
  · exact count_extends h _
  · exact count_extends h _

end Automaton

namespace Regex

open Automaton

variable {limit limit' : Nat}

theorem countFrom_extends (h : limit ≤ limit') (backward : Bool) (before : Nat) (r : Regex) :
    (r.countFrom limit backward before).Extends (r.countFrom limit' backward before) := by
  induction r generalizing before with
  | empty => exact (count_extends h _).bind (countBranch_extends h before)
  | text cs => exact (count_extends h _).bind (countBranch_extends h before)
  | chars set => exact (count_extends h _).bind (countBranch_extends h before)
  | anchor _ => exact (count_extends h _).bind (countBranch_extends h before)
  | group _ body ih =>
    have hbranch := countBranch_extends h before
    unfold countFrom
    cases backward with
    | false => exact (count_extends h _).bind ((ih 0).bind ((count_extends h _).bind hbranch))
    | true => exact (ih 0).bind hbranch
  | seq first second ihfirst ihsecond =>
    have hbranch := countBranch_extends h before
    unfold countFrom
    cases backward with
    | false => exact (ihfirst 0).bind ((ihsecond 0).bind hbranch)
    | true => exact (ihsecond 0).bind ((ihfirst 0).bind hbranch)
  | alt left right ihleft ihright =>
    unfold countFrom
    split
    · exact count_extends h _
    · exact (ihleft before).bind (ihright (before + 1))
  | times body least most _ ih =>
    have hbranch := countBranch_extends h before
    have hrequired : Count.Extends
        (if least = 0 then count limit (·.addStates 1 0)
          else repeatCount (body.countFrom limit backward 0) least)
        (if least = 0 then count limit' (·.addStates 1 0)
          else repeatCount (body.countFrom limit' backward 0) least) := by
      split
      · exact count_extends h _
      · exact repeatCount_extends (ih 0) least
    unfold countFrom
    dsimp only
    split
    · exact (count_extends h _).bind ((ih 0).bind ((count_extends h _).bind hbranch))
    · split
      · exact (count_extends h _).bind ((ih 0).bind hbranch)
      · exact (ih 0).bind ((count_extends h _).bind hbranch)
    · exact hrequired.bind ((count_extends h _).bind hbranch)
    · refine hrequired.bind ?_
      split
      · exact (count_extends h _).bind
          ((repeatCount_extends ((count_extends h _).bind (ih 0)) _).bind hbranch)
      · exact hbranch

/-- What is counted within a limit is counted within a larger one. -/
theorem countAll_extends (h : limit ≤ limit') (backward : Bool) (r : Regex) :
    (r.countAll limit backward).Extends (r.countAll limit' backward) := by
  have hbody := countFrom_extends h backward 0 r
  have hend : (count limit (·.addStates 1 0)).Extends (count limit' (·.addStates 1 0)) :=
    count_extends h _
  unfold countAll
  cases backward with
  | false =>
    have hmatch := hend.bind (hbody.bind (hend.bind hend))
    exact .ite _ (hend.bind hmatch) ((count_extends h _).bind ((count_extends h _).bind hmatch))
  | true =>
    have hmatch := hbody.bind hend
    exact .ite _ (hend.bind hmatch) ((count_extends h _).bind ((count_extends h _).bind hmatch))

/-- What is within a limit is within a larger one. -/
theorem fits_of_le (h : limit ≤ limit') {r : Regex} (hr : r.fits limit = true) :
    r.fits limit' = true := by
  have hwithin (backward : Bool) (hcount : (r.countAll limit backward ⟨0, 0⟩).isSome = true) :
      (r.countAll limit' backward ⟨0, 0⟩).isSome = true := by
    obtain ⟨size, hsize⟩ := Option.isSome_iff_exists.mp hcount
    rw [countAll_extends h backward r ⟨0, 0⟩ size hsize]
    rfl
  obtain ⟨hforward, hbackward⟩ := (Bool.and_eq_true _ _).mp hr
  exact (Bool.and_eq_true _ _).mpr ⟨hwithin false hforward, hwithin true hbackward⟩

end Regex

namespace Pattern

/-- The pattern of a text is the same within a larger limit on its size. -/
theorem ofText?_of_le {text : String} {limit limit' : Nat} (h : limit ≤ limit')
    {pattern : Pattern} (hpattern : ofText? text limit = .ok pattern) :
    ofText? text limit' = .ok pattern := by
  unfold ofText? at hpattern ⊢
  cases hread : Regex.read? text with
  | none =>
    rw [hread] at hpattern
    cases hpattern
  | some regex =>
    rw [hread] at hpattern
    dsimp only at hpattern ⊢
    cases hlisted : regex.listed? with
    | some texts =>
      rw [hlisted] at hpattern
      exact hpattern
    | none =>
      rw [hlisted] at hpattern
      dsimp only at hpattern ⊢
      split at hpattern
      · next hfits =>
        rw [if_pos (Regex.fits_of_le h hfits)]
        exact hpattern
      · cases hpattern

/-- A pattern that can be built is built the same within larger limits. -/
theorem build_of_le {config config' : Config}
    (hlength : config.maxPatternLength ≤ config'.maxPatternLength)
    (hsize : config.regexSizeLimit ≤ config'.regexSizeLimit) {text : String} {pattern : Pattern}
    (h : build config text = .ok pattern) : build config' text = .ok pattern := by
  unfold build at h ⊢
  split at h
  · cases h
  · next hlimit =>
    rw [if_neg fun hlong => hlimit (Nat.lt_of_le_of_lt hlength hlong)]
    cases hpattern : ofText? text config.regexSizeLimit with
    | error problem =>
      rw [hpattern] at h
      cases h
    | ok found =>
      rw [hpattern] at h
      rw [ofText?_of_le hsize hpattern]
      exact h

end Pattern

end RuleEngine
