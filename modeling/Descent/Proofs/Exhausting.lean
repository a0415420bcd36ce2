import Descent.Proofs.Iterating

namespace Descent

-- What is left of a text where nothing is taken on failure, whatever the failure reports.
def Result.left (t : Text) : Result → Text
  | .ok rest _ => rest
  | .failed _ _ => t

namespace Answers

variable {answers : Answers} {p : Parser} {t rest last : Text} {ms : List Match}

-- A parser takes nothing of a text: it fails there, or succeeds and leaves the text as it is.
def Exhausted (answers : Answers) (p : Parser) (t : Text) : Prop :=
  ∀ u m, answers.takes p t u m → u = t

theorem Exhausted.last_eq (h : answers.Exhausted p t) (hrounds : answers.Repeated p t last ms) :
    last = t := by
  cases hrounds with
  | stop _ => rfl
  | idle _ => rfl
  | step hok hmoved _ => exact absurd (h _ _ hok) hmoved

theorem Repeated.exhausted (hone : ∀ u r s, answers p u r → answers p u s → r = s)
    (h : answers.Repeated p t last ms) : answers.Exhausted p last := by
  induction h with
  | stop hfailed => exact fun u m hok => nomatch hone _ _ _ hfailed hok
  | @idle t n hok =>
      intro u m hok'
      obtain ⟨hu, -⟩ := Result.ok.inj (hone _ _ _ hok' hok)
      exact hu
  | step _ _ _ ih => exact ih

-- Where the first round leaves a text of which nothing is taken, it is the only one that goes on.
theorem Exhausted.last_eq_left (h : ∀ r, answers p t r → r.left t = rest)
    (hrest : answers.Exhausted p rest) (hrounds : answers.Repeated p t last ms) : last = rest := by
  cases hrounds with
  | stop hfailed => exact h _ hfailed
  | idle hok => exact h _ hok
  | step hok _ hbehind =>
      obtain rfl : _ = rest := h _ hok
      exact hrest.last_eq hbehind

end Answers

namespace Parser

variable {env : Env} {limit : Nat} {p q : Parser} {t : Text}

-- Both repetitions leave the same, a text of which their parser takes nothing, and take nothing of such a
-- text.
theorem exists_left (h : Invocation.Responds (invoke env limit) p t) :
    ∃ rest ms, ((many p).invoke env (limit + 1) t).outcome = .ok (.ok rest (.seq ms)) ∧
      (∃ r, ((many1 p).invoke env (limit + 1) t).outcome = .ok r ∧ r.left t = rest) ∧
      rest <:+ t ∧ (Answers.of (invoke env limit)).Exhausted p rest ∧
      ((Answers.of (invoke env limit)).Exhausted p t → rest = t) := by
  obtain ⟨rest, ms, hrun, hrepeated⟩ := Rule.exists_repeated h
  have hone : ∀ u r s, Answers.of (invoke env limit) p u r → Answers.of (invoke env limit) p u s →
      r = s := fun u r s hr hs => Except.ok.inj (hr.symm.trans hs)
  have hsuffix : rest <:+ t := by
    obtain ⟨texts, rfl, hrounds⟩ := hrepeated.rounds (leavesEnds_of_responds h)
    exact hrounds.suffix_start (Nat.le_refl _)
  refine ⟨rest, ms, outcome_many hrun, ⟨_, outcome_many1 hrun, ?_⟩, hsuffix, hrepeated.exhausted hone,
    fun hnone => hnone.last_eq hrepeated⟩
  -- Without a round, the text is left as it is.
  cases hrepeated <;> rfl

-- What such a repetition does with every end of a text.
def Drains (env : Env) (limit : Nat) (p q : Parser) (t : Text) : Prop :=
  ∀ u, u <:+ t → ∃ r, (q.invoke env (limit + 1) u).outcome = .ok r ∧ r.left u <:+ u ∧
    (Answers.of (invoke env limit)).Exhausted p (r.left u) ∧
    ((Answers.of (invoke env limit)).Exhausted p u → r.left u = u)

theorem drains_many (h : Invocation.Responds (invoke env limit) p t) : Drains env limit p (many p) t := by
  intro u hu
  obtain ⟨rest, ms, hmany, -, hleft⟩ := exists_left (h.of_suffix hu)
  exact ⟨_, hmany, hleft⟩

theorem drains_many1 (h : Invocation.Responds (invoke env limit) p t) :
    Drains env limit p (many1 p) t := by
  intro u hu
  obtain ⟨_, ms, -, ⟨r, hmany1, rfl⟩, hleft⟩ := exists_left (h.of_suffix hu)
  exact ⟨r, hmany1, hleft⟩

theorem Drains.responds (h : Drains env limit p q t) :
    Invocation.Responds (invoke env (limit + 1)) q t := by
  intro u hu
  obtain ⟨r, hr, hsuffix, -⟩ := h u hu
  refine ⟨r, hr, fun hok => ?_⟩
  cases r with
  | ok rest m => exact hsuffix
  | failed w v => cases hok

theorem Drains.exhausted (h : Drains env limit p q t) {u : Text} (hu : u <:+ t)
    (hnone : (Answers.of (invoke env limit)).Exhausted p u) :
    (Answers.of (invoke env (limit + 1))).Exhausted q u := by
  intro rest m hok
  obtain ⟨r, hr, -, -, hleft⟩ := h u hu
  obtain rfl : r = .ok rest m := Except.ok.inj (hr.symm.trans hok)
  exact hleft hnone

-- Repeating it leaves what it leaves alone.
theorem Drains.outcome_many {r : Result} (h : Drains env limit p q t)
    (hr : (q.invoke env (limit + 1) t).outcome = .ok r) :
    ∃ ms, ((many q).invoke env (limit + 2) t).outcome = .ok (.ok (r.left t) (.seq ms)) := by
  obtain ⟨r', hr', hsuffix, hnone, -⟩ := h t (List.suffix_refl t)
  obtain rfl : r' = r := Except.ok.inj (hr'.symm.trans hr)
  have hfirst : ∀ s, Answers.of (invoke env (limit + 1)) q t s → s.left t = r'.left t :=
    fun s hs => congrArg (Result.left t) (Except.ok.inj (hs.symm.trans hr))
  obtain ⟨last, ms, hrun, hrepeated⟩ := Rule.exists_repeated h.responds
  obtain rfl := (h.exhausted hsuffix hnone).last_eq_left hfirst hrepeated
  exact ⟨ms, Parser.outcome_many hrun⟩

-- Repetition is closed: repeated once more it takes nothing, and a repetition of repetitions leaves the
-- same text as a single one.
theorem many_closed (h : Invocation.Responds (invoke env limit) p t) :
    ∃ rest ms, ((many p).invoke env (limit + 1) t).outcome = .ok (.ok rest (.seq ms)) ∧
      (∃ ns, ((many p).invoke env (limit + 1) rest).outcome = .ok (.ok rest (.seq ns))) ∧
      (∃ outer, ((many (many p)).invoke env (limit + 2) t).outcome = .ok (.ok rest (.seq outer))) ∧
      ∃ outer, ((many (many1 p)).invoke env (limit + 2) t).outcome = .ok (.ok rest (.seq outer)) := by
  obtain ⟨rest, ms, hmany, ⟨r, hmany1, rfl⟩, hsuffix, hnone, -⟩ := exists_left h
  obtain ⟨rest, ns, hagain, -, -, -, hsame⟩ := exists_left (h.of_suffix hsuffix)
  obtain rfl := hsame hnone
  have hrepeated := (drains_many h).outcome_many hmany
  have hrepeated1 := (drains_many1 h).outcome_many hmany1
  exact ⟨_, ms, hmany, ⟨ns, hagain⟩, hrepeated, hrepeated1⟩

theorem many_closed_letter :
    Invocation.Responds (invoke (.ofTargets []) 3) letter ['b', 'a', 'c', 'a'] ∧
      (∃ ns, ((many letter).invoke (.ofTargets []) 4 ['c', 'a']).outcome =
        .ok (.ok ['c', 'a'] (.seq ns))) ∧
      (∃ outer, ((many (many letter)).invoke (.ofTargets []) 5 ['b', 'a', 'c', 'a']).outcome =
        .ok (.ok ['c', 'a'] (.seq outer))) ∧
      ∃ outer, ((many (many1 letter)).invoke (.ofTargets []) 5 ['b', 'a', 'c', 'a']).outcome =
        .ok (.ok ['c', 'a'] (.seq outer)) := by
  have hresponds := letter_responds ['b', 'a', 'c', 'a']
  have hmany : ((many letter).invoke (.ofTargets []) 4 ['b', 'a', 'c', 'a']).outcome =
      .ok (.ok ['c', 'a'] (.seq [.leaf ['b'], .leaf ['a'], .empty])) := rfl
  obtain ⟨rest, ms, hrun, hclosed⟩ := many_closed hresponds
  obtain ⟨rfl, -⟩ := Result.ok.inj (Except.ok.inj (hrun.symm.trans hmany))
  exact ⟨hresponds, hclosed⟩

end Parser

end Descent
