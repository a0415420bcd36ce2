import Descent.Proofs.Lexical
import Descent.Proofs.Separated

namespace Descent

open Answers (settled)

-- Whatever the parser takes is the written form of some data, and its match the one that belongs to
-- them.
def Spells (env : Env) (p : Parser) {α : Type} (write : α → Text) (value : α → Match) : Prop :=
  ∀ t rest m, settled env p t (.ok rest m) → ∃ a, t = write a ++ rest ∧ m = value a

-- The same of several parsers one after another, and of all their matches.
def SpellsAll (env : Env) (ps : List Parser) {α : Type} (write : α → Text) (values : α → List Match) :
    Prop :=
  ∀ t rest ms, (settled env).All ps t (some (rest, ms)) → ∃ a, t = write a ++ rest ∧ ms = values a

variable {env : Env} {level : Nat} {p q separator element : Parser} {ps : List Parser} {t u rest : Text}
  {r s : Result} {m : Match} {ms : List Match} {accepts : Char → Bool}

theorem Settles.eq_of_settled (h : Settles env level p t r) (hs : settled env p t s) : s = r := by
  have hr : p.ComesTo env t (.ok r) := ⟨level, h.outcome⟩
  exact Except.ok.inj (hs.unique hr)

-- A choice succeeds as one of its alternatives does.
theorem Answers.First.exists_of_ok {answers : Answers} (h : answers.First ps t (.ok rest m)) :
    ∃ q ∈ ps, answers q t (.ok rest m) := by
  generalize hr : Result.ok rest m = r at h
  induction h with
  | none t => cases hr
  | here hok =>
      cases hr
      exact ⟨_, List.mem_cons_self, hok⟩
  | later _ _ ih =>
      obtain ⟨q, hq, hok⟩ := ih hr
      exact ⟨q, List.mem_cons_of_mem _ hq, hok⟩

section

variable {α β : Type} {write : α → Text} {value : α → Match} {values : α → List Match}
  {write' : β → Text} {value' : β → Match} {values' : β → List Match}

-- Data may be replaced by others that are written alike and have the same matches.
theorem Spells.as (h : Spells env p write value)
    (hsame : ∀ a, ∃ b, write a = write' b ∧ value a = value' b) : Spells env p write' value' := by
  intro t rest m hok
  obtain ⟨a, rfl, rfl⟩ := h t rest m hok
  obtain ⟨b, hwrite, hvalue⟩ := hsame a
  exact ⟨b, by rw [hwrite], hvalue⟩

theorem spells_char (c : Char) :
    Spells env (.char c) (fun _ : Unit => [c]) fun _ => .leaf [c] := by
  intro t rest m hok
  have hsettles : Settles env 1 (.char c) t (Rule.takeChar c t) := settles_takeChar rfl
  have htaken := hsettles.eq_of_settled hok
  rcases Rule.takeChar_cases c t with hfail | ⟨behind, rfl, htake⟩
  · cases htaken.trans hfail
  · cases htaken.trans htake
    exact ⟨(), rfl, rfl⟩

theorem spells_whiteSpace : Spells env .whiteSpace (fun gap : Text.Gap => gap.1) fun _ => .empty := by
  intro t rest m hok
  have hsettles : Settles env 1 .whiteSpace t _ := settles_of_gives trivial (.whiteSpace t)
  obtain ⟨rfl, rfl⟩ := Result.ok.inj (hsettles.eq_of_settled hok)
  obtain ⟨gap, hgap⟩ := Text.exists_gap t
  exact ⟨gap, hgap, rfl⟩

theorem spells_symbol {literal : Text} (hrule : p.rule = .symbol literal) :
    Spells env p (fun gaps : Text.Gap × Text.Gap => gaps.1.1 ++ (literal ++ gaps.2.1))
      fun _ => .leaf literal := by
  intro t rest m hok
  have htaken := (settles_takeSymbol hrule).eq_of_settled hok
  rcases Rule.takeSymbol_cases literal t with hfail | ⟨behind, hfront, htake⟩
  · cases htaken.trans hfail
  · obtain ⟨rfl, rfl⟩ := Result.ok.inj (htaken.trans htake)
    obtain ⟨before, hbefore⟩ := Text.exists_gap t
    obtain ⟨after, hafter⟩ := Text.exists_gap behind
    refine ⟨(before, after), ?_, rfl⟩
    rw [List.append_assoc, List.append_assoc, ← hafter, ← hfront]
    exact hbefore

theorem spells_run (hrun : ∀ t, Settles env 1 p t (takeRun accepts t)) :
    Spells env p (fun a : Text.Token accepts => a.1) fun a => .leaf a.1 := by
  intro t rest m hok
  have htaken := (hrun t).eq_of_settled hok
  by_cases hnone : t.takeWhile accepts = []
  · cases htaken.trans (takeRun_none hnone)
  · obtain ⟨rfl, rfl⟩ := Result.ok.inj (htaken.trans (takeRun_some hnone))
    obtain ⟨a, ha⟩ := Text.exists_token hnone
    exact ⟨a, by simp only [ha, List.takeWhile_append_dropWhile], congrArg Match.leaf ha.symm⟩

theorem Spells.lexeme (h : Spells env p write value) :
    Spells env (.lexeme p) (fun x : α × Text.Gap => write x.1 ++ x.2.1) fun x => value x.1 := by
  intro t rest m hok
  cases hok.gives with
  | @lexeme _ _ behind _ hinner =>
      obtain ⟨a, rfl, rfl⟩ := h _ _ _ hinner
      obtain ⟨gap, hgap⟩ := Text.exists_gap behind
      exact ⟨(a, gap), by rw [List.append_assoc, ← hgap], rfl⟩

theorem Spells.label (h : Spells env p write value) (name : String) :
    Spells env (.label name p) write fun a => .labeled name (value a) := by
  intro t rest m hok
  cases hok.gives with
  | label hinner =>
      obtain ⟨a, rfl, rfl⟩ := h _ _ _ hinner
      exact ⟨a, rfl, rfl⟩

theorem Spells.maybe (h : Spells env p write value) :
    Spells env (.maybe p) (fun a? : Option α => a?.elim [] write) fun a? => a?.elim .empty value := by
  intro t rest m hok
  cases hok.gives with
  | maybe hinner =>
      obtain ⟨a, rfl, rfl⟩ := h _ _ _ hinner
      exact ⟨some a, rfl, rfl⟩
  | maybeAbsent _ => exact ⟨none, rfl, rfl⟩

theorem Spells.choice (hrule : p.rule = .choice ps) (h : ∀ q ∈ ps, Spells env q write value) :
    Spells env p write value := by
  intro t rest m hok
  have hgives := hok.gives
  rw [hrule] at hgives
  cases hgives with
  | choice hfirst =>
      obtain ⟨q, hq, hinner⟩ := hfirst.exists_of_ok
      exact h q hq t rest m hinner

theorem spells_oneOf (literals : List Text) : Spells env (.oneOf literals)
    (fun x : Text.Gap × {t : Text // t ∈ literals} × Text.Gap => x.1.1 ++ (x.2.1.1 ++ x.2.2.1))
    fun x => .leaf x.2.1.1 := by
  refine Spells.choice rfl fun q hq => ?_
  obtain ⟨literal, hmem, rfl⟩ := List.mem_map.mp hq
  have hsymbol : Spells env (.symbol literal) _ _ := spells_symbol rfl
  exact hsymbol.as fun gaps => ⟨(gaps.1, ⟨literal, hmem⟩, gaps.2), rfl, rfl⟩

theorem spellsAll_nil : SpellsAll env [] (fun _ : Unit => []) fun _ => [] := by
  rintro t rest ms ⟨⟩
  exact ⟨(), rfl, rfl⟩

theorem Spells.cons (hp : Spells env p write value) (hps : SpellsAll env ps write' values') :
    SpellsAll env (p :: ps) (fun x : α × β => write x.1 ++ write' x.2)
      fun x => value x.1 :: values' x.2 := by
  intro t rest ms hall
  cases hall with
  | next hok hothers =>
      obtain ⟨a, rfl, rfl⟩ := hp _ _ _ hok
      obtain ⟨b, rfl, rfl⟩ := hps _ _ _ hothers
      exact ⟨(a, b), by rw [List.append_assoc], rfl⟩

theorem SpellsAll.sequence {reducer : Reducer} (h : SpellsAll env ps write values)
    (hrule : p.rule = .sequence ps reducer)
    (hreduce : ∀ a, reducer.apply (values a) = .ok (value a)) : Spells env p write value := by
  intro t rest m hok
  have hgives := hok.gives
  rw [hrule] at hgives
  cases hgives with
  | sequence hall hm =>
      obtain ⟨a, rfl, rfl⟩ := h _ _ _ hall
      exact ⟨a, rfl, Except.ok.inj (hm.symm.trans (hreduce a))⟩

theorem Spells.parens (h : Spells env p write value) :
    Spells env p.parens (fun a => '(' :: (write a ++ [')'])) value := by
  have hopen : Spells env (.char '(') _ _ := spells_char '('
  have hclose : Spells env (.char ')') _ _ := spells_char ')'
  have hall := hopen.cons (h.cons (hclose.cons spellsAll_nil))
  have hinside : Spells env p.parens _ fun x : Unit × α × Unit × Unit => value x.2.1 :=
    hall.sequence rfl fun _ => rfl
  exact hinside.as fun x => ⟨x.2.1, by simp, rfl⟩

theorem spells_repeated (h : Spells env p write value) (hrounds : (settled env).Repeated p t rest ms) :
    ∃ as : List α, t = as.flatMap write ++ rest ∧ ms = as.map value := by
  induction hrounds with
  | stop _ => exact ⟨[], rfl, rfl⟩
  | idle hok =>
      obtain ⟨a, ht, rfl⟩ := h _ _ _ hok
      exact ⟨[a], by simpa using ht, rfl⟩
  | step hok _ _ ih =>
      obtain ⟨a, rfl, rfl⟩ := h _ _ _ hok
      obtain ⟨as, rfl, rfl⟩ := ih
      exact ⟨a :: as, by simp, rfl⟩

theorem Spells.many (h : Spells env p write value) :
    Spells env (.many p) (fun as : List α => as.flatMap write) fun as => .seq (as.map value) := by
  intro t rest m hok
  cases hok.gives with
  | many hrounds =>
      obtain ⟨as, ht, rfl⟩ := spells_repeated h hrounds
      exact ⟨as, ht, rfl⟩

-- Elements with separators, each of which stands in front of the element that it goes with.
theorem Spells.sepBy (hseparator : Spells env separator write' value')
    (h : Spells env element write value) :
    Spells env (.sepBy separator element)
      (fun list : Option (α × List (β × α)) => list.elim [] fun x =>
        write x.1 ++ x.2.flatMap fun y => write' y.1 ++ write y.2)
      fun list => .seq (list.elim [] fun x => value x.1 :: x.2.map fun y => value y.2) := by
  have hall := hseparator.cons (h.cons spellsAll_nil)
  have hfollowing : Spells env (.sequence [separator, element] (.nth 1))
      (fun y : β × α => write' y.1 ++ write y.2) fun y => value y.2 := by
    have hpair : Spells env (.sequence [separator, element] (.nth 1)) _
        fun y : β × α × Unit => value y.2.1 :=
      hall.sequence rfl fun _ => rfl
    exact hpair.as fun y => ⟨(y.1, y.2.1), by simp, rfl⟩
  intro t rest m hok
  cases hok.gives with
  | sepByAbsent _ => exact ⟨none, rfl, rfl⟩
  | sepByIdle helement =>
      obtain ⟨a, ht, rfl⟩ := h _ _ _ helement
      exact ⟨some (a, []), by simpa using ht, rfl⟩
  | sepBy helement _ hrounds =>
      obtain ⟨a, rfl, rfl⟩ := h _ _ _ helement
      obtain ⟨others, rfl, rfl⟩ := spells_repeated hfollowing hrounds
      exact ⟨some (a, others), by simp, rfl⟩

end

end Descent
