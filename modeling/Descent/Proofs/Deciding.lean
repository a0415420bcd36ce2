import Descent.Proofs.Lexical

namespace Descent

-- A success leaves a text that is shorter by so many characters at least.
def Decides (env : Env) (level : Nat) (p : Parser) (least : Nat) (kind : Match → Prop) : Prop :=
  ∀ t, Settles env level p t (.fail t) ∨
    ∃ rest m, Settles env level p t (.ok rest m) ∧ rest.length + least ≤ t.length ∧ kind m

-- The same of several parsers one after another, and of all their matches.
def DecidesAll (env : Env) (level : Nat) (ps : List Parser) (least : Nat)
    (kinds : List Match → Prop) : Prop :=
  ∀ t, Answers.All (Settles env level) ps t none ∨
    ∃ rest ms, Answers.All (Settles env level) ps t (some (rest, ms)) ∧
      rest.length + least ≤ t.length ∧ kinds ms

variable {env : Env} {level least least' : Nat} {p q : Parser} {ps : List Parser}
  {kind kind' : Match → Prop} {kinds : List Match → Prop} {t last : Text} {ms : List Match}

theorem Decides.mono {higher : Nat} (h : Decides env level p least kind) (hlevel : level ≤ higher)
    (hleast : least' ≤ least) (hkind : ∀ m, kind m → kind' m) :
    Decides env higher p least' kind' := by
  intro t
  rcases h t with hfail | ⟨rest, m, hok, hlength, hm⟩
  · exact .inl (hfail.mono hlevel)
  · exact .inr ⟨rest, m, hok.mono hlevel, by omega, hkind m hm⟩

theorem Decides.level_mono {higher : Nat} (h : Decides env level p least kind)
    (hlevel : level ≤ higher) : Decides env higher p least kind :=
  h.mono hlevel (Nat.le_refl _) fun _ hm => hm

theorem decides_char (c : Char) : Decides env 1 (.char c) 1 (· = .leaf [c]) := by
  intro t
  have hsettles : Settles env 1 (.char c) t (Rule.takeChar c t) := settles_takeChar rfl
  rcases Rule.takeChar_cases c t with h | ⟨rest, rfl, h⟩
  · exact .inl (h ▸ hsettles)
  · exact .inr ⟨rest, _, h ▸ hsettles, Nat.le_refl _, rfl⟩

theorem decides_symbol {literal : Text} (hrule : p.rule = .symbol literal) (hlevel : 1 ≤ level)
    (hleast : least ≤ literal.length) : Decides env level p least (· = .leaf literal) := by
  intro t
  have hsettles : Settles env level p t (Rule.takeSymbol literal t) :=
    (settles_takeSymbol hrule).mono hlevel
  rcases Rule.takeSymbol_cases literal t with h | ⟨behind, hfront, h⟩
  · exact .inl (h ▸ hsettles)
  · have hskipped := (Text.skipBlanks_suffix t).length_le
    have hbehind := (Text.skipBlanks_suffix behind).length_le
    rw [hfront, List.length_append] at hskipped
    exact .inr ⟨_, _, h ▸ hsettles, by omega, rfl⟩

theorem decides_run {accepts : Char → Bool} (hrun : ∀ t, Settles env 1 p t (takeRun accepts t)) :
    Decides env 1 p 1 fun m => ∃ a : Text.Token accepts, m = .leaf a.1 := by
  intro t
  by_cases hnone : t.takeWhile accepts = []
  · exact .inl (takeRun_none hnone ▸ hrun t)
  · obtain ⟨a, ha⟩ := Text.exists_token hnone
    have hsplit := congrArg List.length (List.takeWhile_append_dropWhile (p := accepts) (l := t))
    have hpos := List.length_pos_iff.mpr hnone
    rw [List.length_append] at hsplit
    exact .inr ⟨_, _, takeRun_some hnone ▸ hrun t, by omega, a, congrArg Match.leaf ha.symm⟩

theorem Decides.lexeme (h : Decides env level p least kind) :
    Decides env (level + 1) (.lexeme p) least kind := by
  intro t
  rcases h t with hfail | ⟨rest, m, hok, hlength, hm⟩
  · exact .inl (settles_of_gives trivial (.lexemeFailed hfail))
  · have hskipped := (Text.skipBlanks_suffix rest).length_le
    exact .inr ⟨_, m, settles_of_gives trivial (.lexeme hok), by omega, hm⟩

theorem Decides.label (h : Decides env level p least kind) (name : String) :
    Decides env (level + 1) (.label name p) least fun m => ∃ n, kind n ∧ m = .labeled name n := by
  intro t
  rcases h t with hfail | ⟨rest, m, hok, hlength, hm⟩
  · exact .inl (settles_of_gives trivial (.labelFailed hfail))
  · exact .inr ⟨rest, _, settles_of_gives trivial (.label hok), hlength, m, hm, rfl⟩

theorem Decides.maybe (h : Decides env level p least kind) :
    Decides env (level + 1) (.maybe p) 0 fun m => m = .empty ∨ kind m := by
  intro t
  rcases h t with hfail | ⟨rest, m, hok, hlength, hm⟩
  · exact .inr ⟨t, _, settles_of_gives trivial (.maybeAbsent hfail), Nat.le_refl _, .inl rfl⟩
  · exact .inr ⟨rest, m, settles_of_gives trivial (.maybe hok), by omega, .inr hm⟩

theorem decides_first (h : ∀ p ∈ ps, Decides env level p least kind) (t : Text) :
    Answers.First (Settles env level) ps t (.fail t) ∨
      ∃ rest m, Answers.First (Settles env level) ps t (.ok rest m) ∧
        rest.length + least ≤ t.length ∧ kind m := by
  induction ps with
  | nil => exact .inl (.none t)
  | cons p ps ih =>
      obtain ⟨hp, hps⟩ := List.forall_mem_cons.mp h
      rcases hp t with hfail | ⟨rest, m, hok, hm⟩
      · rcases ih hps with hnone | ⟨rest, m, hsome, hm⟩
        · exact .inl (.later hfail hnone)
        · exact .inr ⟨rest, m, .later hfail hsome, hm⟩
      · exact .inr ⟨rest, m, .here hok, hm⟩

theorem Decides.choice (hrule : p.rule = .choice ps) (h : ∀ q ∈ ps, Decides env level q least kind) :
    Decides env (level + 1) p least kind := by
  have hkeeps : p.rule.KeepsToText := hrule ▸ trivial
  intro t
  rcases decides_first h t with hnone | ⟨rest, m, hsome, hm⟩
  · exact .inl (settles_of_gives hkeeps (hrule ▸ .choice hnone))
  · exact .inr ⟨rest, m, settles_of_gives hkeeps (hrule ▸ .choice hsome), hm⟩

theorem decides_oneOf {literals : List Text} (h : ∀ literal ∈ literals, least ≤ literal.length) :
    Decides env 2 (.oneOf literals) least fun m => ∃ literal ∈ literals, m = .leaf literal := by
  refine Decides.choice rfl fun q hq => ?_
  obtain ⟨literal, hmem, rfl⟩ := List.mem_map.mp hq
  have hsymbol : Decides env 1 (.symbol literal) least _ :=
    decides_symbol rfl (Nat.le_refl 1) (h literal hmem)
  exact hsymbol.mono (Nat.le_refl 1) (Nat.le_refl least) fun _ hm => ⟨literal, hmem, hm⟩

theorem decidesAll_nil : DecidesAll env level [] 0 (· = []) :=
  fun t => .inr ⟨t, [], .done t, Nat.le_refl _, rfl⟩

theorem Decides.cons (hp : Decides env level p least kind) (hps : DecidesAll env level ps least' kinds) :
    DecidesAll env level (p :: ps) (least + least') fun ms =>
      ∃ m ns, kind m ∧ kinds ns ∧ ms = m :: ns := by
  intro t
  rcases hp t with hfail | ⟨u, m, hok, hlength, hm⟩
  · exact .inl (.failed hfail)
  · rcases hps u with hbroken | ⟨rest, ns, hall, hrest, hns⟩
    · exact .inl (.broken hok hbroken)
    · exact .inr ⟨rest, _, .next hok hall, by omega, m, ns, hm, hns, rfl⟩

theorem DecidesAll.sequence {reducer : Reducer} (hps : DecidesAll env level ps least kinds)
    (hrule : p.rule = .sequence ps reducer) (hleast : least' ≤ least)
    (hkind : ∀ ms, kinds ms → ∃ m, reducer.apply ms = .ok m ∧ kind m) :
    Decides env (level + 1) p least' kind := by
  have hkeeps : p.rule.KeepsToText := hrule ▸ trivial
  intro t
  rcases hps t with hbroken | ⟨rest, ms, hall, hlength, hms⟩
  · exact .inl (settles_of_gives hkeeps (hrule ▸ .sequenceBroken hbroken))
  · obtain ⟨m, hreduced, hm⟩ := hkind ms hms
    exact .inr ⟨rest, m, settles_of_gives hkeeps (hrule ▸ .sequence hall hreduced), by omega, hm⟩

theorem Decides.parens (hlevel : 1 ≤ level) (h : Decides env level p least kind) :
    Decides env (level + 1) p.parens (least + 2) kind := by
  have hopen : Decides env level (.char '(') 1 _ := (decides_char '(').level_mono hlevel
  have hclose : Decides env level (.char ')') 1 _ := (decides_char ')').level_mono hlevel
  have hall := hopen.cons (h.cons (hclose.cons decidesAll_nil))
  refine hall.sequence rfl (by omega) ?_
  rintro ms ⟨left, _, -, ⟨m, _, hm, -, rfl⟩, rfl⟩
  exact ⟨m, rfl, hm⟩

-- The rounds of a parser come to an end on every text.
theorem Decides.rounds (h : Decides env level p least kind) (t : Text) :
    ∃ last ms, Answers.Repeated (Settles env level) p t last ms ∧ last.length ≤ t.length ∧
      ∀ m ∈ ms, kind m := by
  -- A round either ends the repetition or shortens the text.
  induction hlength : t.length using Nat.strongRecOn generalizing t with
  | _ n ih =>
      rcases h t with hfail | ⟨u, m, hok, hle, hm⟩
      · exact ⟨t, [], .stop hfail, Nat.le_of_eq hlength, by simp⟩
      · by_cases hidle : u = t
        · subst u
          exact ⟨t, [m], .idle hok, Nat.le_of_eq hlength, by simpa using hm⟩
        · have hshorter : u.length < t.length := Text.length_lt_of_suffix hok.suffix hidle
          obtain ⟨last, ms, hrounds, hlast, hms⟩ := ih u.length (by omega) u rfl
          exact ⟨last, m :: ms, .step hok hidle hrounds, by omega,
            List.forall_mem_cons.mpr ⟨hm, hms⟩⟩

-- A parser that never succeeds on nothing fails behind its last round.
theorem Decides.fails_behind (h : Decides env level p least kind) (hleast : 0 < least)
    (hrounds : Answers.Repeated (Settles env level) p t last ms) :
    Settles env level p last (.fail last) := by
  induction hrounds with
  | @stop t u v hfailed =>
      rcases h t with hfail | ⟨rest, m, hok, -⟩
      · exact hfail
      · cases hfailed.unique hok
  | @idle t m hidle =>
      rcases h t with hfail | ⟨rest, m', hok, hlength, -⟩
      · cases hidle.unique hfail
      · cases hidle.unique hok
        omega
  | step _ _ _ ih => exact ih

theorem Decides.many (h : Decides env level p least kind) :
    Decides env (level + 1) (.many p) 0 fun m => ∃ ms, m = .seq ms ∧ ∀ m ∈ ms, kind m := by
  intro t
  obtain ⟨last, ms, hrounds, hlength, hms⟩ := h.rounds t
  exact .inr ⟨last, _, settles_of_gives trivial (.many hrounds), hlength, ms, rfl, hms⟩

theorem Decides.sepBy (hseparator : Decides env level q least' kind')
    (h : Decides env level p least kind) :
    Decides env (level + 2) (.sepBy q p) 0 fun m => ∃ ms, m = .seq ms ∧ ∀ m ∈ ms, kind m := by
  have hall : DecidesAll env level [q, p] _ _ := hseparator.cons (h.cons decidesAll_nil)
  have hfollowing : Decides env (level + 1) (.sequence [q, p] (.nth 1)) 0 kind := by
    refine hall.sequence rfl (Nat.zero_le _) ?_
    rintro ms ⟨left, _, -, ⟨m, _, hm, -, rfl⟩, rfl⟩
    exact ⟨m, rfl, hm⟩
  intro t
  rcases (h.level_mono (Nat.le_succ level)) t with hfail | ⟨u, m, hok, hlength, hm⟩
  · exact .inr ⟨t, _, settles_of_gives trivial (.sepByAbsent hfail), Nat.le_refl _, [], rfl, by simp⟩
  · by_cases hidle : u = t
    · subst u
      exact .inr ⟨t, _, settles_of_gives trivial (.sepByIdle hok), Nat.le_refl _, [m], rfl,
        by simpa using hm⟩
    · obtain ⟨last, ms, hrounds, hlast, hms⟩ := hfollowing.rounds u
      exact .inr ⟨last, _, settles_of_gives trivial (.sepBy hok hidle hrounds), by omega, m :: ms, rfl,
        List.forall_mem_cons.mpr ⟨hm, hms⟩⟩

end Descent
