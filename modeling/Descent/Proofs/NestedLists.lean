import Descent.Example.FirstSteps
import Descent.Proofs.Lexical

namespace Descent.Example.FirstSteps

open Descent.Parser Descent.Text

-- A number takes the blanks behind it; a list takes none inside but around its commas.
mutual

inductive Item : Text → Match → Prop
  | number (digits : Token isAsciiDigit) (w : Gap) :
      Item (digits.1 ++ w.1) (.labeled "Num" (.leaf digits.1))
  | empty : Item ['(', ')'] (.seq [])
  | list {first others : Text} {m : Match} {ms : List Match} : Item first m → Others others ms →
      Item ('(' :: (first ++ others ++ [')'])) (.seq (m :: ms))

-- The items of a list behind its first one, each with the comma in front of it.
inductive Others : Text → List Match → Prop
  | none : Others [] []
  | next (v w : Gap) {item others : Text} {m : Match} {ms : List Match} : Item item m →
      Others others ms → Others (v.1 ++ ',' :: w.1 ++ item ++ others) (m :: ms)

end

-- An item off the front of a text, or the failure to take one.
def Reads (t : Text) (r : Result) : Prop :=
  r = .fail t ∨ ∃ taken rest m, Item taken m ∧ t = taken ++ rest ∧ r = .ok rest m

variable {tracing : Bool} {t u rest last : Text} {m : Match} {level n : Nat} {r : Result}

theorem Item.ne_nil (h : Item t m) : t ≠ [] := by
  cases h with
  | number digits _ => exact List.append_ne_nil_of_left_ne_nil digits.2.1 _
  | empty => exact List.cons_ne_nil _ _
  | list _ _ => exact List.cons_ne_nil _ _

theorem Item.outside_blank (h : Item t m) : Outside isBlank (t ++ rest) := by
  cases h with
  | number digits _ =>
      obtain ⟨c, others, hdigits, hc⟩ := digits.exists_cons
      rw [hdigits]
      exact outside_cons.mpr (not_isBlank_of_isAsciiDigit hc)
  | empty => exact outside_cons.mpr (by decide)
  | list _ _ => exact outside_cons.mpr (by decide)

theorem Others.outside_digit {ms : List Match} (h : Others t ms) :
    Outside isAsciiDigit (t ++ ')' :: rest) := by
  have hcomma : isAsciiDigit ',' = false := by decide
  cases h with
  | none => exact outside_cons.mpr (by decide)
  | next v _ _ _ =>
      simp only [List.append_assoc, List.cons_append]
      exact (outside_cons.mpr hcomma).behind_gap v fun _ => not_isAsciiDigit_of_isBlank

-- The parts of the rule: a number, and the items of a list with what comes behind the first.
def number : Parser :=
  label "Num" (lexeme natural)

def following : Parser :=
  sequence [comma, value] (.nth 1)

def items : Parser :=
  sepBy comma value

variable [CharNames]

theorem number_settles (hne : t.takeWhile isAsciiDigit ≠ []) :
    Settles (valueStore.env tracing) 3 number t
      (.ok (skipBlanks (t.dropWhile isAsciiDigit))
        (.labeled "Num" (.leaf (t.takeWhile isAsciiDigit)))) := by
  have hdigits : Settles (valueStore.env tracing) 1 natural t _ := settles_natural t
  rw [takeRun_some hne] at hdigits
  have hblanks : Settles _ 2 (lexeme natural) t _ := settles_of_gives trivial (.lexeme hdigits)
  exact settles_of_gives trivial (.label hblanks)

theorem number_fails (hnone : t.takeWhile isAsciiDigit = []) :
    Settles (valueStore.env tracing) 3 number t (.fail t) := by
  have hdigits : Settles (valueStore.env tracing) 1 natural t _ := settles_natural t
  rw [takeRun_none hnone] at hdigits
  have hblanks : Settles _ 2 (lexeme natural) t _ :=
    settles_of_gives trivial (.lexemeFailed hdigits)
  exact settles_of_gives trivial (.labelFailed hblanks)

theorem value_settles (h : Answers.First (Settles (valueStore.env tracing) level)
    [number, parens items] t r) : Settles (valueStore.env tracing) (level + 2) value t r := by
  have hchoice : Settles _ (level + 1) valueRule t r := settles_of_gives trivial (.choice h)
  exact settles_of_gives trivial (.forward rfl hchoice)

theorem value_of_number (hlevel : 3 ≤ level) (hne : t.takeWhile isAsciiDigit ≠ []) :
    Settles (valueStore.env tracing) (level + 2) value t
      (.ok (skipBlanks (t.dropWhile isAsciiDigit))
        (.labeled "Num" (.leaf (t.takeWhile isAsciiDigit)))) :=
  value_settles (.here ((number_settles hne).mono hlevel))

theorem value_of_parens (hlevel : 3 ≤ level)
    (h : Settles (valueStore.env tracing) level (parens items) ('(' :: u) (.ok rest m)) :
    Settles (valueStore.env tracing) (level + 2) value ('(' :: u) (.ok rest m) :=
  value_settles (.later ((number_fails rfl).mono hlevel) (.here h))

theorem value_of_neither (hlevel : 3 ≤ level) (hnone : t.takeWhile isAsciiDigit = [])
    (h : Settles (valueStore.env tracing) level (parens items) t (.fail t)) :
    Settles (valueStore.env tracing) (level + 2) value t (.fail t) :=
  value_settles (.later ((number_fails hnone).mono hlevel) (.later h (.none t)))

-- The rounds behind the first item, given what comes of the rule on shorter texts: they end where no
-- comma with an item behind it stands.
theorem following_reads (hlevel : 1 ≤ level)
    (hvalue : ∀ v : Text, v.length < n →
      ∃ r, Settles (valueStore.env tracing) level value v r ∧ Reads v r) (hu : u.length ≤ n) :
    ∃ others last ms, Others others ms ∧ u = others ++ last ∧
      Answers.Repeated (Settles (valueStore.env tracing) (level + 1)) following u last ms := by
  induction hlength : u.length using Nat.strongRecOn generalizing u with
  | _ k ih =>
      by_cases hcomma : [','] <+: skipBlanks u
      · obtain ⟨behind, hfront⟩ := hcomma
        obtain ⟨v, hu'⟩ := exists_gap u
        obtain ⟨w, hbehind⟩ := exists_gap behind
        have hsplit : u = v.1 ++ ',' :: w.1 ++ skipBlanks behind := by
          rw [hu', ← hfront]
          simpa using hbehind
        have hlen := congrArg List.length hsplit
        simp only [List.length_append, List.length_cons] at hlen
        obtain ⟨r, hr, rfl | ⟨taken, rest, m, hitem, hrest, rfl⟩⟩ :=
          hvalue (skipBlanks behind) (by omega)
        · have hfails : Settles _ (level + 1) following u _ :=
            settles_noneBehindComma hlevel hfront.symm hr
          exact ⟨[], u, [], .none, rfl, .stop hfails⟩
        · have hround : Settles _ (level + 1) following u (.ok rest m) :=
            settles_behindComma hlevel hfront.symm hr
          rw [hrest] at hsplit hlen
          simp only [List.length_append] at hlen
          have hmoved : rest ≠ u := fun h => by have := congrArg List.length h; omega
          obtain ⟨others, last, ms, hothers, rfl, hrounds⟩ := ih rest.length (by omega) (by omega) rfl
          refine ⟨_, last, m :: ms, .next v w hitem hothers, ?_, ?_⟩
          · simpa using hsplit
          · exact .step hround hmoved hrounds
      · exact ⟨[], u, [], .none, rfl, .stop (settles_noComma hlevel hcomma)⟩

-- Whatever stands between parentheses, they would make a list of what is taken there.
theorem items_read (hlevel : 1 ≤ level)
    (hvalue : ∀ v : Text, v.length < n →
      ∃ r, Settles (valueStore.env tracing) level value v r ∧ Reads v r) (hu : u.length < n) :
    ∃ inside last m, Item ('(' :: (inside ++ [')'])) m ∧ u = inside ++ last ∧
      Settles (valueStore.env tracing) (level + 2) items u (.ok last m) := by
  obtain ⟨r, hr, rfl | ⟨first, rest, m, hitem, rfl, rfl⟩⟩ := hvalue u hu
  · have hnone : Settles _ (level + 1) items u (.ok u (.seq [])) :=
      settles_of_gives trivial (.sepByAbsent hr)
    exact ⟨[], u, .seq [], .empty, rfl, hnone.mono (by omega)⟩
  · have hpos := List.length_pos_iff.mpr hitem.ne_nil
    simp only [List.length_append] at hu
    obtain ⟨others, last, ms, hothers, rfl, hrounds⟩ :=
      following_reads (u := rest) hlevel hvalue (by omega)
    have hmoved : others ++ last ≠ first ++ (others ++ last) := by
      simpa using hitem.ne_nil
    refine ⟨first ++ others, last, .seq (m :: ms), .list hitem hothers, by simp, ?_⟩
    exact settles_of_gives trivial (.sepBy (hr.mono (by omega)) hmoved hrounds)

-- Every text is read, under a nesting limit that grows with its length.
theorem value_reads (tracing : Bool) (t : Text) :
    ∃ r, Settles (valueStore.env tracing) (5 * t.length + 5) value t r ∧ Reads t r := by
  induction hlength : t.length using Nat.strongRecOn generalizing t with
  | _ n ih =>
      by_cases hdigits : t.takeWhile isAsciiDigit = []
      · by_cases hopen : t.head? = some '('
        · obtain ⟨u, rfl⟩ := List.head?_eq_some_iff.mp hopen
          simp only [List.length_cons] at hlength
          obtain ⟨k, rfl⟩ : ∃ k, n = k + 1 := ⟨u.length, hlength.symm⟩
          have hvalue : ∀ v : Text, v.length < k + 1 →
              ∃ r, Settles (valueStore.env tracing) (5 * k + 5) value v r ∧ Reads v r := by
            intro v hv
            obtain ⟨r, hr, hreads⟩ := ih v.length hv v rfl
            exact ⟨r, hr.mono (by omega), hreads⟩
          obtain ⟨inside, last, m, hitem, rfl, hitems⟩ :=
            items_read (u := u) (by omega) hvalue (by omega)
          by_cases hclose : last.head? = some ')'
          · obtain ⟨rest, rfl⟩ := List.head?_eq_some_iff.mp hclose
            have hlist := settles_parens (by omega) hitems
            refine ⟨_, value_of_parens (by omega) hlist, .inr ⟨_, rest, m, hitem, by simp, rfl⟩⟩
          · have hlist := settles_unclosed (by omega) hitems hclose
            exact ⟨_, value_of_neither (by omega) rfl hlist, .inl rfl⟩
        · have hlist : Settles (valueStore.env tracing) 3 (parens items) t _ :=
            settles_unopened (by omega) hopen
          have hfails := value_of_neither (Nat.le_refl 3) hdigits hlist
          exact ⟨_, hfails.mono (by omega), .inl rfl⟩
      · have hnumber : Settles (valueStore.env tracing) 5 value t _ :=
          value_of_number (Nat.le_refl 3) hdigits
        refine ⟨_, hnumber.mono (by omega), .inr ?_⟩
        obtain ⟨digits, htaken⟩ := exists_token hdigits
        obtain ⟨w, hrest⟩ := exists_gap (t.dropWhile isAsciiDigit)
        refine ⟨_, _, _, .number digits w, ?_, by rw [htaken]⟩
        rw [List.append_assoc, ← hrest, htaken, List.takeWhile_append_dropWhile]

-- A number takes at least what it is written with, and no more if no digit comes behind that.
theorem value_of_digits (digits : Token isAsciiDigit) (w : Gap) :
    ∃ last k, Settles (valueStore.env tracing) 5 value (digits.1 ++ w.1 ++ rest) (.ok last k) ∧
      last.length ≤ rest.length ∧
      (Outside isAsciiDigit rest →
        k = .labeled "Num" (.leaf digits.1) ∧ last = skipBlanks rest) := by
  have hsome : (digits.1 ++ w.1 ++ rest).takeWhile isAsciiDigit ≠ [] := by
    rw [List.append_assoc, List.takeWhile_append_of_pos digits.2.2]
    exact List.append_ne_nil_of_left_ne_nil digits.2.1 _
  refine ⟨_, _, value_of_number (Nat.le_refl 3) hsome, ?_, fun hrest => ?_⟩
  · rw [List.append_assoc, List.dropWhile_append_of_pos digits.2.2]
    by_cases hw : w.1 = []
    · rw [hw, List.nil_append]
      have hdropped := (List.dropWhile_suffix isAsciiDigit (l := rest)).length_le
      exact Nat.le_trans (skipBlanks_suffix _).length_le hdropped
    · obtain ⟨b, blanks, hblanks⟩ := List.exists_cons_of_ne_nil hw
      have hb : isBlank b = true := w.2 b (by simp [hblanks])
      have hstops : Outside isAsciiDigit (w.1 ++ rest) := by
        rw [hblanks]
        exact outside_cons.mpr (not_isAsciiDigit_of_isBlank hb)
      rw [dropWhile_eq_self hstops, skipBlanks_gap]
      exact (skipBlanks_suffix rest).length_le
  · have hstops := hrest.behind_gap w fun _ => not_isAsciiDigit_of_isBlank
    rw [List.append_assoc, takeWhile_token digits hstops, dropWhile_token digits hstops,
      skipBlanks_gap]
    exact ⟨rfl, rfl⟩

-- Nothing is an item directly in front of a closing parenthesis, or of the end of the text.
theorem value_of_closing :
    Settles (valueStore.env tracing) 5 value (')' :: rest) (.fail (')' :: rest)) := by
  have hunopened : Settles (valueStore.env tracing) 2 (parens items) (')' :: rest) _ :=
    settles_unopened (Nat.le_refl 1) (by simp)
  exact value_of_neither (Nat.le_refl 3) rfl (hunopened.mono (by omega))

variable (tracing)

mutual

-- Whatever comes behind an item, no less than the item is taken, and just the item if no digit comes
-- there.
theorem Item.settles {taken rest : Text} {m : Match} {n : Nat} (h : Item taken m)
    (hn : (taken ++ rest).length ≤ n) :
    ∃ last k, Settles (valueStore.env tracing) (5 * n + 5) value (taken ++ rest) (.ok last k) ∧
      last.length ≤ rest.length ∧
      (Outside isAsciiDigit rest → k = m ∧ (last = rest ∨ last = skipBlanks rest)) :=
  match h with
  | .number digits w => by
      obtain ⟨last, k, hk, hle, hexact⟩ := value_of_digits digits w
      exact ⟨last, k, hk.mono (by omega), hle, fun hrest => (hexact hrest).imp_right .inr⟩
  | .empty => by
      have hnone : Settles (valueStore.env tracing) 6 items (')' :: rest) _ :=
        settles_of_gives trivial (.sepByAbsent value_of_closing)
      have hlist := value_of_parens (by omega) (settles_parens (by omega) hnone)
      simp only [List.length_append, List.length_cons] at hn
      exact ⟨rest, .seq [], hlist.mono (by omega), Nat.le_refl _, fun _ => ⟨rfl, .inl rfl⟩⟩
  | @Item.list first others m ms hfirst hothers => by
      obtain ⟨k, rfl⟩ : ∃ k, n = k + 1 := ⟨n - 1, by simp at hn; omega⟩
      have hinside : (first ++ (others ++ ')' :: rest)).length ≤ k := by
        simp only [List.length_append, List.length_cons] at hn ⊢
        omega
      obtain ⟨last, m', hm, hle, hexact⟩ := Item.settles hfirst hinside
      obtain ⟨rfl, hlast⟩ := hexact hothers.outside_digit
      have hlength : last.length ≤ k := by
        simp only [List.length_append] at hinside hle
        omega
      have hrounds := Others.repeated hothers hlast hlength
      have hmoved : last ≠ first ++ (others ++ ')' :: rest) := by
        rintro rfl
        have hpos := List.length_pos_iff.mpr hfirst.ne_nil
        simp only [List.length_append] at hle
        omega
      have hitems : Settles (valueStore.env tracing) (5 * k + 7) items
          (first ++ (others ++ ')' :: rest)) _ :=
        settles_of_gives trivial (.sepBy (hm.mono (by omega)) hmoved hrounds)
      have hlist := value_of_parens (by omega) (settles_parens (by omega) hitems)
      refine ⟨rest, .seq (m' :: ms), ?_, Nat.le_refl _, fun _ => ⟨rfl, .inl rfl⟩⟩
      have hlimit : 5 * k + 7 + 1 + 2 ≤ 5 * (k + 1) + 5 := by omega
      simpa using hlist.mono hlimit

-- Behind the first item of a list all the others are taken, and what stands before the closing
-- parenthesis is none of them.
theorem Others.repeated {others rest u : Text} {ms : List Match} {n : Nat} (h : Others others ms)
    (hu : u = others ++ ')' :: rest ∨ u = skipBlanks (others ++ ')' :: rest))
    (hn : u.length ≤ n) :
    Answers.Repeated (Settles (valueStore.env tracing) (5 * n + 6)) following u (')' :: rest) ms :=
  match h with
  | .none => by
      have hclosing : u = ')' :: rest := by
        rcases hu with rfl | rfl
        · rfl
        · exact skipBlanks_of_outside (outside_cons.mpr (by decide))
      subst u
      have hno : ¬[','] <+: skipBlanks (')' :: rest) := by
        rw [skipBlanks_of_outside (outside_cons.mpr (by decide))]
        simp
      exact .stop (settles_noComma (by omega) hno)
  | @Others.next v w item others m ms hitem hothers => by
      have hsplit : ∃ v' : Gap, u = v'.1 ++ ',' :: (w.1 ++ (item ++ (others ++ ')' :: rest))) := by
        rcases hu with rfl | rfl
        · exact ⟨v, by simp⟩
        · refine ⟨.of [] rfl, ?_⟩
          simp only [List.append_assoc, List.cons_append]
          exact skipBlanks_gap_cons v (by decide)
      obtain ⟨v', rfl⟩ := hsplit
      have hbehind : (item ++ (others ++ ')' :: rest)).length ≤ n := by
        simp only [List.length_append, List.length_cons] at hn ⊢
        omega
      obtain ⟨last, m', hm, hle, hexact⟩ := Item.settles hitem hbehind
      obtain ⟨rfl, hlast⟩ := hexact hothers.outside_digit
      have hlength : last.length ≤ n := by
        simp only [List.length_append] at hbehind hle
        omega
      have hrounds := Others.repeated hothers hlast hlength
      rw [← skipBlanks_of_outside hitem.outside_blank, ← skipBlanks_gap w] at hm
      have hround : Settles (valueStore.env tracing) (5 * n + 6) following _ (.ok last m') :=
        settles_behindComma (by omega) (skipBlanks_gap_cons v' rfl) hm
      have hmoved : last ≠ v'.1 ++ ',' :: (w.1 ++ (item ++ (others ++ ')' :: rest))) := by
        intro h
        have hlength := congrArg List.length h
        simp only [List.length_append, List.length_cons] at hlength hle
        omega
      exact .step hround hmoved hrounds

end

-- What is written in a text is all there is to know about its structure.
theorem Item.unique {taken : Text} {k : Match} (hm : Item taken m) (hk : Item taken k) : k = m := by
  have hlength := Nat.le_refl (taken ++ []).length
  obtain ⟨last, m', hm', -, hexact⟩ := hm.settles false hlength
  obtain ⟨last', k', hk', -, hexact'⟩ := hk.settles false hlength
  have hsame : m' = k' := (Result.ok.inj (hm'.unique hk')).2
  rw [← (hexact outside_nil).1, ← (hexact' outside_nil).1, hsame]

-- The rule takes the longest item off the front of a text and gives its structure, and fails where
-- no item stands.
theorem value_takes_longest (tracing : Bool) (t : Text) :
    (∃ taken rest m, t = taken ++ rest ∧ Item taken m ∧ (∀ k, Item taken k → k = m) ∧
      (∀ other k, Item other k → other <+: t → other.length ≤ taken.length) ∧
      Settles (valueStore.env tracing) (5 * t.length + 5) value t (.ok rest m)) ∨
    ((∀ taken m, Item taken m → ¬taken <+: t) ∧
      Settles (valueStore.env tracing) (5 * t.length + 5) value t (.fail t)) := by
  obtain ⟨r, hr, rfl | ⟨taken, rest, m, hitem, rfl, rfl⟩⟩ := value_reads tracing t
  · refine .inr ⟨fun taken m hitem hprefix => ?_, hr⟩
    obtain ⟨rest, rfl⟩ := hprefix
    obtain ⟨last, k, hk, -⟩ := hitem.settles tracing (Nat.le_refl _)
    cases hr.unique hk
  · refine .inl ⟨taken, rest, m, rfl, hitem, fun k hk => hitem.unique hk, ?_, hr⟩
    rintro other k hother ⟨rest', hsplit⟩
    obtain ⟨last, k', hk', hle, -⟩ := hother.settles tracing (Nat.le_refl _)
    rw [hsplit] at hk'
    obtain ⟨rfl, rfl⟩ := Result.ok.inj (hr.unique hk')
    have hlength := congrArg List.length hsplit
    simp only [List.length_append] at hlength
    omega

end Descent.Example.FirstSteps
