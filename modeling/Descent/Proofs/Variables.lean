import Descent.Example.FirstSteps
import Descent.Proofs.Lexical

namespace Descent.Example.FirstSteps

open Descent.Parser Descent.Text

-- A value as it stands behind a name, with the sign in front of it.
structure Initial where
  before : Gap
  value : Token isAsciiDigit
  after : Gap

structure Variable where
  front : Gap
  beforeName : Gap
  name : Token isWordChar
  afterName : Gap
  initial : Option Initial
  back : Gap

def Initial.text (i : Initial) : Text :=
  '=' :: (i.before.1 ++ (i.value.1 ++ i.after.1))

def Initial.match (i : Initial) : Match :=
  .seq [.leaf ['='], .labeled "Value" (.leaf i.value.1)]

namespace Variable

def text (v : Variable) : Text :=
  v.front.1 ++ ("var".toList ++ (v.beforeName.1 ++ (v.name.1 ++ (v.afterName.1 ++
    (v.initial.elim [] Initial.text ++ ';' :: v.back.1)))))

def tree (v : Variable) : Tree :=
  .dict (("Name", .text v.name.1) :: (v.initial.map fun i => ("Value", .text i.value.1)).toList)

-- The blanks that are left for the semicolon to skip: those behind the value, or else behind the name.
def beforeEnd (v : Variable) : Gap :=
  v.initial.elim v.afterName (·.after)

end Variable

def Variable.match (v : Variable) : Match :=
  .seq [.leaf "var".toList, .labeled "Name" (.leaf v.name.1), v.initial.elim .empty Initial.match,
    .leaf [';']]

variable {env : Env} {rest t : Text}

def initialPart : Parser :=
  sequence [symbol ['='], label "Value" natural] .all

theorem initial_settles (w : Gap) (i : Initial) (ht : Outside isAsciiDigit t) :
    Settles env 3 initialPart (w.1 ++ (i.text ++ t)) (.ok (i.after.1 ++ t) i.match) := by
  have hequals : skipBlanks (w.1 ++ (i.text ++ t)) =
      ['='] ++ (i.before.1 ++ (i.value.1 ++ (i.after.1 ++ t))) := by
    simp only [Initial.text, List.cons_append, List.append_assoc]
    exact skipBlanks_gap_cons w (by decide)
  have hskipped : skipBlanks (i.before.1 ++ (i.value.1 ++ (i.after.1 ++ t))) =
      i.value.1 ++ (i.after.1 ++ t) := by
    rw [skipBlanks_gap]
    exact skipBlanks_of_outside (i.value.outside fun _ => not_isBlank_of_isAsciiDigit)
  have hsymbol : Settles env 1 (symbol ['=']) _ _ := settles_symbol rfl hequals
  have hdigits : Settles env 1 natural (i.value.1 ++ (i.after.1 ++ t)) _ := settles_natural _
  rw [takeRun_token i.value (ht.behind_gap i.after fun _ => not_isAsciiDigit_of_isBlank)] at hdigits
  have hvalue : Settles env 2 (label "Value" natural) _ _ := settles_of_gives trivial (.label hdigits)
  rw [hskipped] at hsymbol
  exact settles_of_gives trivial
    (.sequence (.next (hsymbol.mono (Nat.le_succ 1)) (.next hvalue (.done _))) rfl)

-- Without a value the blanks behind the name are given back.
theorem initialPart_settles (v : Variable) :
    Settles env 4 (maybe initialPart)
      (v.afterName.1 ++ (v.initial.elim [] Initial.text ++ ';' :: t))
      (.ok (v.beforeEnd.1 ++ ';' :: t) (v.initial.elim .empty Initial.match)) := by
  obtain ⟨front, beforeName, name, afterName, initial, back⟩ := v
  cases initial with
  | none =>
      have hsemicolon : skipBlanks (afterName.1 ++ ';' :: t) = ';' :: t :=
        skipBlanks_gap_cons afterName (by decide)
      have hsymbol : Settles env 1 (symbol ['=']) (afterName.1 ++ ';' :: t) _ :=
        settles_noSymbol rfl (by simp [hsemicolon])
      have hnone : Settles env 3 initialPart (afterName.1 ++ ';' :: t) _ :=
        settles_of_gives trivial (.sequenceBroken (.failed (hsymbol.mono (Nat.le_succ 1))))
      exact settles_of_gives trivial (.maybeAbsent hnone)
  | some i =>
      have hend : Outside isAsciiDigit (';' :: t) := outside_cons.mpr (by decide)
      exact settles_of_gives trivial (.maybe (initial_settles afterName i hend))

-- The semicolon and the sign of a value end the name.
theorem outside_behind_name (v : Variable) :
    Outside isWordChar (v.initial.elim [] Initial.text ++ ';' :: t) := by
  cases v.initial with
  | none => exact outside_cons.mpr (by decide)
  | some i => exact outside_cons.mpr (by decide)

theorem name_settles (a : Token isWordChar) (w : Gap) (ht : Outside isWordChar t) :
    Settles env 2 (label "Name" word) (a.1 ++ (w.1 ++ t))
      (.ok (w.1 ++ t) (.labeled "Name" (.leaf a.1))) := by
  have hword : Settles env 1 word (a.1 ++ (w.1 ++ t)) _ := settles_word _
  rw [takeRun_token a (ht.behind_gap w fun _ => not_isWordChar_of_isBlank)] at hword
  exact settles_of_gives trivial (.label hword)

theorem var_settles (w : Gap) (u : Text) :
    Settles env 1 (symbol "var".toList) (w.1 ++ ("var".toList ++ u))
      (.ok (skipBlanks u) (.leaf "var".toList)) := by
  let keyword : Token isWordChar := .of "var".toList (by decide) (by decide)
  refine settles_symbol rfl ?_
  rw [skipBlanks_gap]
  exact skipBlanks_of_outside (keyword.outside fun _ => not_isBlank_of_isWordChar)

theorem semi_settles (w : Gap) (u : Text) :
    Settles env 1 semi (w.1 ++ ';' :: u) (.ok (skipBlanks u) (.leaf [';'])) := by
  refine settles_symbol rfl ?_
  exact skipBlanks_gap_cons w (by decide)

theorem declaration_settles (v : Variable) (hrest : Outside isBlank rest) :
    Settles env 5 declaration (v.text ++ rest) (.ok rest v.match) := by
  let tail := v.afterName.1 ++ (v.initial.elim [] Initial.text ++ ';' :: (v.back.1 ++ rest))
  have hskipped : skipBlanks (v.beforeName.1 ++ (v.name.1 ++ tail)) = v.name.1 ++ tail := by
    rw [skipBlanks_gap]
    exact skipBlanks_of_outside (v.name.outside fun _ => not_isBlank_of_isWordChar)
  have hend : skipBlanks (v.back.1 ++ rest) = rest := by
    rw [skipBlanks_gap, skipBlanks_of_outside hrest]
  have hvar : Settles env 1 (symbol "var".toList) _ _ :=
    var_settles v.front (v.beforeName.1 ++ (v.name.1 ++ tail))
  have hname : Settles env 2 (label "Name" word) (v.name.1 ++ tail) _ :=
    name_settles v.name v.afterName (outside_behind_name v)
  have hinitial : Settles env 4 (maybe initialPart) tail _ := initialPart_settles v
  have hsemi : Settles env 1 semi _ _ := semi_settles v.beforeEnd (v.back.1 ++ rest)
  rw [hskipped] at hvar
  rw [hend] at hsemi
  have hall : Settles env 5 declaration _ (.ok rest v.match) :=
    settles_of_gives trivial (.sequence (.next (hvar.mono (by omega)) (.next (hname.mono (by omega))
      (.next hinitial (.next (hsemi.mono (by omega)) (.done _))))) rfl)
  simpa [Variable.text, tail] using hall

theorem ofMatch_match (v : Variable) : Tree.ofMatch v.match = .ok (some v.tree) := by
  obtain ⟨front, beforeName, name, afterName, initial, back⟩ := v
  cases initial <;> rfl

-- Whatever the blanks in it, a declaration comes to the tree of its name and value, and what follows it is
-- left as it is.
theorem declaration_spaced (v : Variable) (env : Env) (limit : Nat) :
    ∃ m, Tree.ofMatch m = .ok (some v.tree) ∧
      (declaration.invoke env (limit + 5) v.text).outcome = .ok (.ok [] m) ∧
      ∀ rest, Outside isBlank rest →
        (declaration.invoke env (limit + 5) (v.text ++ rest)).outcome = .ok (.ok rest m) := by
  have htaken : ∀ rest, Outside isBlank rest →
      (declaration.invoke env (limit + 5) (v.text ++ rest)).outcome = .ok (.ok rest v.match) :=
    fun rest hrest => (declaration_settles v hrest).outcome _ (by omega)
  refine ⟨v.match, ofMatch_match v, ?_, htaken⟩
  have hend := htaken [] outside_nil
  rwa [List.append_nil] at hend

def answer : Variable where
  front := .of ['\n', '\n'] (by decide)
  beforeName := .of ['\t', '\t'] (by decide)
  name := .of "answer".toList (by decide) (by decide)
  afterName := .of [' ', ' '] (by decide)
  initial := some ⟨.of ['\n', '\t'] (by decide), .of ['4', '2'] (by decide) (by decide),
    .of [' ', ' '] (by decide)⟩
  back := .of [' ', ' '] (by decide)

theorem declaration_spaced_answer :
    answer.text = "\n\nvar\t\tanswer  =\n\t42  ;  ".toList ∧
      ∃ m, Tree.ofMatch m =
          .ok (some (.dict [("Name", .text "answer".toList), ("Value", .text ['4', '2'])])) ∧
        (declaration.invoke (.ofTargets []) 5 answer.text).outcome = .ok (.ok [] m) ∧
        (declaration.invoke (.ofTargets []) 5 (answer.text ++ [';'])).outcome = .ok (.ok [';'] m) := by
  obtain ⟨m, hm, hend, hrest⟩ := declaration_spaced answer (.ofTargets []) 0
  exact ⟨by decide, m, hm, hend, hrest [';'] (outside_cons.mpr (by decide))⟩

end Descent.Example.FirstSteps
