import Descent.Proofs.Checking
import Descent.Proofs.Lexical
import Mathlib.Data.List.Find

namespace Descent

namespace Text

def ProperPrefix (a b : Text) : Prop :=
  a <+: b ∧ a ≠ b

instance (a b : Text) : Decidable (ProperPrefix a b) :=
  inferInstanceAs (Decidable (_ ∧ _))

variable {literal other t : Text} {literals : List Text}

-- The first literal of a list that stands in a text behind its blanks.
def firstLiteral? (literals : List Text) (t : Text) : Option Text :=
  literals.find? (·.isPrefixOf (skipBlanks t))

theorem firstLiteral?_eq_none :
    firstLiteral? literals t = none ↔ ∀ literal ∈ literals, ¬literal <+: skipBlanks t := by
  simp [firstLiteral?]

theorem firstLiteral?_mem (h : firstLiteral? literals t = some literal) : literal ∈ literals :=
  List.mem_of_find?_eq_some h

theorem firstLiteral?_stands (h : firstLiteral? literals t = some literal) :
    literal <+: skipBlanks t := by
  unfold firstLiteral? at h
  have hstands := List.find?_some h
  exact List.isPrefixOf_iff_prefix.mp hstands

theorem ProperPrefix.of_not_eq (h : literal <+: t) (hother : other <+: t) (hne : literal ≠ other) :
    ProperPrefix literal other ∨ ProperPrefix other literal :=
  (List.prefix_or_prefix_of_prefix h hother).imp (⟨·, hne⟩) (⟨·, hne.symm⟩)

-- One literal at most stands in a text if none begins with another one.
theorem firstLiteral?_of_perm {others : List Text} (hperm : others.Perm literals)
    (hfree : ∀ a ∈ literals, ∀ b ∈ literals, ¬ProperPrefix a b) :
    firstLiteral? others t = firstLiteral? literals t := by
  refine (List.find?_eq_find?_of_perm hperm.symm ?_).symm
  rintro a ⟨ha, hat⟩ b ⟨hb, hbt⟩
  rw [List.isPrefixOf_iff_prefix] at hat hbt
  by_contra hne
  rcases ProperPrefix.of_not_eq hat hbt hne with h | h
  · exact hfree a ha b hb h
  · exact hfree b hb a ha h

-- What stands there beside the first literal found comes behind it, and begins it.
theorem length_le_of_firstLiteral? (horder : literals.Pairwise fun a b => ¬ProperPrefix a b)
    (h : firstLiteral? literals t = some literal) (hmem : other ∈ literals)
    (hother : other <+: skipBlanks t) : other.length ≤ literal.length := by
  have hliteral : literal <+: skipBlanks t := firstLiteral?_stands h
  obtain ⟨-, before, behind, rfl, hbefore⟩ := List.find?_eq_some_iff_append.mp h
  have hbehind : other = literal ∨ other ∈ behind := by
    rcases List.mem_append.mp hmem with hmem | hmem
    · have hnot := hbefore other hmem
      rw [Bool.not_eq_true', Bool.eq_false_iff, Ne, List.isPrefixOf_iff_prefix] at hnot
      exact absurd hother hnot
    · exact List.mem_cons.mp hmem
  rcases hbehind with rfl | hbehind
  · exact Nat.le_refl _
  · by_cases hsame : literal = other
    · exact Nat.le_of_eq (congrArg List.length hsame.symm)
    · have hcons := (List.pairwise_append.mp horder).2.1
      have hnot := (List.pairwise_cons.mp hcons).1 other hbehind
      rcases ProperPrefix.of_not_eq hliteral hother hsame with hproper | hproper
      · exact absurd hproper hnot
      · exact hproper.1.length_le

end Text

open Text (ProperPrefix)

variable {env : Env} {literal t : Text} {literals : List Text}

namespace Rule

theorem takeSymbol_of_prefix (h : literal <+: Text.skipBlanks t) :
    ∃ rest, takeSymbol literal t = .ok rest (.leaf literal) := by
  simp [takeSymbol, h]

theorem takeSymbol_of_not_prefix (h : ¬literal <+: Text.skipBlanks t) :
    takeSymbol literal t = .fail t := by
  simp [takeSymbol, h]

-- What a list of literals takes: the first that stands there, as its symbol does.
def takeLiteral (literals : List Text) (t : Text) : Result :=
  match Text.firstLiteral? literals t with
  | some literal => takeSymbol literal t
  | none => .fail t

end Rule

theorem first_takeLiteral :
    Answers.First (Settles env 1) (literals.map Parser.symbol) t (Rule.takeLiteral literals t) := by
  induction literals with
  | nil => exact .none t
  | cons literal rest ih =>
      by_cases hstands : literal <+: Text.skipBlanks t
      · obtain ⟨u, htaken⟩ := Rule.takeSymbol_of_prefix hstands
        have hsymbol : Settles env 1 (.symbol literal) t (Rule.takeSymbol literal t) :=
          settles_takeSymbol rfl
        have hfirst : Rule.takeLiteral (literal :: rest) t = .ok u (.leaf literal) := by
          simp [Rule.takeLiteral, Text.firstLiteral?, hstands, htaken]
        rw [hfirst]
        exact .here (htaken ▸ hsymbol)
      · have hlater : Rule.takeLiteral (literal :: rest) t = Rule.takeLiteral rest t := by
          simp [Rule.takeLiteral, Text.firstLiteral?, hstands]
        rw [hlater]
        exact .later (settles_noSymbol rfl hstands) ih

theorem settles_takeLiteral :
    Settles env 2 (Parser.oneOf literals) t (Rule.takeLiteral literals t) :=
  settles_of_gives trivial (.choice first_takeLiteral)

-- The characters of a literal.
def Plain.toText : Plain → Text
  | .text s => s.toList
  | _ => []

theorem Judged.faults_eq_nil {α : Type} {good : α → Prop} {faults : List Fault} {a : α}
    (h : Judged good faults (.ok a)) : faults = [] := by
  cases faults with
  | nil => rfl
  | cons f faults => cases h

namespace Parser

variable {v : Plain} {vs ws : List Plain} {p : Parser}

theorem mapM_toText {f : Item → Except Fault Text} (h : ∀ w ∈ vs, f (.plain w) = .ok w.toText) :
    (vs.map Item.plain).mapM f = .ok (vs.map Plain.toText) := by
  induction vs with
  | nil => rfl
  | cons w vs ih =>
      obtain ⟨hw, hvs⟩ := List.forall_mem_cons.mp h
      rw [List.map_cons, List.mapM_cons, hw, ih hvs]
      rfl

-- Literals from something that is gone through item by item make an alternative each.
theorem oneOf?_eq_ok (hitems : v.items? = some vs) (hne : vs ≠ []) (hvs : ∀ w ∈ vs, w.Literal) :
    oneOf? v = .ok (oneOf (vs.map Plain.toText)) := by
  rw [oneOf?, Expr.elements_plain, hitems]
  obtain ⟨v, vs, rfl⟩ := List.exists_cons_of_ne_nil hne
  change (List.mapM _ ((v :: vs).map Item.plain) >>= fun texts => Except.ok (oneOf texts)) = _
  rw [mapM_toText]
  · rfl
  · intro w hw
    cases w with
    | text s =>
        have hs : s ≠ "" := hvs _ hw
        simp only [String.isEmpty_iff, hs, if_false]
        rfl
    | _ => exact (hvs _ hw).elim

theorem exists_items (h : oneOf? v = .ok p) :
    ∃ vs, v.items? = some vs ∧ vs ≠ [] ∧ (∀ w ∈ vs, w.Literal) ∧ p = oneOf (vs.map Plain.toText) := by
  -- No pattern is read for literals, so that any names of characters will do.
  let names : CharNames := .nameless
  have hjudged : Judged Parser.Assembled ((Expr.oneOf v).ownFaults fun id => .error (.unbound id)) _ :=
    Expr.oneOf?_judged v
  rw [h] at hjudged
  have hvalid : (Expr.oneOf v).Valid := Expr.ownFaults_eq_nil.mp hjudged.faults_eq_nil
  obtain ⟨vs, hitems, hne, hvs⟩ := hvalid
  exact ⟨vs, hitems, hne, hvs, Except.ok.inj (h.symm.trans (oneOf?_eq_ok hitems hne hvs))⟩

-- The order of literals of which none begins with another one makes no difference; and in an order in which
-- each comes before those that it begins with, the longest one that stands in a text is taken, as its symbol
-- takes it.
theorem oneOf_order (h : oneOf? v = .ok p) (env : Env) (limit : Nat) :
    ∃ vs, v.items? = some vs ∧
      ((∀ a ∈ vs, ∀ b ∈ vs, ¬ProperPrefix a.toText b.toText) → ∀ ws : List Plain, ws.Perm vs →
        ∃ q, oneOf? (.list ws) = .ok q ∧ ∀ t,
          (q.invoke env (limit + 2) t).outcome = (p.invoke env (limit + 2) t).outcome) ∧
      ((vs.Pairwise fun a b => ¬ProperPrefix a.toText b.toText) → ∀ t,
        (p.invoke env (limit + 2) t).outcome = .ok (.fail t) ∧
            (∀ w ∈ vs, ((symbol w.toText).invoke env (limit + 1) t).outcome = .ok (.fail t)) ∨
          ∃ w ∈ vs, ∃ rest,
            (p.invoke env (limit + 2) t).outcome = .ok (.ok rest (.leaf w.toText)) ∧
            ((symbol w.toText).invoke env (limit + 1) t).outcome = .ok (.ok rest (.leaf w.toText)) ∧
            ∀ other ∈ vs, ∀ rest m,
              ((symbol other.toText).invoke env (limit + 1) t).outcome = .ok (.ok rest m) →
                other.toText.length ≤ w.toText.length) := by
  obtain ⟨vs, hitems, hne, hvs, rfl⟩ := exists_items h
  have htaken : ∀ literals t, ((oneOf literals).invoke env (limit + 2) t).outcome =
      .ok (Rule.takeLiteral literals t) := fun _ _ => settles_takeLiteral.outcome _ (by omega)
  have hsymbol : ∀ literal t, ((symbol literal).invoke env (limit + 1) t).outcome =
      .ok (Rule.takeSymbol literal t) := fun _ _ => (settles_takeSymbol rfl).outcome _ (by omega)
  simp only [htaken, hsymbol]
  refine ⟨vs, hitems, fun hfree ws hperm => ?_, fun horder t => ?_⟩
  · have hwsne : ws ≠ [] := fun hnil => hne (List.nil_perm.mp (hnil ▸ hperm))
    have hws : ∀ w ∈ ws, w.Literal := fun w hw => hvs w (hperm.mem_iff.mp hw)
    have hfreeTexts : ∀ a ∈ vs.map Plain.toText, ∀ b ∈ vs.map Plain.toText, ¬ProperPrefix a b := by
      simpa using hfree
    refine ⟨_, oneOf?_eq_ok rfl hwsne hws, fun t => ?_⟩
    rw [htaken, Rule.takeLiteral, Rule.takeLiteral,
      Text.firstLiteral?_of_perm (hperm.map Plain.toText) hfreeTexts]
  · have horderTexts : (vs.map Plain.toText).Pairwise fun a b => ¬ProperPrefix a b :=
      List.pairwise_map.mpr horder
    cases hfirst : Text.firstLiteral? (vs.map Plain.toText) t with
    | none =>
        have hnone := Text.firstLiteral?_eq_none.mp hfirst
        left
        rw [Rule.takeLiteral, hfirst]
        refine ⟨rfl, fun w hw => congrArg Except.ok (Rule.takeSymbol_of_not_prefix ?_)⟩
        exact hnone _ (List.mem_map_of_mem hw)
    | some literal =>
        obtain ⟨w, hw, rfl⟩ := List.mem_map.mp (Text.firstLiteral?_mem hfirst)
        obtain ⟨rest, htake⟩ := Rule.takeSymbol_of_prefix (Text.firstLiteral?_stands hfirst)
        right
        refine ⟨w, hw, rest, ?_, congrArg Except.ok htake, fun other hother u m hok => ?_⟩
        · rw [Rule.takeLiteral, hfirst]
          exact congrArg Except.ok htake
        · refine Text.length_le_of_firstLiteral? horderTexts hfirst (List.mem_map_of_mem hother) ?_
          by_contra hnot
          rw [Rule.takeSymbol_of_not_prefix hnot] at hok
          cases hok

-- The longer sign is taken where it comes first, and two words of which neither begins the other may change
-- places.
theorem oneOf_order_signs :
    oneOf? (.list [.text "<=", .text "<"]) = .ok (oneOf [['<', '='], ['<']]) ∧
      ((oneOf [['<', '='], ['<']]).invoke (.ofTargets []) 2 ['<', '=', ' ', '1']).outcome =
        .ok (.ok ['1'] (.leaf ['<', '='])) ∧
      oneOf? (.list [.text "if", .text "in"]) = .ok (oneOf [['i', 'f'], ['i', 'n']]) ∧
      oneOf? (.list [.text "in", .text "if"]) = .ok (oneOf [['i', 'n'], ['i', 'f']]) ∧
      ∀ t, ((oneOf [['i', 'n'], ['i', 'f']]).invoke (.ofTargets []) 2 t).outcome =
        ((oneOf [['i', 'f'], ['i', 'n']]).invoke (.ofTargets []) 2 t).outcome := by
  have hsigns : oneOf? (.list [.text "<=", .text "<"]) = .ok (oneOf [['<', '='], ['<']]) := rfl
  have hwords : oneOf? (.list [.text "if", .text "in"]) = .ok (oneOf [['i', 'f'], ['i', 'n']]) := rfl
  have hturned : oneOf? (.list [.text "in", .text "if"]) = .ok (oneOf [['i', 'n'], ['i', 'f']]) := rfl
  refine ⟨hsigns, ?_, hwords, hturned, ?_⟩
  · obtain ⟨_, ⟨⟩, -, hlongest⟩ := oneOf_order hsigns (.ofTargets []) 0
    rcases hlongest (by decide) ['<', '=', ' ', '1'] with ⟨-, hnone⟩ | ⟨w, hw, rest, htaken, hsign, hlong⟩
    · cases hnone (.text "<") (by simp)
    · rcases List.mem_pair.mp hw with rfl | rfl
      · cases hsign
        exact htaken
      · exact absurd (hlong (.text "<=") (by simp) _ _ rfl) (by decide)
  · obtain ⟨_, ⟨⟩, hfree, -⟩ := oneOf_order hwords (.ofTargets []) 0
    obtain ⟨q, hq, hsame⟩ := hfree (by decide) [.text "in", .text "if"] (.swap ..)
    obtain rfl := Except.ok.inj (hturned.symm.trans hq)
    exact hsame

end Parser

end Descent
