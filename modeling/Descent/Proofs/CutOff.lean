import Descent.Proofs.Limit
import Descent.Proofs.Outcomes

namespace Descent

namespace Runner

variable {r : Runner} {env : Env} {limit higher : Nat} {p : Parser} {source : Text}

-- The limit has a part in a run by way of the invocation alone.
theorem run_congr (h : p.invoke env limit source = p.invoke env higher source) :
    r.run env limit p source = r.run env higher p source := by
  rw [run, run, call, call, h]

theorem outcome_run_of_cut (hfits : ¬r.Refuses source)
    (hcut : (p.invoke env limit source).outcome = .error .nestingExceeded) :
    (r.run env limit p source).outcome = .error .recursion := by
  rw [outcome_run hfits, hcut]
  rfl

theorem outcome_parse_of_cut (hfits : ¬r.Refuses source)
    (hcut : (p.invoke env limit source).outcome = .error .nestingExceeded) :
    (r.parse env limit p source).outcome = .error .recursion := by
  rw [outcome_parse hfits, hcut]
  rfl

-- A source that is refused is refused under every limit, as the parser is not invoked on it.
theorem run_eq_of_le (h : limit ≤ higher)
    (hcut : (p.invoke env limit source).outcome = .error .nestingExceeded → r.Refuses source) :
    r.run env limit p source = r.run env higher p source := by
  by_cases hrefuses : r.Refuses source
  · rw [run_of_refuses hrefuses, run_of_refuses hrefuses]
  · exact run_congr ((Parser.invoke_upTo h p source).eq fun hexceeded => hrefuses (hcut hexceeded))

theorem run_eq_of_ne_recursion (h : limit ≤ higher)
    (hrun : (r.run env limit p source).outcome ≠ .error .recursion) :
    r.run env limit p source = r.run env higher p source := by
  refine run_eq_of_le h fun hcut => ?_
  by_contra hfits
  exact hrun (outcome_run_of_cut hfits hcut)

theorem parse_eq_of_ne_recursion (h : limit ≤ higher)
    (hparse : (r.parse env limit p source).outcome ≠ .error .recursion) :
    r.parse env limit p source = r.parse env higher p source := by
  have hrun : r.run env limit p source = r.run env higher p source := by
    refine run_eq_of_le h fun hcut => ?_
    by_contra hfits
    exact hparse (outcome_parse_of_cut hfits hcut)
  rw [parse, parse, hrun]

end Runner

namespace Parser

-- Under a higher limit everything stays as it was, result or fault and records, unless the limit itself
-- was what stopped the run; then the records stay and more may follow. The same holds of a runner, with
-- its log. The bound on rounds, which stops repetitions of parsers that lengthen their text, has no part in
-- this, as it does not depend on the limit.
theorem limit_only_cuts {limit higher : Nat} (h : limit ≤ higher) (env : Env) (p : Parser) (t : Text) :
    ((p.invoke env limit t).outcome ≠ .error .nestingExceeded →
      p.invoke env higher t = p.invoke env limit t) ∧
    (p.invoke env limit t).trace <+: (p.invoke env higher t).trace ∧
    ∀ r : Runner,
      ((r.run env limit p t).outcome ≠ .error .recursion →
        r.run env higher p t = r.run env limit p t) ∧
      ((r.parse env limit p t).outcome ≠ .error .recursion →
        r.parse env higher p t = r.parse env limit p t) := by
  have hupTo : (p.invoke env limit t).UpTo (p.invoke env higher t) := invoke_upTo h p t
  refine ⟨fun hrun => (hupTo.eq hrun).symm, hupTo.trace_prefix, fun r => ⟨fun hrun => ?_, fun hparse => ?_⟩⟩
  · exact (Runner.run_eq_of_ne_recursion h hrun).symm
  · exact (Runner.parse_eq_of_ne_recursion h hparse).symm

-- A digit read by hand, a box in parentheses, or a colon and as many boxes behind it as there are.
def box : Parser :=
  choice [custom .digit "digit", sequence [char '(', forward 0 "box", char ')'] .backwards,
    bind (char ':') fun _ => .parser (many (forward 0 "box"))]

def boxes : Env :=
  { Env.ofTargets [box] with tracing := true }

-- Nine levels are enough for a box in parentheses behind a colon, and eight are not.
theorem limit_only_cuts_boxes :
    (box.invoke boxes 8 [':', '(', '1', ')', '2']).outcome = .error .nestingExceeded ∧
    (box.invoke boxes 9 [':', '(', '1', ')', '2']).outcome =
      .ok (.ok [] (.seq [.seq [.leaf [')'], .leaf ['1'], .leaf ['(']], .leaf ['2']])) ∧
    box.invoke boxes 500 [':', '(', '1', ')', '2'] = box.invoke boxes 9 [':', '(', '1', ')', '2'] := by
  have hrun : (box.invoke boxes 9 [':', '(', '1', ')', '2']).outcome =
      .ok (.ok [] (.seq [.seq [.leaf [')'], .leaf ['1'], .leaf ['(']], .leaf ['2']])) := rfl
  have hfinished : (box.invoke boxes 9 [':', '(', '1', ')', '2']).outcome ≠ .error .nestingExceeded := by
    simp [hrun]
  obtain ⟨hsame, -, -⟩ := limit_only_cuts (by decide : 9 ≤ 500) boxes box [':', '(', '1', ')', '2']
  exact ⟨rfl, hrun, hsame hfinished⟩

end Parser

end Descent
