import Descent.Proofs.Likeness

namespace Descent

namespace Run

variable {α β : Type} {x y z : Run α} {f g : α → Run β}

-- `x` was cut off by the nesting limit somewhere in `y`, or is all of `y`.
def UpTo (x y : Run α) : Prop :=
  (x.outcome = .error .nestingExceeded ∧ x.trace <+: y.trace) ∨ x = y

theorem UpTo.refl (x : Run α) : x.UpTo x :=
  .inr rfl

theorem UpTo.eq (h : x.UpTo y) (hx : x.outcome ≠ .error .nestingExceeded) : x = y :=
  h.resolve_left fun hcut => hx hcut.1

theorem UpTo.trace_prefix (h : x.UpTo y) : x.trace <+: y.trace := by
  rcases h with ⟨-, hprefix⟩ | rfl
  · exact hprefix
  · exact List.prefix_refl _

theorem UpTo.trans (hxy : x.UpTo y) (hyz : y.UpTo z) : x.UpTo z := by
  rcases hxy with ⟨hcut, hprefix⟩ | rfl
  · exact .inl ⟨hcut, hprefix.trans hyz.trace_prefix⟩
  · exact hyz

theorem trace_prefix_bind (x : Run α) (f : α → Run β) : x.trace <+: (x >>= f).trace := by
  cases hx : x.outcome with
  | error e =>
      have htrace : (x >>= f).trace = x.trace := congrArg trace (bind_of_error f hx)
      exact htrace ▸ List.prefix_refl _
  | ok a =>
      rw [bind_of_ok f hx]
      exact List.prefix_append _ _

theorem UpTo.bind (h : x.UpTo y) (hfg : ∀ a, x.outcome = .ok a → (f a).UpTo (g a)) :
    (x >>= f).UpTo (y >>= g) := by
  rcases h with ⟨hx, hprefix⟩ | rfl
  · rw [bind_of_error f hx]
    exact .inl ⟨rfl, hprefix.trans (trace_prefix_bind y g)⟩
  · cases hx : x.outcome with
    | error e => exact .inr (by rw [bind_of_error f hx, bind_of_error g hx])
    | ok a =>
        rw [bind_of_ok f hx, bind_of_ok g hx]
        rcases hfg a hx with ⟨hcut, hprefix⟩ | hsame
        · exact .inl ⟨hcut, (List.prefix_append_right_inj _).mpr hprefix⟩
        · exact .inr (by rw [hsame])

theorem upTo_stepwise : Stepwise UpTo :=
  ⟨.refl, fun h hfg => h.bind fun a _ => hfg a⟩

end Run

theorem Env.related_eq (env : Env) : env.Related Eq Eq env where
  targets slot := rel_refl (fun _ => rfl) (env.target? slot)
  ids id := .refl (fun _ => rfl) (env.lookUp id)
  builds e _ he := he ▸ .refl (fun _ => rfl) (env.build e)

namespace Parser

variable {env : Env}

theorem invoke_upTo_succ (limit : Nat) (p : Parser) (t : Text) :
    (p.invoke env limit t).UpTo (p.invoke env (limit + 1) t) := by
  induction limit generalizing p t with
  | zero => exact .inl ⟨rfl, List.nil_prefix⟩
  | succ limit ih =>
      have hrule : (p.rule.perform (invoke env limit) env t).UpTo
          (p.rule.perform (invoke env (limit + 1)) env t) :=
        Rule.perform_compares Run.upTo_stepwise env.related_eq
          (p.rule.like_self (fun _ => rfl) fun _ => rfl) fun q _ hq u => hq ▸ ih q u
      exact hrule.bind fun _ _ => .refl _

-- A run that was not cut off is the same, record by record, under every higher limit; one that was
-- cut off is the beginning of those under higher limits.
theorem invoke_upTo {limit higher : Nat} (h : limit ≤ higher) (p : Parser) (t : Text) :
    (p.invoke env limit t).UpTo (p.invoke env higher t) := by
  induction h with
  | refl => exact .refl _
  | @step higher _ ih => exact ih.trans (invoke_upTo_succ higher p t)

end Parser

end Descent
