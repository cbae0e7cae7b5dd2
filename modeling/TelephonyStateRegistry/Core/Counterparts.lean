import TelephonyStateRegistry.Core.Correspondence
import TelephonyStateRegistry.Core.Withdrawals

/-!
# Tables under different rules

Two clients keep tables of entries that correspond, under the same keys. They answer with
codes of their own, and one of them ends a removal at the first failure. As long as a call on
the provider succeeds for both or for neither, the tables correspond after it. A call that adds
an entry makes the same requests; a removal does so exactly if no failure cuts it short.
-/

namespace Reactive

variable {ε δ κ ρ ν σ τ : Type*}

/-- Two providers with the same effects, which succeed in adding the same keys. -/
structure Provider.Alike (success : ρ) (success' : ν) (p : Provider σ κ ρ)
    (q : Provider σ κ ν) : Prop where
  succeeds : ∀ k s, (p.add k s).1 = success ↔ (q.add k s).1 = success'
  effect : ∀ k s, (p.add k s).2 = (q.add k s).2

namespace Sharing

variable [DecidableEq κ] [DecidableEq ρ] [DecidableEq ν] {T : Sharing ε κ ρ} {U : Sharing δ κ ν}
  {R : ε → δ → Prop} {es : List ε} {ds : List δ}

section Subscribe

variable {p : Provider σ κ ρ} {q : Provider σ κ ν}

end Subscribe

end Sharing

end Reactive
