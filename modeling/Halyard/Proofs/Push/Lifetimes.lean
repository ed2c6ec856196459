/-
# How long a token is used

A token is replaced ten minutes before it expires, or halfway if it does not live longer
than that, and never within the first second. It is not replaced after it expired, if it
lives at all (`Token.refreshAfter_le`).

The two rules do not meet. A token of ten minutes is replaced after five of them, and one
that lives a second longer is replaced after a second. So of two tokens the one that lives
longer may be replaced earlier, and this is so exactly if it alone outlives the grace, by
less than half of what the other one lives (`Token.refreshAfter_lt_iff`).

Key definitions: `Token.Lives`, `Token.refreshAfter`, `Token.Undercuts`, `Token.round?`.
Key theorems: `Token.refreshIn?_of_lives`, `Token.refreshAfter_le`,
`Token.refreshAfter_lt_iff`.
-/
import Halyard.Push.Token

namespace Halyard.Push.Token

variable {t : Token} {l l' : Nat}

/-- Whether a token expires some seconds after its issue. -/
def Lives (t : Token) (secs : Nat) : Prop :=
  ∃ issued, t.issuedAt = some issued ∧ t.expiresAt = some (issued + secs)

/-- How many seconds after its issue a token is replaced, by how many it lives. -/
def refreshAfter (lifetime : Nat) : Nat :=
  max 1 (if refreshGrace < lifetime then lifetime - refreshGrace else lifetime / 2)

theorem refreshIn?_of_lives (h : t.Lives l) : t.refreshIn? = some (refreshAfter l) := by
  obtain ⟨issued, hissued, hexpires⟩ := h
  have hlate : ¬ issued + l < issued := by omega
  have hlifetime : issued + l - issued = l := by omega
  simp only [refreshIn?, hissued, hexpires, Option.bind_eq_bind, Option.bind_some, if_neg hlate,
    hlifetime]
  rfl

theorem one_le_refreshAfter (l : Nat) : 1 ≤ refreshAfter l :=
  Nat.le_max_left _ _

/-- **No token is used beyond its expiry.** -/
theorem refreshAfter_le (h : 0 < l) : refreshAfter l ≤ l := by
  unfold refreshAfter
  split <;> omega

/-! ### Two lifetimes -/

/-- Whether of two lifetimes the longer one alone exceeds the grace, by less than half of the
shorter one. -/
structure Undercuts (shorter longer : Nat) : Prop where
  within : shorter ≤ refreshGrace
  beyond : refreshGrace < longer
  excess : longer - refreshGrace < shorter / 2

/-- **Of two tokens the one that lives longer is replaced earlier exactly if it undercuts.** Under
the same rule it is replaced no earlier; so the rules differ, and the other one is replaced
halfway. -/
theorem refreshAfter_lt_iff (h : l ≤ l') : refreshAfter l' < refreshAfter l ↔ Undercuts l l' := by
  constructor
  · intro hlt
    unfold refreshAfter at hlt
    by_cases hl' : refreshGrace < l'
    · by_cases hl : refreshGrace < l
      · rw [if_pos hl', if_pos hl] at hlt
        omega
      · rw [if_pos hl', if_neg hl] at hlt
        exact ⟨by omega, hl', by omega⟩
    · rw [if_neg hl', if_neg (by omega)] at hlt
      omega
  · rintro ⟨hwithin, hbeyond, hexcess⟩
    unfold refreshAfter
    rw [if_pos hbeyond, if_neg (by omega)]
    omega

/-! ### From one authentication to the next -/

/-- How many milliseconds there are from the moment at which a token is granted to the one at which
it is replaced: those that it asks to wait before connecting, and those until it is replaced. -/
def round? (t : Token) : Option Nat :=
  t.refreshIn?.map fun secs => (t.connectDelay.getD 0 + secs) * 1000

/-- Whether a token that is replaced at all is used for some milliseconds. -/
def Lasts (t : Token) (ms : Nat) : Prop := ∀ n, t.round? = some n → ms ≤ n

theorem round?_of_lives (h : t.Lives l) :
    t.round? = some ((t.connectDelay.getD 0 + refreshAfter l) * 1000) := by
  rw [round?, refreshIn?_of_lives h]
  rfl

end Halyard.Push.Token
