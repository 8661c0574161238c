import ClusterEvents.Proofs.Snapshots.Expiry

/-!
# How long an entry is kept

What has been put into a group is found there until the group expires, whatever was stored before
(`get?_put`). The expiration is brought into sixty-four bits by wrapping around, so it is what remains
of the milliseconds there that counts: an entry is kept for just so long, or not at all if the remainder
has the sign bit (`get?_put_eq_some_iff`). Expirations below half of that range are what they say.
-/

namespace ClusterEvents

-- Powers are those that numbers bring along, whatever else is imported.
attribute [local instance (high)] instPowNat instNatPowNat Int.instNatPow

namespace DurableStore

variable {now later : Int}

/-- What has just been put into a group is there as long as the group is. -/
theorem get?_put (s : DurableStore) (now later : Int) (expiration : Duration)
    (group id text : String) :
    ((s.put now expiration group id text).get? later group id).1 =
      if later < expiry now expiration then some text else none := by
  have hget : Ascending.get? group (s.put now expiration group id text).expiries =
      some (expiry now expiration) := (Ascending.get?_put ..).trans (if_pos rfl)
  have htext : (s.put now expiration group id text).textOf group id = some text :=
    (textOf_putRow _ group id).trans (if_pos ⟨rfl, rfl⟩)
  generalize s.put now expiration group id text = written at hget htext
  have hexpired : written.isExpired later group = decide (expiry now expiration ≤ later) := by
    rw [isExpired, hget, Option.any_some]
  by_cases hlater : later < expiry now expiration
  · have hsettled : written.settled later group = written := by
      rw [settled, hexpired, if_neg (by simpa using hlater)]
    rw [DurableStore.get?, hsettled, isAbsent, hget, if_pos hlater, ← htext, textOf]
    simp [SnapshotRow.place]
  · have habsent : (written.settled later group).isAbsent group = true := by
      rw [isAbsent, settled_eq, get?_without, hexpired]
      simp [Int.not_lt.1 hlater]
    rw [DurableStore.get?, habsent, if_neg hlater]
    rfl

/-- The number in sixty-four bits has the sign bit from half of their range on. -/
theorem wrapped_eq (n : Nat) :
    wrapped n =
      if n % 2 ^ (64 : Nat) < 2 ^ (63 : Nat) then ((n % 2 ^ (64 : Nat) : Nat) : Int)
      else ((n % 2 ^ (64 : Nat) : Nat) : Int) - 2 ^ (64 : Nat) := by
  rw [wrapped, Int.bmod_def]
  split <;> split <;> omega

theorem lt_expiry_iff (hnow : 0 ≤ now) (hlater : now ≤ later) (hrange : later < 2 ^ (63 : Nat) - 1)
    (expiration : Duration) :
    later < expiry now expiration ↔
      expiration.millis % 2 ^ (64 : Nat) < 2 ^ (63 : Nat) ∧
        later < now + (expiration.millis % 2 ^ (64 : Nat) : Nat) := by
  rw [expiry, wrapped_eq, clamped]
  split <;> omega

/-- An entry is kept for the expiration as far as it fits into sixty-four bits, unless what is left of
it there counts as negative. -/
theorem get?_put_eq_some_iff (s : DurableStore) (hnow : 0 ≤ now) (hlater : now ≤ later)
    (hrange : later < 2 ^ (63 : Nat) - 1) (expiration : Duration) (group id text : String) :
    ((s.put now expiration group id text).get? later group id).1 = some text ↔
      expiration.millis % 2 ^ (64 : Nat) < 2 ^ (63 : Nat) ∧
        later < now + (expiration.millis % 2 ^ (64 : Nat) : Nat) := by
  rw [get?_put, ← lt_expiry_iff hnow hlater hrange, Option.ite_none_right_eq_some,
    and_iff_left rfl]

/-- The thirty days that are usual. -/
theorem get?_put_for_days :
    Words.duration? "720h" = some ⟨2592000000⟩ ∧
      ((put {} (2 ^ (62 : Nat)) ⟨2592000000⟩ "hosts_c1" "h1" "\x7b\x7d").get? (2 ^ (62 : Nat))
        "hosts_c1" "h1").1 = some "\x7b\x7d" :=
  ⟨by decide +kernel, (get?_put_eq_some_iff {} (by decide) (by decide) (by decide) _ _ _ _).2 (by decide)⟩

/-- The least number of milliseconds with the sign bit: what is put is gone at once. -/
theorem put_gone :
    ¬ ∀ (raw : String) (expiration : Duration) (s : DurableStore) (now : Int)
      (group id text : String), Words.duration? raw = some expiration → 1 ≤ expiration.millis →
      0 ≤ now → now ≤ 2 ^ (62 : Nat) →
      ((s.put now expiration group id text).get? now group id).1 = some text := by
  intro hall
  have hkept := hall "9223372036854775808ms" ⟨9223372036854775808⟩ {} 0 "hosts_c1" "h1" "\x7b\x7d"
    (by decide +kernel) (by decide) (by decide) (by decide)
  rw [get?_put, if_neg (by decide)] at hkept
  cases hkept

end DurableStore

end ClusterEvents
