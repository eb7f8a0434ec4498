import Mathlib.Algebra.Order.BigOperators.Group.Finset

namespace Quota

variable {κ α : Type}

/-- Slots that accounts hold, with the bytes they are charged. -/
structure Holdings (κ α : Type) where
  keys : Finset κ
  account : κ → α
  bytes : κ → Nat

namespace Holdings

/-- The slots whose account is among these. -/
def slots (h : Holdings κ α) (p : α → Prop) [DecidablePred p] : Finset κ :=
  h.keys.filter fun key => p (h.account key)

/-- How many slots the accounts of `p` hold. -/
def count (h : Holdings κ α) (p : α → Prop) [DecidablePred p] : Nat := (h.slots p).card

/-- How many bytes they hold. -/
def total (h : Holdings κ α) (p : α → Prop) [DecidablePred p] : Nat := ∑ key ∈ h.slots p, h.bytes key

/-- Fewer slots of the same accounts, with no more bytes. -/
structure Le (h h' : Holdings κ α) : Prop where
  keys : ∀ key ∈ h.keys, key ∈ h'.keys
  account : ∀ key ∈ h.keys, h.account key = h'.account key
  bytes : ∀ key ∈ h.keys, h.bytes key ≤ h'.bytes key

variable {h h' h'' : Holdings κ α} {p : α → Prop} [DecidablePred p]

theorem mem_slots {key : κ} : key ∈ h.slots p ↔ key ∈ h.keys ∧ p (h.account key) :=
  Finset.mem_filter

theorem Le.slots_subset (hle : Le h h') : h.slots p ⊆ h'.slots p := by
  intro key hmem
  rw [mem_slots] at hmem ⊢
  rw [← hle.account key hmem.1]
  exact ⟨hle.keys key hmem.1, hmem.2⟩

theorem Le.count_le (hle : Le h h') : h.count p ≤ h'.count p :=
  Finset.card_le_card hle.slots_subset

theorem Le.total_le (hle : Le h h') : h.total p ≤ h'.total p := by
  calc h.total p
      ≤ ∑ key ∈ h.slots p, h'.bytes key :=
        Finset.sum_le_sum fun key hmem => hle.bytes key (mem_slots.mp hmem).1
    _ ≤ h'.total p := Finset.sum_le_sum_of_subset hle.slots_subset

theorem slots_mono {q : α → Prop} [DecidablePred q] (hpq : ∀ account, p account → q account) :
    h.slots p ⊆ h.slots q := fun _ hmem =>
  mem_slots.mpr ⟨(mem_slots.mp hmem).1, hpq _ (mem_slots.mp hmem).2⟩

theorem count_mono {q : α → Prop} [DecidablePred q] (hpq : ∀ account, p account → q account) :
    h.count p ≤ h.count q := Finset.card_le_card (slots_mono hpq)

theorem total_mono {q : α → Prop} [DecidablePred q] (hpq : ∀ account, p account → q account) :
    h.total p ≤ h.total q := Finset.sum_le_sum_of_subset (slots_mono hpq)

variable [DecidableEq κ]

/-- A slot charged anew: as it was but for one key, held by an account with some bytes. -/
def charge (h : Holdings κ α) (key : κ) (account : α) (bytes : Nat) : Holdings κ α where
  keys := insert key h.keys
  account := Function.update h.account key account
  bytes := Function.update h.bytes key bytes

section Charge

variable {key : κ} {account : α} {bytes : Nat}

section

variable (hheld : key ∈ h.keys → h.account key = account)
include hheld

/-- The slots of the other accounts are not touched by a charge of one. -/
theorem slots_charge_other (hother : ¬ p account) :
    (h.charge key account bytes).slots p = h.slots p := by
  ext other
  rw [mem_slots, mem_slots, charge]
  by_cases heq : other = key
  · subst heq
    simp only [Function.update_self]
    constructor
    · exact fun hmem => absurd hmem.2 hother
    · intro hmem
      rw [hheld hmem.1] at hmem
      exact absurd hmem.2 hother
  · simp [heq, Function.update_of_ne]

theorem slots_charge_self (hself : p account) :
    (h.charge key account bytes).slots p = insert key (h.slots p) := by
  ext other
  rw [mem_slots, Finset.mem_insert, mem_slots, charge]
  by_cases heq : other = key
  · subst heq
    simp [hself]
  · simp [heq, Function.update_of_ne]

/-- A charge adds a slot when the key is new. -/
theorem count_charge_le :
    (h.charge key account bytes).count p ≤ h.count p + if key ∈ h.keys ∨ ¬ p account then 0 else 1 := by
  by_cases hself : p account
  · rw [count, slots_charge_self hheld hself]
    by_cases hmem : key ∈ h.keys
    · have hslot : key ∈ h.slots p := mem_slots.mpr ⟨hmem, by rwa [hheld hmem]⟩
      rw [Finset.insert_eq_of_mem hslot]
      exact Nat.le_add_right _ _
    · rw [if_neg (by tauto)]
      exact Finset.card_insert_le _ _
  · rw [count, slots_charge_other hheld hself]
    exact Nat.le_add_right _ _

/-- A charge adds the bytes beyond those that the slot had. -/
theorem total_charge_le (held : Nat) (hbytes : key ∈ h.keys → held ≤ h.bytes key)
    (hnew : key ∉ h.keys → held = 0) :
    (h.charge key account bytes).total p ≤
      h.total p + if p account then bytes - held else 0 := by
  have hrest : ∀ keys : Finset κ, key ∉ keys →
      ∑ other ∈ keys, (h.charge key account bytes).bytes other = ∑ other ∈ keys, h.bytes other := by
    intro keys hkeys
    refine Finset.sum_congr rfl fun other hmem => ?_
    exact Function.update_of_ne (fun heq : other = key => hkeys (heq ▸ hmem)) _ _
  have hcharged : (h.charge key account bytes).bytes key = bytes := Function.update_self _ _ _
  by_cases hself : p account
  · rw [total, slots_charge_self hheld hself, if_pos hself, total]
    by_cases hslot : key ∈ h.slots p
    · have hmem := (mem_slots.mp hslot).1
      rw [Finset.insert_eq_of_mem hslot, ← Finset.add_sum_erase _ _ hslot,
        ← Finset.add_sum_erase (h.slots p) h.bytes hslot, hrest _ (Finset.notMem_erase _ _), hcharged]
      have := hbytes hmem
      omega
    · have hmem : key ∉ h.keys := fun hmem => hslot (mem_slots.mpr ⟨hmem, by rwa [hheld hmem]⟩)
      rw [Finset.sum_insert hslot, hrest _ hslot, hcharged, hnew hmem]
      omega
  · rw [total, slots_charge_other hheld hself, if_neg hself, total, hrest]
    · exact le_refl _
    · intro hslot
      obtain ⟨hmem, hp⟩ := mem_slots.mp hslot
      rw [hheld hmem] at hp
      exact hself hp

end

end Charge

/-- The limits on all slots and on those of one account. -/
structure Limits where
  slots : Nat
  slotsPerAccount : Nat
  bytes : Nat
  bytesPerAccount : Nat

variable [DecidableEq α]

/-- Holdings that keep the four limits. -/
structure Within (h : Holdings κ α) (limits : Limits) : Prop where
  slots : h.count (fun _ => True) ≤ limits.slots
  slotsPerAccount : ∀ account, h.count (· = account) ≤ limits.slotsPerAccount
  bytes : h.total (fun _ => True) ≤ limits.bytes
  bytesPerAccount : ∀ account, h.total (· = account) ≤ limits.bytesPerAccount

omit [DecidableEq κ] in
theorem Within.of_le {limits : Limits} (hwithin : h'.Within limits) (hle : Le h h') :
    h.Within limits where
  slots := hle.count_le.trans hwithin.slots
  slotsPerAccount := fun account => hle.count_le.trans (hwithin.slotsPerAccount account)
  bytes := hle.total_le.trans hwithin.bytes
  bytesPerAccount := fun account => hle.total_le.trans (hwithin.bytesPerAccount account)

/-- A charge that was checked against the limits keeps them. -/
theorem Within.charge {limits : Limits} (hwithin : h.Within limits) (key : κ) (account : α)
    (bytes : Nat) (hheld : key ∈ h.keys → h.account key = account) (held : Nat)
    (hbytes : key ∈ h.keys → held ≤ h.bytes key) (hnew : key ∉ h.keys → held = 0)
    (hslots : h.count (fun _ => True) + (if key ∈ h.keys then 0 else 1) ≤ limits.slots)
    (hslotsAccount : h.count (· = account) + (if key ∈ h.keys then 0 else 1) ≤
      limits.slotsPerAccount) (htotal : h.total (fun _ => True) + (bytes - held) ≤ limits.bytes)
    (htotalAccount : h.total (· = account) + (bytes - held) ≤ limits.bytesPerAccount) :
    (h.charge key account bytes).Within limits where
  slots := by
    refine (count_charge_le hheld).trans ?_
    simpa using hslots
  slotsPerAccount := fun other => by
    refine (count_charge_le hheld).trans ?_
    by_cases hother : account = other
    · subst hother
      simpa using hslotsAccount
    · simpa [hother] using hwithin.slotsPerAccount other
  bytes := by
    refine (total_charge_le hheld held hbytes hnew).trans ?_
    simpa using htotal
  bytesPerAccount := fun other => by
    refine (total_charge_le hheld held hbytes hnew).trans ?_
    by_cases hother : account = other
    · subst hother
      simpa using htotalAccount
    · simpa [hother] using hwithin.bytesPerAccount other

end Holdings

end Quota
