import Mathlib.Data.List.Nodup
import SellerAgents.AuthRefresh.Invariant

namespace SellerAgents.AuthRefresh
open Subscriptions (Date)

variable {Token : Type}

section Consume
variable (id replacementId : Nat) (now : Date) (row : RefreshTokenRow Token)

@[simp] theorem RefreshTokenRow.consume_id : (row.consume id replacementId now).id = row.id := by
  unfold RefreshTokenRow.consume
  split <;> rfl

@[simp] theorem RefreshTokenRow.consume_tokenHash :
    (row.consume id replacementId now).tokenHash = row.tokenHash := by
  unfold RefreshTokenRow.consume
  split <;> rfl

@[simp] theorem RefreshTokenRow.consume_key :
    (row.consume id replacementId now).rotationIdempotencyHash = row.rotationIdempotencyHash := by
  unfold RefreshTokenRow.consume
  split <;> rfl

@[simp] theorem RefreshTokenRow.consume_replayExpiresAt :
    (row.consume id replacementId now).replayExpiresAt = row.replayExpiresAt := by
  unfold RefreshTokenRow.consume
  split <;> rfl

theorem RefreshTokenRow.consume_self (h : row.id = id) :
    (row.consume id replacementId now).consumedAt = some now ∧
      (row.consume id replacementId now).replacedByTokenId = some replacementId := by
  unfold RefreshTokenRow.consume
  rw [if_pos h]
  exact ⟨rfl, rfl⟩

theorem RefreshTokenRow.consume_other (h : row.id ≠ id) : row.consume id replacementId now = row :=
  if_neg h

end Consume

variable {derive : Token → Nat → Token} {s : Server Token} {sent : List (Token × Nat)}

namespace Server.Chain

/-- Rows with one id are one row. -/
theorem eq_of_id (h : s.Chain derive sent) {a b : RefreshTokenRow Token} (ha : a ∈ s.rows)
    (hb : b ∈ s.rows) (hid : a.id = b.id) : a = b :=
  List.inj_on_of_nodup_map h.ids ha hb hid

/-- Rows of one token are one row. -/
theorem eq_of_token (h : s.Chain derive sent) {a b : RefreshTokenRow Token} (ha : a ∈ s.rows)
    (hb : b ∈ s.rows) (htoken : a.tokenHash = b.tokenHash) : a = b :=
  List.inj_on_of_nodup_map h.tokens ha hb htoken

/-- The current token has no successor. -/
theorem current_not_rotated (h : s.Chain derive sent) {a row : RefreshTokenRow Token} {key : Nat}
    (ha : s.IsCurrent a) : ¬ s.Successor derive a.tokenHash key row := by
  rintro ⟨old, hold, htoken, hconsumed, -⟩
  obtain rfl := h.eq_of_token hold ha.1 htoken
  simp [ha.2] at hconsumed

/-- More requests sent change nothing about the rows. -/
theorem mono (h : s.Chain derive sent) {sent' : List (Token × Nat)} (hsub : sent ⊆ sent') :
    s.Chain derive sent' where
  ids := h.ids
  tokens := h.tokens
  current := h.current
  consumed := by
    intro old hold hconsumed
    obtain ⟨key, row, hsent, hrow⟩ := h.consumed old hold hconsumed
    exact ⟨key, row, hsub hsent, hrow⟩

end Server.Chain

section Rotate
variable {token row : RefreshTokenRow Token} {now : Date}

theorem Server.mem_rotate {x : RefreshTokenRow Token} : x ∈ (s.rotate token row now).rows ↔
    (∃ other ∈ s.rows, other.consume token.id row.id now = x) ∨ x = row := by
  simp [Server.rotate]

/-- A rotation keeps what earlier rotations inserted. -/
theorem Server.Successor.rotate {t : Token} {key : Nat} {next : RefreshTokenRow Token}
    (hchain : s.Chain derive sent) (htoken : s.IsCurrent token)
    (h : s.Successor derive t key next) :
    (s.rotate token row now).Successor derive t key (next.consume token.id row.id now) := by
  obtain ⟨old, hold, ht, hconsumed, hnext, hreplaced, hkey, hreplay, hderived⟩ := h
  have hne : old.id ≠ token.id := by
    intro heq
    obtain rfl := hchain.eq_of_id hold htoken.1 heq
    simp [htoken.2] at hconsumed
  have hsame := RefreshTokenRow.consume_other token.id row.id now old hne
  refine ⟨old, mem_rotate.mpr (.inl ⟨old, hold, hsame⟩), ht, hconsumed,
    mem_rotate.mpr (.inl ⟨next, hnext, rfl⟩), ?_, ?_, ?_, ?_⟩
  · simpa using hreplaced
  · simpa using hkey
  · simpa using hreplay
  · simpa using hderived

/-- The rotated token's successor is the inserted row. -/
theorem Server.successor_rotate {key : Nat} (htoken : token ∈ s.rows)
    (hkey : row.rotationIdempotencyHash = some key) (hreplay : row.replayExpiresAt.isSome)
    (hderived : row.tokenHash = derive token.tokenHash key) :
    (s.rotate token row now).Successor derive token.tokenHash key row := by
  have hself := RefreshTokenRow.consume_self token.id row.id now token rfl
  refine ⟨_, mem_rotate.mpr (.inl ⟨token, htoken, rfl⟩), ?_, ?_, mem_rotate.mpr (.inr rfl), hself.2,
    hkey, hreplay, hderived⟩
  · simp
  · simp [hself.1]

/-- The inserted row is the current one afterwards. -/
theorem Server.isCurrent_rotate (hchain : s.Chain derive sent) (htoken : s.IsCurrent token)
    (hfresh : row.consumedAt = none) {x : RefreshTokenRow Token} :
    (s.rotate token row now).IsCurrent x ↔ x = row := by
  constructor
  · rintro ⟨hx, hnone⟩
    rcases mem_rotate.mp hx with ⟨other, hother, rfl⟩ | rfl
    · by_cases hid : other.id = token.id
      · rw [(RefreshTokenRow.consume_self token.id row.id now other hid).1] at hnone
        cases hnone
      · rw [RefreshTokenRow.consume_other token.id row.id now other hid] at hnone
        exact absurd (congrArg RefreshTokenRow.id (hchain.current _ _ ⟨hother, hnone⟩ htoken)) hid
    · rfl
  · rintro rfl
    exact ⟨mem_rotate.mpr (.inr rfl), hfresh⟩

theorem Server.admits_iff [DecidableEq Token] : s.admits row = true ↔ ∀ other ∈ s.rows,
    other.id ≠ row.id ∧ other.tokenHash ≠ row.tokenHash ∧ other.generation ≠ row.generation := by
  unfold Server.admits
  rw [List.all_eq_true]
  apply forall₂_congr
  intro other _
  simp [and_assoc]

theorem Server.Chain.rotate [DecidableEq Token] (h : s.Chain derive sent) (htoken : s.IsCurrent token)
    (hfresh : row.consumedAt = none) (hadmits : s.admits row = true) {key : Nat}
    (hkey : row.rotationIdempotencyHash = some key) (hreplay : row.replayExpiresAt.isSome)
    (hderived : row.tokenHash = derive token.tokenHash key) (hsent : (token.tokenHash, key) ∈ sent) :
    (s.rotate token row now).Chain derive sent where
  ids := by
    have hadmits := admits_iff.mp hadmits
    have hids : ((s.rotate token row now).rows.map RefreshTokenRow.id) =
        s.rows.map RefreshTokenRow.id ++ [row.id] := by
      simp [Server.rotate, Function.comp_def]
    rw [hids, List.nodup_append]
    refine ⟨h.ids, List.nodup_singleton _, ?_⟩
    intro a ha b hb
    obtain ⟨other, hother, rfl⟩ := List.mem_map.mp ha
    obtain rfl := List.mem_singleton.mp hb
    exact (hadmits other hother).1
  tokens := by
    have hadmits := admits_iff.mp hadmits
    have htokens : ((s.rotate token row now).rows.map RefreshTokenRow.tokenHash) =
        s.rows.map RefreshTokenRow.tokenHash ++ [row.tokenHash] := by
      simp [Server.rotate, Function.comp_def]
    rw [htokens, List.nodup_append]
    refine ⟨h.tokens, List.nodup_singleton _, ?_⟩
    intro a ha b hb
    obtain ⟨other, hother, rfl⟩ := List.mem_map.mp ha
    obtain rfl := List.mem_singleton.mp hb
    exact (hadmits other hother).2.1
  current := by
    intro a b ha hb
    rw [(isCurrent_rotate h htoken hfresh).mp ha, (isCurrent_rotate h htoken hfresh).mp hb]
  consumed := by
    intro old hold hconsumed
    rcases mem_rotate.mp hold with ⟨other, hother, rfl⟩ | rfl
    · by_cases hid : other.id = token.id
      · obtain rfl := h.eq_of_id hother htoken.1 hid
        exact ⟨key, row, by simpa using hsent, by simpa using successor_rotate htoken.1 hkey hreplay hderived⟩
      · rw [RefreshTokenRow.consume_other token.id row.id now other hid] at hconsumed ⊢
        obtain ⟨key', next, hsent', hnext⟩ := h.consumed other hother hconsumed
        exact ⟨key', _, hsent', hnext.rotate h htoken⟩
    · simp [hfresh] at hconsumed

end Rotate

/-- What `rotateRefresh` answers and leaves behind, when each token was sent with one key alone and
retries come inside the replay window. -/
inductive Rotates [DecidableEq Token] (s : Server Token) (input : RotateRefresh Token) (now : Date)
    (replacementId : Nat) : Rotation.Answer × Server Token → Prop where
  | invalid : Rotates s input now replacementId (.invalid, s)
  | rotated (token : RefreshTokenRow Token) (current : s.IsCurrent token)
    (hash : token.tokenHash = input.tokenHash)
    (admits : s.admits (replacement input token replacementId) = true) :
    Rotates s input now replacementId
      (.rotated, s.rotate token (replacement input token replacementId) now)
  | replay (token : RefreshTokenRow Token) (mem : token ∈ s.rows)
    (hash : token.tokenHash = input.tokenHash) (consumed : token.consumedAt.isSome) :
    Rotates s input now replacementId (.replay, s)

theorem Server.Chain.rotates [DecidableEq Token] (h : s.Chain derive sent)
    (input : RotateRefresh Token) (replacementId : Nat) (fails : Bool) {now : Date}
    (hsent : ∀ key, (input.tokenHash, key) ∈ sent → key = input.idempotencyHash)
    (hwindow : s.inWindow input.tokenHash input.idempotencyHash now = true) :
    Rotates s input now replacementId (s.rotateRefresh input now replacementId fails) := by
  unfold Server.rotateRefresh
  unfold Server.inWindow at hwindow
  cases hfind : s.rows.find? fun row => row.tokenHash = input.tokenHash with
  | none => exact .invalid
  | some token =>
    have hmem := List.mem_of_find?_eq_some hfind
    have hhash : token.tokenHash = input.tokenHash := by simpa using List.find?_some hfind
    rw [hfind] at hwindow
    dsimp only at hwindow ⊢
    split
    · exact .invalid
    · split
      · rename_i hnone
        split
        · exact .invalid
        · rename_i hok
          simp only [Bool.or_eq_true, Bool.not_eq_true', not_or, Bool.not_eq_false] at hok
          exact .rotated token ⟨hmem, by simpa using hnone⟩ hhash hok.2
      · rename_i hconsumed
        have hconsumed : token.consumedAt.isSome = true := by
          simpa [Option.isSome_iff_ne_none] using hconsumed
        obtain ⟨key, row, hkeySent, old, hold, holdHash, -, hrow, hreplaced, hkey, -⟩ :=
          h.consumed token hmem hconsumed
        obtain rfl := h.eq_of_token hold hmem holdHash
        obtain rfl := hsent key (hhash ▸ hkeySent)
        have hsome : (s.replayed old input.idempotencyHash).isSome = true := by
          unfold Server.replayed
          rw [hreplaced, Option.bind_some, List.find?_isSome]
          exact ⟨row, hrow, by simp [hkey]⟩
        obtain ⟨replay, hreplay⟩ := Option.isSome_iff_exists.mp hsome
        rw [hreplay] at hwindow ⊢
        rw [if_pos (by simpa using hwindow)]
        exact .replay old hmem hhash hconsumed

/-- A state sound for one list of requests is so for every list of the same. -/
theorem ClientState.Sound.congr {state : ClientState Token} {sent' : List (Token × Nat)}
    (h : state.Sound derive s sent) (hsame : ∀ x, x ∈ sent' ↔ x ∈ sent) :
    state.Sound derive s sent' where
  holds := by
    intro credentials hcredentials
    rcases h.holds credentials hcredentials with ⟨row, hrow, htoken, hrotation⟩ |
      ⟨row, key, hrow, hsuccessor, hwas, hrotation, hunsent⟩
    · exact .current row hrow htoken fun key hkey => hrotation key ((hsame _).mp hkey)
    · exact .previous row key hrow hsuccessor ((hsame _).mpr hwas) hrotation
        fun key' hkey => hunsent key' ((hsame _).mp hkey)
  rotation := h.rotation

end SellerAgents.AuthRefresh
