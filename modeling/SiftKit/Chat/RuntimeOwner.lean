import SiftKit.Foundation.Failure
import SiftKit.Foundation.Separators
import SiftKit.Json.Text

/-! # The owner of a runtime database

`ChatRuntimeOwner` of `state/chat-runtime-owner.ts`: one row names the process that may write chat
evidence, by an epoch that grows, until its lease expires.  Times are in milliseconds.
-/

namespace SiftKit.Chat

open SiftKit.Failure

def CHAT_OWNER_LEASE_MS : Int := 30000

/-- The row of `chat_runtime_owner`. -/
structure OwnerRow where
  ownerId : String
  epoch : Nat
  leaseExpiresAt : Int
  deriving DecidableEq

/-- The one row with `id = 1`, if it was ever written. -/
abbrev OwnerTable := Option OwnerRow

def ownerEpoch (ownerId : String) (epoch : Nat) : String := ownerId ++ ":" ++ toString epoch

def OwnerRow.ownerEpoch (row : OwnerRow) : String := SiftKit.Chat.ownerEpoch row.ownerId row.epoch

/-- `ChatRuntimeOwnerSchema`. -/
def OwnerRow.accepts (row : OwnerRow) : Bool := 0 < row.epoch

/-- `ChatRuntimeOwnerSchema.parse(raw)`. -/
def OwnerTable.require (table : OwnerTable) : Except Thrown OwnerRow :=
  match table with
  | some row => if row.accepts then .ok row else .error .invalid
  | none => .error .invalid

structure ChatRuntimeOwner where
  ownerId : String
  epoch : Nat
  deriving DecidableEq

namespace ChatRuntimeOwner

def ownerEpoch (owner : ChatRuntimeOwner) : String := SiftKit.Chat.ownerEpoch owner.ownerId owner.epoch

/-- The previous row, validated; none before the first owner. -/
def previous (table : OwnerTable) : Except Thrown (Option OwnerRow) :=
  match table with
  | none => .ok none
  | some row => if row.accepts then .ok (some row) else .error .invalid

def liveOwner : Thrown := .error "A live chat runtime owner holds this database lease."

def fencedOut : Thrown := .error "Chat runtime owner lease expired or was fenced out."

def acquire (table : OwnerTable) (ownerId : String) (now : Int) : Except Thrown (ChatRuntimeOwner × OwnerTable) := do
  let previous ← previous table
  throwWhen (previous.any fun row => now < row.leaseExpiresAt) liveOwner
  let epoch := (previous.map OwnerRow.epoch).getD 0 + 1
  throwWhen ownerId.isEmpty .invalid
  return (⟨ownerId, epoch⟩, some ⟨ownerId, epoch, now + CHAT_OWNER_LEASE_MS⟩)

def assertOwned (owner : ChatRuntimeOwner) (table : OwnerTable) (now : Int) : Except Thrown Unit := do
  let row ← table.require
  throwWhen (row.ownerId != owner.ownerId || row.epoch != owner.epoch || decide (row.leaseExpiresAt ≤ now)) fencedOut

/-- `WHERE id=1 AND owner_id=? AND epoch=?`. -/
def isOwn (owner : ChatRuntimeOwner) (row : OwnerRow) : Bool := row.ownerId == owner.ownerId && row.epoch == owner.epoch

def setLease (owner : ChatRuntimeOwner) (table : OwnerTable) (leaseExpiresAt : Int) : OwnerTable :=
  table.map fun row => if owner.isOwn row then { row with leaseExpiresAt := leaseExpiresAt } else row

def renew (owner : ChatRuntimeOwner) (table : OwnerTable) (now : Int) : Except Thrown OwnerTable := do
  owner.assertOwned table now
  return owner.setLease table (now + CHAT_OWNER_LEASE_MS)

def release (owner : ChatRuntimeOwner) (table : OwnerTable) (now : Int) : OwnerTable := owner.setLease table now

end ChatRuntimeOwner

/-! ## Epochs -/

theorem notMem_digits (number : Nat) : ':' ∉ (toString number).toList := by
  intro member
  rw [Nat.toString_eq_ofList_toDigits, String.toList_ofList] at member
  have digit := Nat.isDigit_of_mem_toDigits (by decide) (by decide) member
  exact absurd digit (by decide)

theorem ownerEpoch_inj {ownerId otherId : String} {epoch other : Nat} (same : ownerEpoch ownerId epoch = ownerEpoch otherId other) :
    ownerId = otherId ∧ epoch = other := by
  have texts := congrArg String.toList same
  simp only [ownerEpoch, String.toList_append, List.append_assoc] at texts
  obtain ⟨ids, digits⟩ := (Separators.last_inj (notMem_digits epoch) (notMem_digits other)).mp texts
  exact ⟨String.toList_inj.mp ids, Json.toString_nat_injective (String.toList_inj.mp digits)⟩

namespace ChatRuntimeOwner

/-- The lease row that an owner holds. -/
structure Holds (owner : ChatRuntimeOwner) (table : OwnerTable) (now : Int) (row : OwnerRow) : Prop where
  isRow : table = some row
  accepts : row.accepts = true
  ownerId : row.ownerId = owner.ownerId
  epoch : row.epoch = owner.epoch
  live : now < row.leaseExpiresAt

variable {table : OwnerTable}

theorem require_eq_ok {row : OwnerRow} : table.require = .ok row ↔ table = some row ∧ row.accepts = true := by
  unfold OwnerTable.require
  cases table with
  | none => simp
  | some other =>
    by_cases accepted : other.accepts = true
    · simp only [accepted, if_true, Except.ok.injEq, Option.some_inj]
      constructor
      · rintro rfl
        exact ⟨rfl, accepted⟩
      · exact fun same => same.1
    · simp only [accepted, if_false, reduceCtorEq, Option.some_inj, false_iff]
      rintro ⟨rfl, isAccepted⟩
      exact accepted isAccepted

theorem assertOwned_eq_ok {owner : ChatRuntimeOwner} {now : Int} :
    owner.assertOwned table now = .ok () ↔ ∃ row, owner.Holds table now row := by
  simp only [assertOwned, bind_eq_ok, require_eq_ok, throwWhen_eq_ok, Bool.or_eq_false_iff, bne_eq_false_iff_eq,
    decide_eq_false_iff_not, Int.not_le]
  constructor
  · rintro ⟨row, ⟨isRow, accepts⟩, ⟨ownerId, epoch⟩, live⟩
    exact ⟨row, isRow, accepts, ownerId, epoch, live⟩
  · rintro ⟨row, isRow, accepts, ownerId, epoch, live⟩
    exact ⟨row, ⟨isRow, accepts⟩, ⟨ownerId, epoch⟩, live⟩

/-- At most one owner passes the check. -/
theorem assertOwned_unique {first second : ChatRuntimeOwner} {now : Int}
    (isFirst : first.assertOwned table now = .ok ()) (isSecond : second.assertOwned table now = .ok ()) : first = second := by
  obtain ⟨row, holds⟩ := assertOwned_eq_ok.mp isFirst
  obtain ⟨other, otherHolds⟩ := assertOwned_eq_ok.mp isSecond
  obtain rfl : row = other := Option.some_inj.mp (holds.isRow.symm.trans otherHolds.isRow)
  cases first
  cases second
  simp only [mk.injEq]
  exact ⟨holds.ownerId.symm.trans otherHolds.ownerId, holds.epoch.symm.trans otherHolds.epoch⟩

theorem acquire_eq_ok {after : OwnerTable} {ownerId : String} {now : Int} {owner : ChatRuntimeOwner}
    (acquired : acquire table ownerId now = .ok (owner, after)) :
    owner.epoch = (table.map OwnerRow.epoch).getD 0 + 1 ∧ after = some ⟨owner.ownerId, owner.epoch, now + CHAT_OWNER_LEASE_MS⟩ := by
  simp only [acquire, bind_eq_ok, pure_eq_ok, Prod.mk.injEq] at acquired
  obtain ⟨before, isBefore, _, _, _, _, rfl, rfl⟩ := acquired
  have same : before = table := by
    unfold previous at isBefore
    cases table with
    | none =>
      cases isBefore
      rfl
    | some row =>
      simp only at isBefore
      split at isBefore
      · cases isBefore
        rfl
      · cases isBefore
  subst same
  exact ⟨rfl, rfl⟩

end ChatRuntimeOwner

end SiftKit.Chat
