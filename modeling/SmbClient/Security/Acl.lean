import Mathlib.Data.List.Chain
import Mathlib.Data.List.Sort
import SmbClient.Lib.Codec

/-!
# Access control lists (`smb-dtyp/security/acl.rs`, `ace.rs`)

The comparison of two ACEs compares their classes: explicit ones that do not allow, explicit ones
that allow, inherited ones. A stable sort puts the three classes one behind the other, each as it
was (`orderAces_eq`), and `insertAce` puts an ACE between the others (`insertAce_eq`).
-/

namespace Security

open Codec

/-! ## ACEs -/

inductive AceType where
  | accessAllowed | accessDenied | systemAudit | systemAlarm | accessAllowedCompound
  | accessAllowedObject | accessDeniedObject | systemAuditObject | systemAlarmObject
  | accessAllowedCallback | accessDeniedCallback | accessAllowedCallbackObject
  | accessDeniedCallbackObject | systemAuditCallback | systemAlarmCallback
  | systemAuditCallbackObject
  | systemAlarmCallbackObject | systemMandatoryLabel | systemResourceAttribute
  | systemScopedPolicyId
deriving DecidableEq

/-- The alternative of a type; `value` is its body, which the order does not look at. -/
structure AceValue (α : Type) where
  type : AceType
  value : α

variable {α : Type}

def AceValue.isAccessAllowed (value : AceValue α) : Bool :=
  value.type ∈ [.accessAllowed, .accessAllowedObject, .accessAllowedCallback,
    .accessAllowedCallbackObject]

structure Ace (α : Type) where
  aceFlags : Word 1
  value : AceValue α

def Ace.inherited (ace : Ace α) : Bool := ace.aceFlags.val.testBit 4

/-! ## ACLs -/

inductive AclRevision where
  | nt4 | ds

structure Acl (α : Type) where
  aclRevision : AclRevision
  ace : List (Ace α)

namespace Acl

def sortAcesBy (a b : Ace α) : Ordering :=
  if a.inherited ≠ b.inherited then compare a.inherited b.inherited
  else if a.inherited then .eq
  else compare a.value.isAccessAllowed b.value.isAccessAllowed

/-- `slice::sort_by` is a stable sort. -/
def orderAces (acl : Acl α) : Acl α :=
  { acl with ace := acl.ace.mergeSort fun a b => (sortAcesBy a b).isLE }

def isAceSorted (acl : Acl α) : Bool := acl.ace.IsChain fun a b => (sortAcesBy a b).isLE = true

def insertAce (acl : Acl α) (ace : Ace α) : Acl α := { acl with ace := acl.ace ++ [ace] }.orderAces

end Acl

/-! ## The order -/

/-- The class of an ACE in the order of an ACL. -/
def Ace.rank (ace : Ace α) : ℕ := if ace.inherited then 2 else ace.value.isAccessAllowed.toNat

theorem Ace.rank_cases (ace : Ace α) : ace.rank = 0 ∨ ace.rank = 1 ∨ ace.rank = 2 := by
  unfold rank
  cases ace.inherited <;> cases ace.value.isAccessAllowed <;> decide

namespace Acl

variable {a b : Ace α} {l : List (Ace α)} {acl : Acl α}

theorem sortAcesBy_isLE : (sortAcesBy a b).isLE = true ↔ a.rank ≤ b.rank := by
  unfold sortAcesBy Ace.rank
  cases a.inherited <;> cases b.inherited <;> cases a.value.isAccessAllowed <;>
    cases b.value.isAccessAllowed <;> decide

theorem sortAcesBy_trans (a b c : Ace α) (h : (sortAcesBy a b).isLE = true)
    (h' : (sortAcesBy b c).isLE = true) : (sortAcesBy a c).isLE = true := by
  rw [sortAcesBy_isLE] at *
  omega

theorem sortAcesBy_total (a b : Ace α) :
    ((sortAcesBy a b).isLE || (sortAcesBy b a).isLE) = true := by
  rw [Bool.or_eq_true, sortAcesBy_isLE, sortAcesBy_isLE]
  omega

theorem isAceSorted_iff : acl.isAceSorted = true ↔ acl.ace.Pairwise fun a b => a.rank ≤ b.rank := by
  simp only [isAceSorted, sortAcesBy_isLE, decide_eq_true_eq]
  exact List.isChain_iff_pairwise

/-- The ACEs of a class, in their order. -/
def ofRank (l : List (Ace α)) (rank : ℕ) : List (Ace α) := l.filter (·.rank = rank)

theorem eq_ofRank (sorted : l.Pairwise fun a b => a.rank ≤ b.rank) :
    l = ofRank l 0 ++ (ofRank l 1 ++ ofRank l 2) := by
  unfold ofRank
  induction sorted with
  | nil => rfl
  | @cons a l least _ ih =>
    have none {rank : ℕ} (below : rank < a.rank) : l.filter (·.rank = rank) = [] := by
      simp only [List.filter_eq_nil_iff, decide_eq_true_eq]
      intro b inside
      have := least b inside
      omega
    obtain rank | rank | rank := a.rank_cases
    · simpa [rank] using ih
    · simpa [rank, none] using ih
    · simpa [rank, none] using ih

section

variable (acl)

theorem ofRank_orderAces (rank : ℕ) : ofRank acl.orderAces.ace rank = ofRank acl.ace rank := by
  have sublist : (ofRank acl.ace rank).Sublist acl.orderAces.ace := by
    apply List.sublist_mergeSort sortAcesBy_trans sortAcesBy_total
    · simp only [sortAcesBy_isLE, ofRank]
      rw [List.pairwise_filter]
      simp only [decide_eq_true_eq]
      exact List.pairwise_of_forall fun a b ha hb => by omega
    · exact List.filter_sublist
  have inner : (ofRank acl.ace rank).Sublist (ofRank acl.orderAces.ace rank) := by
    simpa [ofRank] using sublist.filter (·.rank = rank)
  refine (inner.eq_of_length ?_).symm
  exact ((List.mergeSort_perm acl.ace _).symm.filter _).length_eq

theorem orderAces_sorted : acl.orderAces.ace.Pairwise fun a b => a.rank ≤ b.rank := by
  simp only [← sortAcesBy_isLE]
  exact List.pairwise_mergeSort sortAcesBy_trans sortAcesBy_total acl.ace

/-- **Sorting puts the three classes one behind the other.** -/
theorem orderAces_eq :
    acl.orderAces.ace = ofRank acl.ace 0 ++ (ofRank acl.ace 1 ++ ofRank acl.ace 2) := by
  simpa only [ofRank_orderAces] using eq_ofRank (orderAces_sorted acl)

/-- **An inserted ACE leaves the others in order.** -/
theorem insertAce_eq (ace : Ace α) (sorted : acl.isAceSorted = true) :
    ∃ before after, acl.ace = before ++ after ∧
    (acl.insertAce ace).ace = before ++ ace :: after := by
  have old := eq_ofRank (isAceSorted_iff.1 sorted)
  have new := orderAces_eq { acl with ace := acl.ace ++ [ace] }
  simp only [ofRank] at old new
  obtain rank | rank | rank := ace.rank_cases
  · exact ⟨ofRank acl.ace 0, _, old, new.trans (by simp [rank, ofRank])⟩
  · exact ⟨ofRank acl.ace 0 ++ ofRank acl.ace 1, ofRank acl.ace 2, by simpa [ofRank] using old,
      new.trans (by simp [rank, ofRank])⟩
  · refine ⟨acl.ace, [], by simp, new.trans ?_⟩
    conv_rhs => rw [old]
    simp [rank]

/-- **The order of an ACL.** `order_aces` sorts by class and keeps the order within one;
`insert_ace` keeps a sorted list and puts the new ACE between two parts of it. -/
theorem aces_ordered (ace : Ace α) : acl.orderAces.ace.Perm acl.ace ∧
    (acl.orderAces.ace.Pairwise fun a b => b.inherited = false → a.inherited = false ∧
      (b.value.isAccessAllowed = false → a.value.isAccessAllowed = false)) ∧
    (∀ inherited allowed, acl.orderAces.ace.filter (fun a => a.inherited = inherited ∧
        (inherited = false → a.value.isAccessAllowed = allowed)) =
      acl.ace.filter fun a => a.inherited = inherited ∧
        (inherited = false → a.value.isAccessAllowed = allowed)) ∧
    acl.orderAces.isAceSorted = true ∧ acl.orderAces.orderAces = acl.orderAces ∧
    (acl.isAceSorted = true → (acl.insertAce ace).isAceSorted = true ∧
      ∃ before after, acl.ace = before ++ after ∧
        (acl.insertAce ace).ace = before ++ ace :: after) := by
  have sorted {acl : Acl α} : acl.orderAces.isAceSorted = true :=
    isAceSorted_iff.2 (orderAces_sorted acl)
  refine ⟨List.mergeSort_perm _ _, (orderAces_sorted acl).imp fun {a b} ranks explicit => ?_,
    fun inherited allowed => ?_, sorted, ?_, fun before => ⟨sorted, insertAce_eq acl ace before⟩⟩
  · simp only [Ace.rank, explicit] at ranks
    revert ranks
    cases a.inherited <;> cases a.value.isAccessAllowed <;> cases b.value.isAccessAllowed <;> decide
  · have h := ofRank_orderAces acl (if inherited then 2 else allowed.toNat)
    have same (a : Ace α) : decide (a.rank = if inherited then 2 else allowed.toNat) =
        decide (a.inherited = inherited ∧
          (inherited = false → a.value.isAccessAllowed = allowed)) := by
      unfold Ace.rank
      cases a.inherited <;> cases inherited <;> cases a.value.isAccessAllowed <;>
        cases allowed <;> decide
    simpa only [ofRank, same] using h
  · refine congrArg (Acl.mk _) (List.mergeSort_of_pairwise ?_)
    simp only [sortAcesBy_isLE]
    exact orderAces_sorted acl

end

end Acl

end Security
