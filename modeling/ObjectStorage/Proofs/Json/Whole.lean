import ObjectStorage.Json.Decode
import ObjectStorage.Proofs.Json.Spelling
import ObjectStorage.Proofs.Outcome

/-!
# Trees with nothing wrong in them

What is spelled passes the check of a whole value unless it nests too deep, and what passes the
check can be skipped.
-/
namespace ObjectStorage.Json

theorem read_of_decode {α : Type} {read : Tree → Except Error α} {s : Bytes} {a : α}
    (h : decode read s = .ok a) : read (readTree s).1 = .ok a := by
  obtain ⟨b, hb, h⟩ := bind_eq_ok h
  split at h
  · cases h
  · cases h
    exact hb

mutual

def Tree.depth : Tree → Nat
  | .list items _ => depthOfItems items + 1
  | .object members _ => depthOfMembers members + 1
  | .null | .boolean _ | .number _ | .text _ | .broken _ _ => 0

def depthOfItems : List Tree → Nat
  | [] => 0
  | t :: r => max t.depth (depthOfItems r)

def depthOfMembers : List (Except Error String × Tree) → Nat
  | [] => 0
  | (_, t) :: r => max t.depth (depthOfMembers r)

end

theorem closed_of_afterItems {e : Ending} (h : raise e.afterItems = .ok ()) : e = .closed := by
  cases e <;> first | rfl | cases h

theorem closed_of_afterMembers {e : Ending} (h : raise e.afterMembers = .ok ()) : e = .closed := by
  cases e <;> first | rfl | cases h

theorem check_list_iff {n : Nat} {items : List Tree} {e : Ending} :
    (Tree.list items e).check n = .ok () ↔
      1 < n ∧ checkItems (n - 1) items = .ok () ∧ e = .closed := by
  rw [Tree.check]
  constructor
  · intro h
    split at h
    · cases h
    · next hn =>
      obtain ⟨⟨⟩, hi, he⟩ := bind_eq_ok h
      exact ⟨Nat.not_le.1 hn, hi, closed_of_afterItems he⟩
  · rintro ⟨hn, hi, rfl⟩
    rw [if_neg (Nat.not_le.2 hn), hi]
    rfl

theorem check_object_iff {n : Nat} {members : List (Except Error String × Tree)} {e : Ending} :
    (Tree.object members e).check n = .ok () ↔
      1 < n ∧ checkMembers (n - 1) members = .ok () ∧ e = .closed := by
  rw [Tree.check]
  constructor
  · intro h
    split at h
    · cases h
    · next hn =>
      obtain ⟨⟨⟩, hm, he⟩ := bind_eq_ok h
      exact ⟨Nat.not_le.1 hn, hm, closed_of_afterMembers he⟩
  · rintro ⟨hn, hm, rfl⟩
    rw [if_neg (Nat.not_le.2 hn), hm]
    rfl

theorem checkItems_iff {n : Nat} {items : List Tree} :
    checkItems n items = .ok () ↔ ∀ t ∈ items, t.check n = .ok () := by
  induction items with
  | nil => simp [checkItems]
  | cons t r ih =>
    rw [checkItems, List.forall_mem_cons, ← ih]
    constructor
    · intro h
      obtain ⟨⟨⟩, ht, hr⟩ := bind_eq_ok h
      exact ⟨ht, hr⟩
    · rintro ⟨ht, hr⟩
      rw [ht]
      exact hr

theorem checkMembers_iff {n : Nat} {members : List (Except Error String × Tree)} :
    checkMembers n members = .ok () ↔
      ∀ m ∈ members, (∃ k, m.1 = .ok k) ∧ m.2.check n = .ok () := by
  induction members with
  | nil => simp [checkMembers]
  | cons m r ih =>
    rw [checkMembers, List.forall_mem_cons, ← ih]
    constructor
    · intro h
      obtain ⟨k, hk, h⟩ := bind_eq_ok h
      obtain ⟨⟨⟩, ht, hr⟩ := bind_eq_ok h
      exact ⟨⟨⟨k, hk⟩, ht⟩, hr⟩
    · rintro ⟨⟨⟨k, hk⟩, ht⟩, hr⟩
      rw [hk, ht]
      exact hr

mutual

theorem Tree.skip_of_check {n : Nat} : (t : Tree) → t.check n = .ok () → t.skip = .ok ()
  | .null, _ | .boolean _, _ | .number _, _ | .text _, _ => rfl
  | .list items e, h => by
    obtain ⟨-, hi, rfl⟩ := check_list_iff.1 h
    rw [Tree.skip, skipItems_of_check items hi]
    rfl
  | .object members e, h => by
    obtain ⟨-, hm, rfl⟩ := check_object_iff.1 h
    rw [Tree.skip, skipMembers_of_check members hm]
    rfl
  | .broken _ _, h => by
    rw [Tree.check] at h
    cases h

theorem skipItems_of_check {n : Nat} :
    (ts : List Tree) → checkItems n ts = .ok () → skipItems ts = .ok ()
  | [], _ => rfl
  | t :: r, h => by
    rw [checkItems] at h
    obtain ⟨⟨⟩, ht, hr⟩ := bind_eq_ok h
    rw [skipItems, t.skip_of_check ht]
    exact skipItems_of_check r hr

theorem skipMembers_of_check {n : Nat} : (ms : List (Except Error String × Tree)) →
    checkMembers n ms = .ok () → skipMembers ms = .ok ()
  | [], _ => rfl
  | (_, t) :: r, h => by
    rw [checkMembers] at h
    obtain ⟨_, -, h⟩ := bind_eq_ok h
    obtain ⟨⟨⟩, ht, hr⟩ := bind_eq_ok h
    rw [skipMembers, t.skip_of_check ht]
    exact skipMembers_of_check r hr

end

mutual

theorem Tree.check_mono {n m : Nat} (hnm : n ≤ m) :
    (t : Tree) → t.check n = .ok () → t.check m = .ok ()
  | .null, _ | .boolean _, _ => by rw [Tree.check]
  | .number _, h | .text _, h | .broken _ _, h => by
    rw [Tree.check] at h ⊢
    exact h
  | .list items _, h => by
    obtain ⟨hn, hi, rfl⟩ := check_list_iff.1 h
    exact check_list_iff.2 ⟨by omega, checkItems_mono (by omega) items hi, rfl⟩
  | .object members _, h => by
    obtain ⟨hn, hm, rfl⟩ := check_object_iff.1 h
    exact check_object_iff.2 ⟨by omega, checkMembers_mono (by omega) members hm, rfl⟩

theorem checkItems_mono {n m : Nat} (hnm : n ≤ m) :
    (ts : List Tree) → checkItems n ts = .ok () → checkItems m ts = .ok ()
  | [], _ => rfl
  | t :: r, h => by
    rw [checkItems] at h
    obtain ⟨⟨⟩, ht, hr⟩ := bind_eq_ok h
    rw [checkItems, t.check_mono hnm ht]
    exact checkItems_mono hnm r hr

theorem checkMembers_mono {n m : Nat} (hnm : n ≤ m) :
    (ms : List (Except Error String × Tree)) → checkMembers n ms = .ok () →
      checkMembers m ms = .ok ()
  | [], _ => rfl
  | (key, t) :: r, h => by
    rw [checkMembers] at h
    obtain ⟨k, hk, h⟩ := bind_eq_ok h
    obtain ⟨⟨⟩, ht, hr⟩ := bind_eq_ok h
    rw [checkMembers, hk, t.check_mono hnm ht]
    exact checkMembers_mono hnm r hr

end

mutual

theorem Spelling.check {s rest : Bytes} {t : Tree} :
    Spelling s t rest → ∀ {n : Nat}, t.depth < n → t.check n = .ok ()
  | .null _, _, _ | .yes _, _, _ | .no _, _, _ => by rw [Tree.check]
  | .integer _, _, _ | .text _ _, _, _ => by
    rw [Tree.check]
    rfl
  | .list _ items, n, hn => by
    rw [Tree.depth] at hn
    exact check_list_iff.2 ⟨by omega, items.check (n := n - 1) (by omega), rfl⟩
  | .object _ members, n, hn => by
    rw [Tree.depth] at hn
    exact check_object_iff.2 ⟨by omega, members.check (n := n - 1) (by omega), rfl⟩

theorem ItemsSpelling.check {first : Bool} {s rest : Bytes} {ts : List Tree} :
    ItemsSpelling first s ts rest → ∀ {n : Nat}, depthOfItems ts < n → checkItems n ts = .ok ()
  | .close _, _, _ => rfl
  | .first item tail, n, hn | .next _ item tail, n, hn => by
    rw [depthOfItems, Nat.max_lt] at hn
    rw [checkItems, item.check hn.1]
    exact tail.check hn.2

theorem MembersSpelling.check {first : Bool} {s rest : Bytes}
    {ms : List (Except Error String × Tree)} :
    MembersSpelling first s ms rest → ∀ {n : Nat}, depthOfMembers ms < n →
      checkMembers n ms = .ok ()
  | .close _, _, _ => rfl
  | .first _ _ _ value tail, n, hn | .next _ _ _ _ value tail, n, hn => by
    rw [depthOfMembers, Nat.max_lt] at hn
    rw [checkMembers, value.check hn.1]
    exact tail.check hn.2

end

end ObjectStorage.Json
