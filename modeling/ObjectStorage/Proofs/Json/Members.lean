import Mathlib.Data.List.Forall2
import ObjectStorage.Proofs.Json.Record

/-!
# Members in any order

A record is read from members in any order, with others among them. What has been read so far is the
record with the fields of some keys filled in, so `merge` tells it for the keys that were seen, and
each member adds its key. Conversely each member of a record that was read was read by its field,
as `exists_read_of_mem` says.
-/
namespace ObjectStorage.Json

def Tree.ofMembers (ms : List (String × Tree)) : Tree :=
  .object (ms.map fun m => (.ok m.1, m.2)) .closed

section
variable {α β : Type} {spelling : Tree → β → Prop} {read : Tree → Except Error α} {value : α → β}

theorem readEntries_cons (key : String) (t : Tree) (ms : List (Except Error String × Tree)) :
    readEntries read ((.ok key, t) :: ms) .closed = (do
      let a ← read t
      let as ← readEntries read ms .closed
      return (key, a) :: as) := by
  simp only [readEntries, List.mapM_cons]
  generalize (List.mapM _ ms : Except Error (List (String × α))) = r
  cases read t with
  | error e => rfl
  | ok a => cases r <;> rfl

theorem readEntries_of_spelling (h : ∀ t b, spelling t b → ∃ a, read t = .ok a ∧ value a = b)
    {ms : List (String × Tree)} {es : List (String × β)}
    (entries : List.Forall₂ (fun m e => m.1 = e.1 ∧ spelling m.2 e.2) ms es) :
    ∃ as, (Tree.ofMembers ms).toEntries read = .ok as ∧
      as.map (fun e => (e.1, value e.2)) = es := by
  induction entries with
  | nil => exact ⟨[], rfl, rfl⟩
  | @cons m e ms es hv _ ih =>
    obtain ⟨a, ha, hb⟩ := h m.2 e.2 hv.2
    obtain ⟨as, has, he⟩ := ih
    refine ⟨(m.1, a) :: as, ?_, ?_⟩
    · change readEntries read ((.ok m.1, m.2) :: ms.map _) .closed = _
      rw [readEntries_cons, ha]
      change (Tree.toEntries read (.ofMembers ms)).bind _ = _
      rw [has]
      rfl
    · rw [List.map_cons, he, hb, hv.1]

end

section
variable {α : Type} {read : Tree → Except Error α} {ending : Ending}

theorem readAll_eq_ok_iff {ts : List Tree} {as : List α} :
    readAll read ts ending = .ok as ↔
      ending = .closed ∧ List.Forall₂ (fun t a => read t = .ok a) ts as := by
  have each : ts.map read = as.map .ok ↔ List.Forall₂ (fun t a => read t = .ok a) ts as := by
    rw [← List.forall₂_eq_eq_eq, List.forall₂_map_left_iff, List.forall₂_map_right_iff]
  rw [← each]
  constructor
  · intro h
    obtain ⟨bs, hbs, h⟩ := bind_eq_ok h
    obtain ⟨⟨⟩, closed, h⟩ := bind_eq_ok h
    cases h
    exact ⟨closed_of_afterItems closed, mapM_eq_ok hbs⟩
  · rintro ⟨rfl, h⟩
    rw [readAll, mapM_ok_of_map h]
    rfl

theorem readEntries_eq_ok_iff {ms : List (Except Error String × Tree)}
    {es : List (String × α)} : readEntries read ms ending = .ok es ↔
      ending = .closed ∧ List.Forall₂ (fun m e => m.1 = .ok e.1 ∧ read m.2 = .ok e.2) ms es := by
  have entry (m : Except Error String × Tree) (e : String × α) :
      (do let key ← m.1; let value ← read m.2; return (key, value) : Except Error _) = .ok e ↔
        m.1 = .ok e.1 ∧ read m.2 = .ok e.2 := by
    constructor
    · intro h
      obtain ⟨key, hk, h⟩ := bind_eq_ok h
      obtain ⟨value, hv, h⟩ := bind_eq_ok h
      cases h
      exact ⟨hk, hv⟩
    · rintro ⟨hk, hv⟩
      rw [hk, hv]
      rfl
  have each : ms.map (fun m => (do let key ← m.1; let value ← read m.2; return (key, value) :
      Except Error _)) = es.map .ok ↔
        List.Forall₂ (fun m e => m.1 = .ok e.1 ∧ read m.2 = .ok e.2) ms es := by
    rw [← List.forall₂_eq_eq_eq, List.forall₂_map_left_iff, List.forall₂_map_right_iff]
    simp only [entry]
  rw [← each]
  constructor
  · intro h
    obtain ⟨bs, hbs, h⟩ := bind_eq_ok h
    obtain ⟨⟨⟩, closed, h⟩ := bind_eq_ok h
    cases h
    exact ⟨closed_of_afterMembers closed, mapM_eq_ok hbs⟩
  · rintro ⟨rfl, h⟩
    rw [readEntries, mapM_ok_of_map h]
    rfl

theorem toText_eq_ok_iff {t : Tree} {v : String} : t.toText = .ok v ↔ t = .text (.ok v) := by
  constructor
  · intro h
    cases t with
    | text value => exact congrArg Tree.text h
    | null | boolean _ | number _ | list _ _ | object _ _ | broken _ _ => cases h
  · rintro rfl
    rfl

end

def member? (key : String) (ms : List (String × Tree)) : Option Tree :=
  (ms.find? (·.1 == key)).map (·.2)

/-- No two members have the same one of some keys. -/
def Once (keys : List String) (ms : List (String × Tree)) : Prop :=
  ms.Pairwise fun m n => m.1 ∈ keys → m.1 ≠ n.1

instance (keys : List String) (ms : List (String × Tree)) : Decidable (Once keys ms) :=
  inferInstanceAs (Decidable (ms.Pairwise _))

theorem member?_of_mem {keys : List String} {ms : List (String × Tree)} (once : Once keys ms)
    {m : String × Tree} (hm : m ∈ ms) (hk : m.1 ∈ keys) : member? m.1 ms = some m.2 := by
  induction ms with
  | nil => cases hm
  | cons n ms ih =>
    obtain ⟨apart, once⟩ := List.pairwise_cons.1 once
    rcases List.mem_cons.1 hm with rfl | hm
    · simp [member?]
    · have hne : n.1 ≠ m.1 := by
        intro h
        exact apart m hm (h ▸ hk) h
      rw [member?, List.find?_cons_of_neg (by simpa using hne)]
      exact ih once hm

theorem mem_of_member? {key : String} {ms : List (String × Tree)} {t : Tree}
    (h : member? key ms = some t) : (key, t) ∈ ms := by
  obtain ⟨m, hm, rfl⟩ := Option.map_eq_some_iff.1 h
  have hk : m.1 = key := by simpa using List.find?_some hm
  rw [← hk]
  exact List.mem_of_find?_eq_some hm

theorem check_member {n : Nat} {ms : List (String × Tree)}
    (h : (Tree.ofMembers ms).check n = .ok ()) {m : String × Tree} (hm : m ∈ ms) :
    m.2.check (n - 1) = .ok () := by
  obtain ⟨-, members, -⟩ := check_object_iff.1 h
  exact (checkMembers_iff.1 members (.ok m.1, m.2) (List.mem_map.2 ⟨m, hm, rfl⟩)).2

/-- A field of a record is given by its member, or it is blank and there is none. -/
def Given {β : Type} (spelling : Tree → β → Prop) (blank value : β) : Option Tree → Prop
  | some t => spelling t value
  | none => value = blank

section
variable {α β : Type} {spelling : Tree → β → Prop} {blank value : β} {key : String}
  {ms : List (String × Tree)}

theorem Given.filled {seen : List String} (h : Given spelling blank value (member? key ms))
    (complete : key ∉ seen → member? key ms = none) :
    (if key ∈ seen then value else blank) = value := by
  rw [ite_eq_left_iff]
  intro hk
  rw [complete hk] at h
  exact h.symm

theorem Given.reads {keys : List String} {read : Tree → Except Error β}
    (h : Given spelling blank value (member? key ms)) (once : Once keys ms) (hk : key ∈ keys)
    (merge : List String → α) (set : β → α → α)
    (hr : ∀ t, (key, t) ∈ ms → spelling t value → read t = .ok value)
    (hs : ∀ seen, set value (merge seen) = merge (key :: seen)) (t : Tree) (ht : (key, t) ∈ ms) :
    ∃ f, (do let v ← read t; return set v) = .ok f ∧
      ∀ seen, f (merge seen) = merge (key :: seen) := by
  rw [member?_of_mem once ht hk] at h
  refine ⟨set value, ?_, hs⟩
  rw [hr t ht h]
  rfl

end

namespace Shape

variable {α : Type} {shape : Shape α}

def keys (shape : Shape α) : List String := shape.fields.map Field.key

theorem mem_keys_of_find? {key : String} {field : Field α}
    (h : shape.fields.find? (·.key == key) = some field) : field ∈ shape.fields ∧ field.key = key :=
  ⟨List.mem_of_find?_eq_some h, by simpa using List.find?_some h⟩

variable (merge : List String → α) {ms : List (String × Tree)}

/-- The members read so far make the record that has the fields of the keys seen. -/
theorem readMembers_merge (optional : ∀ f ∈ shape.fields, f.required = false)
    (skipped : ∀ m ∈ ms, m.2.skip = .ok ())
    (reads : ∀ field ∈ shape.fields, ∀ t, (field.key, t) ∈ ms →
      ∃ set, field.read t = .ok set ∧ ∀ seen, set (merge seen) = merge (field.key :: seen))
    (once : Once shape.keys ms) (seen : List String)
    (fresh : ∀ m ∈ ms, m.1 ∈ shape.keys → m.1 ∉ seen) :
    ∃ seen', (∀ k ∈ seen, k ∈ seen') ∧ (∀ m ∈ ms, m.1 ∈ shape.keys → m.1 ∈ seen') ∧
      shape.readMembers .closed seen (ms.map fun m => (.ok m.1, m.2)) (merge seen) =
        .ok (merge seen') := by
  induction ms generalizing seen with
  | nil =>
    refine ⟨seen, fun _ hk => hk, fun _ hm => (by cases hm), ?_⟩
    rw [List.map_nil, readMembers, missing_of_optional seen optional]
    rfl
  | cons m ms ih =>
    obtain ⟨apart, once'⟩ := List.pairwise_cons.1 once
    have later := ih (fun n hn => skipped n (List.mem_cons_of_mem m hn))
      (fun field hf t ht => reads field hf t (List.mem_cons_of_mem m ht)) once'
    rw [List.map_cons, readMembers]
    simp only [bind, Except.bind]
    cases hf : shape.fields.find? (·.key == m.1) with
    | none =>
      obtain ⟨seen', kept, added, hr⟩ := later seen fun n hn => fresh n (List.mem_cons_of_mem m hn)
      refine ⟨seen', kept, fun n hn hk => ?_, ?_⟩
      · rcases List.mem_cons.1 hn with rfl | hn
        · obtain ⟨field, hfield, hkey⟩ := List.mem_map.1 hk
          have := List.find?_eq_none.1 hf field hfield
          simp [hkey] at this
        · exact added n hn hk
      · simp only [skipped m List.mem_cons_self, hr]
    | some field =>
      obtain ⟨hfield, hkey⟩ := mem_keys_of_find? hf
      have hk : m.1 ∈ shape.keys := List.mem_map.2 ⟨field, hfield, hkey⟩
      obtain ⟨set, hset, hmerge⟩ := reads field hfield m.2 (hkey ▸ List.mem_cons_self)
      have unseen : seen.contains m.1 = false := by
        simpa using fresh m List.mem_cons_self hk
      obtain ⟨seen', kept, added, hr⟩ := later (m.1 :: seen) fun n hn hkn => by
        rw [List.mem_cons, not_or]
        exact ⟨(apart n hn hk).symm, fresh n (List.mem_cons_of_mem m hn) hkn⟩
      refine ⟨seen', fun k h => kept k (List.mem_cons_of_mem _ h), fun n hn hkn => ?_, ?_⟩
      · rcases List.mem_cons.1 hn with rfl | hn
        · exact kept _ List.mem_cons_self
        · exact added n hn hkn
      · rw [hkey] at hmerge
        simp only [unseen, hset, hmerge, hr]
        rfl

/-- A record is read from members that give each of its fields or leave it out where it is blank.
Of the other members only the syntax counts. -/
theorem read_of_skipped (optional : ∀ f ∈ shape.fields, f.required = false)
    (skipped : ∀ m ∈ ms, m.2.skip = .ok ()) (once : Once shape.keys ms)
    (blank : merge [] = shape.blank)
    (reads : ∀ field ∈ shape.fields, ∀ t, (field.key, t) ∈ ms →
      ∃ set, field.read t = .ok set ∧ ∀ seen, set (merge seen) = merge (field.key :: seen))
    {r : α}
    (complete : ∀ seen, (∀ k ∈ shape.keys, k ∉ seen → member? k ms = none) → merge seen = r) :
    shape.read (.ofMembers ms) = .ok r := by
  obtain ⟨seen, -, added, hr⟩ := readMembers_merge merge optional skipped reads once []
    fun _ _ _ => List.not_mem_nil
  rw [blank] at hr
  rw [Tree.ofMembers, read, hr, complete seen fun k hk hn => ?_]
  cases hm : member? k ms with
  | none => rfl
  | some t => exact absurd (added (k, t) (mem_of_member? hm) hk) hn

theorem read_ofMembers (optional : ∀ f ∈ shape.fields, f.required = false) {n : Nat}
    (checked : (Tree.ofMembers ms).check n = .ok ()) (once : Once shape.keys ms)
    (blank : merge [] = shape.blank)
    (reads : ∀ field ∈ shape.fields, ∀ t, (field.key, t) ∈ ms →
      ∃ set, field.read t = .ok set ∧ ∀ seen, set (merge seen) = merge (field.key :: seen))
    {r : α}
    (complete : ∀ seen, (∀ k ∈ shape.keys, k ∉ seen → member? k ms = none) → merge seen = r) :
    shape.read (.ofMembers ms) = .ok r :=
  read_of_skipped merge optional (fun m hm => m.2.skip_of_check (check_member checked hm)) once
    blank reads complete

section
variable {β : Type} {key : String} {view : α → β} {ending : Ending} {seen : List String}
variable {ms : List (Except Error String × Tree)} {r r' : α}

/-- A member that was read has a key nobody asks for, or a new key whose field was read. -/
theorem readMembers_cons_ok {m : Except Error String × Tree}
    (h : shape.readMembers ending seen (m :: ms) r = .ok r') :
    ∃ key, m.1 = .ok key ∧
      ((shape.fields.find? (·.key == key) = none ∧
          shape.readMembers ending seen ms r = .ok r') ∨
        ∃ field set, shape.fields.find? (·.key == key) = some field ∧ key ∉ seen ∧
          field.read m.2 = .ok set ∧
          shape.readMembers ending (key :: seen) ms (set r) = .ok r') := by
  rw [readMembers] at h
  obtain ⟨key, hkey, h⟩ := bind_eq_ok h
  refine ⟨key, hkey, ?_⟩
  cases hf : shape.fields.find? (·.key == key) with
  | none =>
    rw [hf] at h
    obtain ⟨⟨⟩, -, h⟩ := bind_eq_ok h
    exact Or.inl ⟨rfl, h⟩
  | some field =>
    simp only [hf] at h
    split at h
    · cases h
    · next hs =>
      obtain ⟨set, hset, h⟩ := bind_eq_ok h
      exact Or.inr ⟨field, set, rfl, by simpa using hs, hset, h⟩

/-- The fields other than that of `key` leave a view of the record as it is. -/
def Apart (shape : Shape α) (key : String) (view : α → β) : Prop :=
  ∀ field ∈ shape.fields, field.key ≠ key →
    ∀ t set, field.read t = .ok set → ∀ r, view (set r) = view r

theorem view_of_seen (apart : shape.Apart key view) (hk : key ∈ seen)
    (h : shape.readMembers ending seen ms r = .ok r') : view r' = view r := by
  induction ms generalizing seen r with
  | nil =>
    rw [readMembers] at h
    obtain ⟨⟨⟩, -, h⟩ := bind_eq_ok h
    obtain ⟨⟨⟩, -, h⟩ := bind_eq_ok h
    cases h
    rfl
  | cons m ms ih =>
    obtain ⟨key', -, ⟨-, h⟩ | ⟨field, set, hf, unseen, hset, h⟩⟩ := readMembers_cons_ok h
    · exact ih hk h
    · obtain ⟨hfield, rfl⟩ := mem_keys_of_find? hf
      have other : field.key ≠ key := fun he => unseen (he ▸ hk)
      rw [ih (List.mem_cons_of_mem _ hk) h, apart field hfield other m.2 set hset]

/-- A member that is among those read was read by its field, and no other member counts for what
this field says of the record. -/
theorem exists_read_of_mem (apart : shape.Apart key view) (known : key ∈ shape.keys) {t : Tree}
    (hm : (.ok key, t) ∈ ms) (h : shape.readMembers ending seen ms r = .ok r') :
    ∃ field, shape.fields.find? (·.key == key) = some field ∧
      ∃ set q, field.read t = .ok set ∧ view r' = view (set q) := by
  induction ms generalizing seen r with
  | nil => cases hm
  | cons m ms ih =>
    obtain ⟨key', hkey, ⟨unknown, h⟩ | ⟨field, set, hf, unseen, hset, h⟩⟩ := readMembers_cons_ok h
    · rcases List.mem_cons.1 hm with rfl | hm
      · cases hkey
        obtain ⟨field, hfield, hk⟩ := List.mem_map.1 known
        exact absurd (List.find?_eq_none.1 unknown field hfield) (by simp [hk])
      · exact ih hm h
    · rcases List.mem_cons.1 hm with rfl | hm
      · cases hkey
        exact ⟨field, hf, set, r, hset, view_of_seen apart List.mem_cons_self h⟩
      · exact ih hm h

end

/-- A list is read as a record only if it has no more items than the record has fields. -/
theorem length_le_of_readPositions {ending : Ending} {count : Nat} {fields : List (Field α)}
    {items : List Tree} {r r' : α}
    (h : shape.readPositions ending count fields items r = .ok r') :
    items.length ≤ fields.length := by
  induction fields generalizing count items r with
  | nil =>
    cases items with
    | nil => exact Nat.le_refl 0
    | cons t items => cases h
  | cons field fields ih =>
    cases items with
    | nil => exact Nat.zero_le _
    | cons t items =>
      obtain ⟨set, -, h⟩ := bind_eq_ok h
      exact Nat.succ_le_succ (ih h)

end Shape

end ObjectStorage.Json
