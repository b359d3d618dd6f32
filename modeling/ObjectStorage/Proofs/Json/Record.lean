import ObjectStorage.Proofs.Json.Printing
import ObjectStorage.Proofs.Json.Whole

/-!
# Records from members

Members of an object are read one after the other, and what has been read decides only which keys
may not come again. `Reads` states what a part of the members does to a record whatever comes
before and after it, so that parts are put together by `reads_append`.
-/
namespace ObjectStorage.Json

variable {α : Type}

variable {β : Type} {read : Tree → Except Error α} {json : β → Value} {value : β → α}

theorem readAll_trees (l : List β) (h : ∀ b, read (json b).tree = .ok (value b)) :
    readAll read (Value.trees (l.map json)) .closed = .ok (l.map value) := by
  have items : (Value.trees (l.map json)).mapM read = .ok (l.map value) := by
    rw [Value.trees_eq_map, List.map_map, List.mapM_map]
    exact mapM_ok fun b _ => h b
  rw [readAll, items]
  rfl

theorem readEntries_memberTrees (l : List (String × β))
    (h : ∀ b, read (json b).tree = .ok (value b)) :
    readEntries read (Value.memberTrees (l.map fun e => (e.1, json e.2))) .closed =
      .ok (l.map fun e => (e.1, value e.2)) := by
  rw [readEntries, Value.memberTrees_eq_map, List.map_map, List.mapM_map,
    mapM_ok (f := _) fun e _ => ?_]
  · rfl
  · change (read (json e.2).tree).bind _ = _
    rw [h e.2]
    rfl

theorem check_list {vs : List Value} {n : Nat} (h : ∀ v ∈ vs, v.tree.check (n + 1) = .ok ()) :
    (Value.list vs).tree.check (n + 2) = .ok () := by
  rw [Value.tree, check_list_iff, checkItems_iff, Value.trees_eq_map, List.forall_mem_map]
  exact ⟨by omega, h, rfl⟩

theorem check_object {ms : List (String × Value)} {n : Nat}
    (h : ∀ m ∈ ms, m.2.tree.check (n + 1) = .ok ()) :
    (Value.object ms).tree.check (n + 2) = .ok () := by
  rw [Value.tree, check_object_iff, checkMembers_iff, Value.memberTrees_eq_map, List.forall_mem_map]
  exact ⟨by omega, fun m hm => ⟨⟨m.1, rfl⟩, h m hm⟩, rfl⟩

theorem mem_member {key : String} {v? : Option Value} {m : String × Value}
    (h : m ∈ Value.member key v?) : v? = some m.2 := by
  cases v? with
  | none => cases h
  | some v => rw [List.mem_singleton.1 h]

namespace Shape

variable {shape : Shape α}

/-- The members `ms`, with keys among `keys`, change a record `r` into `r'`. -/
def Reads (shape : Shape α) (keys : List String) (ms : List (Except Error String × Tree))
    (r r' : α) : Prop :=
  ∀ seen, (∀ k ∈ keys, k ∉ seen) → ∃ seen', (∀ k ∈ seen', k ∈ keys ∨ k ∈ seen) ∧
    ∀ ending rest, shape.readMembers ending seen (ms ++ rest) r =
      shape.readMembers ending seen' rest r'

theorem reads_nil (keys : List String) (r : α) : shape.Reads keys [] r r :=
  fun seen _ => ⟨seen, fun _ hk => .inr hk, fun _ _ => rfl⟩

theorem reads_member {key : String} {field : Field α} {t : Tree} {set : α → α}
    (found : shape.fields.find? (·.key == key) = some field) (h : field.read t = .ok set)
    (r : α) : shape.Reads [key] [(.ok key, t)] r (set r) := by
  intro seen fresh
  refine ⟨key :: seen, fun k hk => by simpa using hk, fun ending rest => ?_⟩
  have hs : seen.contains key = false := by
    simpa using fresh key List.mem_cons_self
  change shape.readMembers ending seen ((.ok key, t) :: rest) r = _
  rw [readMembers]
  simp only [bind, Except.bind, found, hs, Bool.false_eq_true, if_false, h]

/-- A field that is given by one value, or left out where the record has that value already. -/
theorem reads_optional {β : Type} (shape : Shape α) (key : String) {required : Bool}
    {read : Tree → Except Error β} (set : β → α → α) {v? : Option Value} {value : β} {r : α}
    (found : shape.fields.find? (·.key == key) =
      some ⟨key, required, fun t => do let v ← read t; return set v⟩)
    (present : ∀ v, v? = some v → read v.tree = .ok value)
    (absent : v? = none → set value r = r) :
    shape.Reads [key] (Value.memberTrees (Value.member key v?)) r (set value r) := by
  cases v? with
  | none =>
    rw [absent rfl]
    exact reads_nil [key] r
  | some v =>
    refine reads_member found ?_ r
    change (read v.tree).bind _ = _
    rw [present v rfl]
    rfl

theorem reads_append {keys keys' : List String} {ms ms' : List (Except Error String × Tree)}
    {r r' r'' : α} (apart : ∀ k ∈ keys', k ∉ keys) (h : shape.Reads keys ms r r')
    (h' : shape.Reads keys' ms' r' r'') :
    shape.Reads (keys ++ keys') (ms ++ ms') r r'' := by
  intro seen fresh
  obtain ⟨s, hs, read⟩ := h seen fun k hk => fresh k (List.mem_append_left _ hk)
  obtain ⟨s', hs', read'⟩ := h' s fun k hk hm => (hs k hm).elim (apart k hk)
    (fresh k (List.mem_append_right _ hk))
  refine ⟨s', fun k hk => ?_, fun ending rest => ?_⟩
  · rcases hs' k hk with hk | hk
    · exact .inl (List.mem_append_right _ hk)
    · exact (hs k hk).imp_left (List.mem_append_left _)
  · rw [List.append_assoc, read, read']

theorem missing_of_optional (seen : List String) {fields : List (Field α)}
    (h : ∀ f ∈ fields, f.required = false) : missing seen fields = .ok () := by
  induction fields with
  | nil => rfl
  | cons f fs ih =>
    rw [missing, h f List.mem_cons_self]
    exact ih fun g hg => h g (List.mem_cons_of_mem f hg)

theorem read_object {keys : List String} {ms : List (Except Error String × Tree)} {r : α}
    (h : shape.Reads keys ms shape.blank r) (optional : ∀ f ∈ shape.fields, f.required = false) :
    shape.read (.object ms .closed) = .ok r := by
  obtain ⟨seen, -, read⟩ := h [] fun k _ => List.not_mem_nil
  have hr := read .closed []
  rw [List.append_nil] at hr
  rw [Shape.read, hr, readMembers, missing_of_optional seen optional]
  rfl

end Shape

end ObjectStorage.Json
