import ObjectStorage.Proofs.Address.Target

/-!
# The request of an operation

The headers of a request are set one after the other, those of the operation first and up to five
more behind them: `requestHeaders_eq`. The last one of a name counts, and all of them have to be
such as can be sent. An operation without a bucket where it has a key, or with a name or a value
that cannot be written, has no request: `sayable_of_request`.
-/
namespace ObjectStorage

namespace Headers

theorem toLower_of_large {c : Char} (h : ¬ c.toNat < 128) : c.toLower = c := by
  refine dif_neg ?_
  rintro ⟨-, hz⟩
  exact h (Nat.lt_of_le_of_lt (UInt32.le_iff_toNat_le.1 hz) (by decide))

theorem toLower_idem (c : Char) : c.toLower.toLower = c.toLower := by
  by_cases small : c.toNat < 128
  · exact forall_char_lt (p := fun c => c.toLower.toLower = c.toLower) (by decide) small
  · rw [toLower_of_large small, toLower_of_large small]

theorem isNameChar_of_toLower {c : Char} (h : isNameChar c.toLower = true) :
    isNameChar c = true := by
  by_cases small : c.toNat < 128
  · exact forall_char_lt (p := fun c => isNameChar c.toLower = true → isNameChar c = true)
      (by decide) small h
  · rwa [toLower_of_large small] at h

theorem lower_idem (name : String) : lower (lower name) = lower name := by
  rw [lower, lower, String.toList_ofList, List.map_map]
  exact congrArg String.ofList (List.map_congr_left fun c _ => toLower_idem c)

theorem isName_of_lower {name : String} (h : isName (lower name) = true) : isName name = true := by
  simp only [isName, lower, ← String.length_toList, String.toList_ofList, List.length_map,
    Bool.and_eq_true, decide_eq_true_eq, List.all_map, List.all_eq_true, Function.comp_apply] at h ⊢
  obtain ⟨⟨hne, hlen⟩, hall⟩ := h
  refine ⟨⟨?_, hlen⟩, fun c hc => isNameChar_of_toLower (hall c hc)⟩
  simpa [← String.toList_eq_nil_iff] using hne

variable {h h' : Headers} {name value : String}

theorem sendable_of_set (hs : h.set name value = .ok h') :
    isName name = true ∧ isValue (Utf8.ofString value) = true := by
  rw [set] at hs
  split at hs
  · next hn =>
    split at hs
    · next hv => exact ⟨hn, hv⟩
    · cases hs
  · cases hs

theorem getAll_of_set (hs : h.set name value = .ok h') (other : String) :
    h'.getAll other =
      if lower name = other then [Utf8.ofString value] else h.getAll other := by
  rcases set_cases name value with ⟨hv, ho⟩ | ⟨e, he⟩
  · rw [ho h] at hs
    cases hs
    exact getAll_put h (lower name) other _ hv
  · rw [he h] at hs
    cases hs

theorem contains_iff (h : Headers) (name : String) : h.contains name = true ↔ h.getAll name ≠ [] := by
  rw [← mem_names_iff, contains, names, List.any_eq_true, List.mem_map]
  simp only [beq_iff_eq]

theorem contains_of_set (hs : h.set name value = .ok h') {other : String}
    (hn : lower name ≠ other) : h'.contains other = h.contains other := by
  rw [Bool.eq_iff_iff, contains_iff, contains_iff, getAll_of_set hs, if_neg hn]

theorem set_eq_error {e : Error} (hs : h.set name value = .error e) :
    (isName name = false ∧ e = .argument (.headerName name)) ∨
      (isValue (Utf8.ofString value) = false ∧ e = .argument (.headerValue (lower name))) := by
  rw [set] at hs
  split at hs
  · split at hs
    · cases hs
    · next hv =>
      cases hs
      exact Or.inr ⟨by simpa using hv, rfl⟩
  · next hn =>
    cases hs
    exact Or.inl ⟨by simpa using hn, rfl⟩

end Headers

namespace Operation

def Gives (o : Operation) (name : String) (value : Bytes) : Prop :=
  ∃ given ∈ o.headers, Headers.lower given.1 = name ∧ Utf8.ofString given.2 = value

def setHeaders : List String :=
  [V4.hostHeader, userAgentHeader, Checksum.header, contentTypeHeader, V4.digestHeader]

variable {c : ClientConfig} {o : Operation} {u : Url} {h h' : Headers} {r : Request}
variable {name : String} {value : Bytes}

def lastOf (given : List (String × String)) (name : String) : Option String :=
  ((given.filter fun g => Headers.lower g.1 == name).getLast?).map (·.2)

variable {given : List (String × String)}

@[simp]
theorem lastOf_nil (name : String) : lastOf [] name = none := rfl

theorem lastOf_cons (g : String × String) (given : List (String × String)) (name : String) :
    lastOf (g :: given) name =
      (lastOf given name).or (if Headers.lower g.1 = name then some g.2 else none) := by
  rw [lastOf, lastOf, List.filter_cons]
  by_cases hg : Headers.lower g.1 = name
  · rw [if_pos (by simpa using hg), if_pos hg, List.getLast?_cons]
    cases (given.filter fun g => Headers.lower g.1 == name).getLast? <;> rfl
  · rw [if_neg (by simpa using hg), if_neg hg, Option.or_none]

theorem lastOf_ite (p : Prop) [Decidable p] (g : String × String) (name : String) :
    lastOf (if p then [g] else []) name =
      if p ∧ Headers.lower g.1 = name then some g.2 else none := by
  by_cases hp : p
  · simp [hp, lastOf_cons]
  · simp [hp]

theorem lastOf_append (a b : List (String × String)) (name : String) :
    lastOf (a ++ b) name = (lastOf b name).or (lastOf a name) := by
  induction a with
  | nil => rw [List.nil_append, lastOf_nil, Option.or_none]
  | cons g a ih => rw [List.cons_append, lastOf_cons, ih, lastOf_cons, Option.or_assoc]

theorem mem_of_lastOf {v : String} (hv : lastOf given name = some v) :
    ∃ g ∈ given, Headers.lower g.1 = name ∧ g.2 = v := by
  obtain ⟨g, hg, rfl⟩ := Option.map_eq_some_iff.1 hv
  obtain ⟨member, hn⟩ := List.mem_filter.1 (List.mem_of_getLast? hg)
  exact ⟨g, member, by simpa using hn, rfl⟩

theorem hasHeader_eq (o : Operation) (name : String) :
    o.hasHeader name = (lastOf o.headers (Headers.lower name)).isSome := by
  rw [Bool.eq_iff_iff, Option.isSome_iff_exists]
  constructor
  · intro has
    obtain ⟨g, member, hn⟩ := List.any_eq_true.1 has
    have kept : g ∈ o.headers.filter fun g => Headers.lower g.1 == Headers.lower name :=
      List.mem_filter.2 ⟨member, hn⟩
    rw [lastOf, List.getLast?_eq_some_getLast (List.ne_nil_of_mem kept)]
    exact ⟨_, rfl⟩
  · rintro ⟨v, hv⟩
    obtain ⟨g, member, hn, -⟩ := mem_of_lastOf hv
    exact List.any_eq_true.2 ⟨g, member, by simpa using hn⟩

theorem setAll_append (h : Headers) (a b : List (String × String)) :
    setAll h (a ++ b) = setAll h a >>= fun h => setAll h b := by
  induction a generalizing h with
  | nil => rfl
  | cons g a ih =>
    rw [List.cons_append, setAll, setAll, bind_assoc]
    exact congrArg (h.set _ g.2 >>= ·) (funext ih)

theorem setAll_singleton (h : Headers) {name : String} (hl : Headers.lower name = name)
    (value : String) : setAll h [(name, value)] = h.set name value := by
  rw [setAll, hl]
  cases h.set name value <;> rfl

theorem getAll_of_setAll (hs : setAll h given = .ok h') (name : String) :
    h'.getAll name = ((lastOf given name).map fun v => [Utf8.ofString v]).getD (h.getAll name) := by
  induction given generalizing h with
  | nil =>
    cases hs
    rfl
  | cons g given ih =>
    obtain ⟨h₁, set, rest⟩ := bind_eq_ok hs
    rw [ih rest, lastOf_cons, Headers.getAll_of_set set, Headers.lower_idem]
    cases lastOf given name with
    | some v => rfl
    | none => by_cases hn : Headers.lower g.1 = name <;> simp [hn]

theorem sendable_of_setAll (hs : setAll h given = .ok h') :
    ∀ g ∈ given, Headers.isName g.1 = true ∧ Headers.isValue (Utf8.ofString g.2) = true := by
  induction given generalizing h with
  | nil => exact List.forall_mem_nil _
  | cons g given ih =>
    obtain ⟨h₁, set, rest⟩ := bind_eq_ok hs
    obtain ⟨hn, hv⟩ := Headers.sendable_of_set set
    exact List.forall_mem_cons.2 ⟨⟨Headers.isName_of_lower hn, hv⟩, ih rest⟩

/-- The first header that cannot be sent is the one that is complained of. -/
theorem setAll_eq_error {e : Error} (hs : setAll h given = .error e) :
    ∃ g ∈ given,
      (Headers.isName g.1 = false ∧ e = .argument (.headerName (Headers.lower g.1))) ∨
        (Headers.isValue (Utf8.ofString g.2) = false ∧
          e = .argument (.headerValue (Headers.lower g.1))) := by
  induction given generalizing h with
  | nil => cases hs
  | cons g given ih =>
    rw [setAll] at hs
    rcases set : h.set (Headers.lower g.1) g.2 with e' | h₁
    · rw [set] at hs
      cases hs
      refine ⟨g, List.mem_cons_self, ?_⟩
      rcases Headers.set_eq_error set with ⟨hn, he⟩ | ⟨hv, he⟩
      · refine Or.inl ⟨?_, he⟩
        rw [← Bool.not_eq_true] at hn ⊢
        exact fun legal => hn (Headers.isName_lower legal)
      · rw [Headers.lower_idem] at he
        exact Or.inr ⟨hv, he⟩
    · rw [set] at hs
      obtain ⟨g', member, found⟩ := ih hs
      exact ⟨g', List.mem_cons_of_mem g member, found⟩

def bodyHeaders (c : ClientConfig) (o : Operation) : List (String × String) :=
  match o.body with
  | none => []
  | some body =>
    (if c.checksums && !o.hasHeader Checksum.header then
      [(Checksum.header, toString (Checksum.ofContent body))] else []) ++
    (if !o.hasHeader contentTypeHeader then [(contentTypeHeader, usualContentType)] else [])

def addedHeaders (c : ClientConfig) (o : Operation) (u : Url) : List (String × String) :=
  (V4.hostHeader, u.authority?.getD "") :: (userAgentHeader, c.userAgent) :: o.bodyHeaders c ++
    if o.unsignedPayload then [(V4.digestHeader, V4.unsignedPayload)] else []

theorem setType_eq (hc : h.contains contentTypeHeader = o.hasHeader contentTypeHeader) :
    (if h.contains contentTypeHeader then .ok h else h.set contentTypeHeader usualContentType) =
      setAll h (if !o.hasHeader contentTypeHeader then [(contentTypeHeader, usualContentType)]
        else []) := by
  rw [hc]
  cases o.hasHeader contentTypeHeader with
  | true => rfl
  | false => exact (setAll_singleton h (by decide) _).symm

theorem setBodyHeaders_eq (hc : h.contains contentTypeHeader = o.hasHeader contentTypeHeader) :
    setBodyHeaders c o h = setAll h (o.bodyHeaders c) := by
  rcases hb : o.body with - | body
  · rw [setBodyHeaders, bodyHeaders, hb]
    rfl
  · simp only [setBodyHeaders, bodyHeaders, hb, setAll_append]
    by_cases needed : (c.checksums && !o.hasHeader Checksum.header) = true
    · rw [if_pos needed, if_pos needed, setAll_singleton h (by decide)]
      refine bind_congr_of_ok fun h₁ set => ?_
      exact setType_eq ((Headers.contains_of_set set (by decide)).trans hc)
    · rw [if_neg needed, if_neg needed]
      exact setType_eq hc

theorem contains_of_setAll (hs : setAll .empty o.headers = .ok h) :
    h.contains contentTypeHeader = o.hasHeader contentTypeHeader := by
  have lower : Headers.lower contentTypeHeader = contentTypeHeader := by decide
  rw [hasHeader_eq, lower, Bool.eq_iff_iff, Headers.contains_iff, getAll_of_setAll hs]
  cases lastOf o.headers contentTypeHeader with
  | none => simp [Headers.getAll, Headers.empty]
  | some v => simp

theorem requestHeaders_eq (c : ClientConfig) (o : Operation) (u : Url) :
    o.requestHeaders c u = setAll .empty (o.headers ++ o.addedHeaders c u) := by
  rw [requestHeaders, setAll_append]
  refine bind_congr_of_ok fun h₁ own => ?_
  refine bind_congr_of_ok fun h₂ host => ?_
  refine bind_congr_of_ok fun h₃ agent => ?_
  have type : h₃.contains contentTypeHeader = o.hasHeader contentTypeHeader := by
    rw [Headers.contains_of_set agent (by decide), Headers.contains_of_set host (by decide),
      contains_of_setAll own]
  rw [setBodyHeaders_eq type]
  change _ = setAll h₃ (o.bodyHeaders c ++ _)
  rw [setAll_append]
  refine bind_congr_of_ok fun h₄ body => ?_
  split
  · rw [setAll_singleton h₄ (by decide)]
  · rfl

theorem lastOf_bodyHeaders (c : ClientConfig) (o : Operation) (name : String) :
    lastOf (o.bodyHeaders c) name =
      if name = Checksum.header then
        if c.checksums && !o.hasHeader Checksum.header then
          o.body.map fun body => toString (Checksum.ofContent body)
        else none
      else if name = contentTypeHeader then
        if !o.hasHeader contentTypeHeader then o.body.map fun _ => usualContentType else none
      else none := by
  have checksum : Headers.lower Checksum.header = Checksum.header := by decide
  have type : Headers.lower contentTypeHeader = contentTypeHeader := by decide
  rcases hb : o.body with - | body
  · simp [bodyHeaders, hb]
  · simp only [bodyHeaders, hb, lastOf_append, lastOf_ite, checksum, type]
    by_cases isChecksum : name = Checksum.header
    · subst isChecksum
      have differ : contentTypeHeader ≠ Checksum.header := by decide
      simp [differ]
    · by_cases isType : name = contentTypeHeader
      · subst isType
        simp [isChecksum, Ne.symm isChecksum]
      · simp [isChecksum, isType, Ne.symm isChecksum, Ne.symm isType]

theorem lastOf_addedHeaders (c : ClientConfig) (o : Operation) (u : Url) (name : String) :
    lastOf (o.addedHeaders c u) name =
      if name = V4.hostHeader then some (u.authority?.getD "")
      else if name = userAgentHeader then some c.userAgent
      else if name = V4.digestHeader then
        if o.unsignedPayload then some V4.unsignedPayload else none
      else lastOf (o.bodyHeaders c) name := by
  have host : Headers.lower V4.hostHeader = V4.hostHeader := by decide
  have agent : Headers.lower userAgentHeader = userAgentHeader := by decide
  have digest : Headers.lower V4.digestHeader = V4.digestHeader := by decide
  rw [addedHeaders, List.cons_append, List.cons_append, lastOf_cons, lastOf_cons, lastOf_append,
    lastOf_ite, lastOf_bodyHeaders, host, agent, digest]
  by_cases isHost : name = V4.hostHeader
  · subst isHost
    simp +decide
  · by_cases isAgent : name = userAgentHeader
    · subst isAgent
      simp +decide
    · by_cases isDigest : name = V4.digestHeader
      · subst isDigest
        simp +decide
      · simp [isHost, isAgent, isDigest, Ne.symm isHost, Ne.symm isAgent, Ne.symm isDigest]

theorem lastOf_added_of_not_mem (hn : name ∉ setHeaders) :
    lastOf (o.addedHeaders c u) name = none := by
  simp only [setHeaders, List.mem_cons, List.not_mem_nil, or_false, not_or] at hn
  obtain ⟨noHost, noAgent, noChecksum, noType, noDigest⟩ := hn
  rw [lastOf_addedHeaders, if_neg noHost, if_neg noAgent, if_neg noDigest, lastOf_bodyHeaders,
    if_neg noChecksum, if_neg noType]

theorem headers_of_request (hr : o.request c = .ok r) :
    setAll .empty (o.headers ++ o.addedHeaders c r.url) = .ok r.headers := by
  obtain ⟨u, -, hr⟩ := bind_eq_ok hr
  obtain ⟨h, headers, hr⟩ := bind_eq_ok hr
  cases hr
  rwa [requestHeaders_eq] at headers

/-- Each header has the last value that is added for it, else the last one that is given. -/
theorem getAll_of_request (hr : o.request c = .ok r) (name : String) :
    r.headers.getAll name =
      ((lastOf (o.addedHeaders c r.url) name).or (lastOf o.headers name)).toList.map
        Utf8.ofString := by
  rw [getAll_of_setAll (headers_of_request hr), lastOf_append]
  cases (lastOf (o.addedHeaders c r.url) name).or (lastOf o.headers name) <;> rfl

theorem gives_of_request (hr : o.request c = .ok r) (hn : name ∉ setHeaders)
    (hv : value ∈ r.headers.getAll name) : o.Gives name value := by
  rw [getAll_of_request hr, lastOf_added_of_not_mem hn, Option.none_or] at hv
  obtain ⟨v, last, hv⟩ := List.mem_map.1 hv
  obtain ⟨g, member, hg, rfl⟩ := mem_of_lastOf (Option.mem_toList.1 last)
  exact ⟨g, member, hg, hv⟩

theorem checksum_of_request {body : Bytes} (hr : o.request c = .ok r) (hb : o.body = some body)
    (on : c.checksums = true) (own : o.hasHeader Checksum.header = false) :
    r.body = some body ∧
      r.headers.getAll Checksum.header =
        [Utf8.ofString (toString (Checksum.ofContent body))] := by
  refine ⟨?_, ?_⟩
  · obtain ⟨u, -, hr⟩ := bind_eq_ok hr
    obtain ⟨h, -, hr⟩ := bind_eq_ok hr
    cases hr
    exact hb
  · rw [getAll_of_request hr, lastOf_addedHeaders, if_neg (by decide), if_neg (by decide),
      if_neg (by decide), lastOf_bodyHeaders, if_pos rfl, on, own, hb]
    rfl

structure Sayable (o : Operation) : Prop where
  target : IsTarget o
  headers : ∀ given ∈ o.headers,
    Headers.isName given.1 = true ∧ Headers.isValue (Utf8.ofString given.2) = true

theorem target_of_bucketUrl {bucket : String} {key : Option String}
    (hu : bucketUrl c bucket key = .ok u) :
    isBucketName bucket.toList = true ∧ key ≠ some "" := by
  obtain ⟨⟨⟩, name, hu⟩ := bind_eq_ok hu
  refine ⟨checkBucket_eq_ok name, ?_⟩
  split at hu
  · obtain ⟨⟨⟩, hk, -⟩ := bind_eq_ok hu
    exact checkKey_eq_ok hk
  · obtain ⟨url, -, hu⟩ := bind_eq_ok hu
    obtain ⟨⟨⟩, hk, -⟩ := bind_eq_ok hu
    exact checkKey_eq_ok hk

theorem target_of_url (hu : o.url c = .ok u) : IsTarget o := by
  obtain ⟨method, bucket, key, query, headers, body, unsigned⟩ := o
  cases bucket with
  | none =>
    cases key with
    | none => exact ⟨by simp, by simp, by simp⟩
    | some key => cases hu
  | some bucket =>
    obtain ⟨place, hu, -⟩ := bind_eq_ok (x := bucketUrl c bucket key) hu
    obtain ⟨name, nonempty⟩ := target_of_bucketUrl hu
    exact ⟨by simpa using name, nonempty, by simp⟩

theorem sayable_of_request (hr : o.request c = .ok r) : o.Sayable := by
  have sendable := sendable_of_setAll (headers_of_request hr)
  obtain ⟨u, hu, -⟩ := bind_eq_ok hr
  exact ⟨target_of_url hu, fun g hg => sendable g (List.mem_append_left _ hg)⟩

theorem rejected_of_not_sayable (hn : ¬ o.Sayable) (c : ClientConfig) :
    ∃ e, o.request c = .error e := by
  rcases hr : o.request c with e | r
  · exact ⟨e, rfl⟩
  · exact absurd (sayable_of_request hr) hn

end Operation

end ObjectStorage
