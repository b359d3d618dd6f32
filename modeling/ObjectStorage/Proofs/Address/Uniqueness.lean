import ObjectStorage.Proofs.Address.Target

/-!
# Which targets share a URL

Two requests of a client with the same parameters have the same URL exactly when their targets have
the same address. Where no key has a segment of dots, an address belongs to one target.
-/
namespace ObjectStorage

namespace Path

theorem splitOn_textChars {w : List Char} (hw : '/' ∉ w) {ss : List (List Char)}
    (h : ∀ s ∈ ss, '/' ∉ s) : (w ++ textChars ⟨ss⟩).splitOn '/' = w :: ss := by
  induction ss generalizing w with
  | nil => rw [textChars, List.flatMap_nil, List.append_nil, List.splitOn_eq_singleton hw]
  | cons s r ih =>
    have hr := ih (h s List.mem_cons_self) fun t ht => h t (List.mem_cons_of_mem s ht)
    rw [textChars, List.flatMap_cons, List.cons_append,
      List.splitOn_append_cons_self_of_not_mem hw]
    exact congrArg _ hr

theorem splitOn_encoded (ss : List (List Char)) :
    (textChars ⟨ss.map Percent.encodeChars⟩).splitOn '/' = [] :: ss.map Percent.encodeChars := by
  refine splitOn_textChars (w := []) List.not_mem_nil fun s hs => ?_
  obtain ⟨t, -, rfl⟩ := List.mem_map.1 hs
  exact Percent.slash_not_mem_encodeChars t

theorem eq_of_textChars {ps qs : List (List Char)}
    (h : textChars ⟨ps.map Percent.encodeChars⟩ = textChars ⟨qs.map Percent.encodeChars⟩) :
    ps = qs := by
  have hsplit := splitOn_encoded ps
  rw [h, splitOn_encoded] at hsplit
  have inj : ∀ s t, Percent.encodeChars s = Percent.encodeChars t → s = t := fun s t =>
    Percent.encodeChars_injective
  exact ((List.map_inj_right inj).1 (List.cons.inj hsplit).2).symm

end Path

namespace Operation

theorem isHostOf_unique {e : Url} {bucket : Option String} {host host' : Host}
    (h : IsHostOf e bucket host) (h' : IsHostOf e bucket host') : host = host' := by
  cases bucket with
  | none => exact Option.some.inj (h.symm.trans h')
  | some bucket =>
    obtain ⟨n, hn, rfl⟩ := h
    obtain ⟨m, hm, rfl⟩ := h'
    rw [hn] at hm
    cases hm
    rfl

theorem segments_of_placed {e : Url} {host : Host} {ss ss' : List (List Char)}
    {q : List Query.Pair}
    (h : (Url.placed e host ss q).textChars = (Url.placed e host ss' q).textChars) : ss = ss' := by
  obtain ⟨front, port, back, htext⟩ := Url.placed_textChars e q
  rw [htext, htext] at h
  have hrest := List.append_cancel_left (List.append_cancel_left (List.append_cancel_left h))
  exact Path.eq_of_textChars (List.append_cancel_right hrest)

/-- Buckets with hosts of their own are told apart by the first label. -/
theorem bucket_of_placed {e : Url} {b b' : String} {host host' : Host}
    {ss ss' : List (List Char)} {q : List Query.Pair} (hb : isBucketName b.toList = true)
    (hb' : isBucketName b'.toList = true) (hh : IsHostOf e (some b) host)
    (hh' : IsHostOf e (some b') host')
    (h : (Url.placed e host ss q).textChars = (Url.placed e host' ss' q).textChars) : b = b' := by
  obtain ⟨front, port, back, htext⟩ := Url.placed_textChars e q
  obtain ⟨n, hn, rfl⟩ := hh
  obtain ⟨m, hm, rfl⟩ := hh'
  rw [htext, htext] at h
  have hrest := List.append_cancel_left h
  simp only [Host.textChars, String.toList_ofList, List.append_assoc, List.cons_append] at hrest
  have hlabel := eq_of_append_first (Host.dot_not_mem_label (isLabelChar_of_bucket hb))
    (Host.dot_not_mem_label (isLabelChar_of_bucket hb')) hrest
  exact String.toList_inj.1 hlabel.1

/-- The service has a shorter URL than any bucket with a host of its own. -/
theorem service_ne_bucket {e : Url} {b : String} {host host' : Host} {ss : List (List Char)}
    {q : List Query.Pair} (hb : isBucketName b.toList = true) (hh : IsHostOf e none host)
    (hh' : IsHostOf e (some b) host') :
    (Url.placed e host [[]] q).textChars ≠ (Url.placed e host' ss q).textChars := by
  intro h
  obtain ⟨front, port, back, htext⟩ := Url.placed_textChars e q
  obtain ⟨n, hn, rfl⟩ := hh'
  rw [IsHostOf, hn] at hh
  cases hh
  rw [htext, htext] at h
  have hlength := congrArg List.length h
  have hb3 := bucket_length hb
  simp only [Host.textChars, String.toList_ofList, List.length_append, List.length_cons,
    List.length_map, Path.textChars, List.map_cons, List.map_nil, List.flatMap_cons,
    List.flatMap_nil, List.length_nil] at hlength
  have hnil : (Percent.encodeChars []).length = 0 := rfl
  omega

theorem hosted_of_placed {e : Url} {x x' : Option String} {host host' : Host}
    {ss ss' : List (List Char)} {q : List Query.Pair}
    (hx : ∀ b, x = some b → isBucketName b.toList = true)
    (hx' : ∀ b, x' = some b → isBucketName b.toList = true) (hh : IsHostOf e x host)
    (hh' : IsHostOf e x' host') (hs : x = none → x' ≠ none → ss = [[]])
    (hs' : x' = none → x ≠ none → ss' = [[]])
    (h : (Url.placed e host ss q).textChars = (Url.placed e host' ss' q).textChars) : x = x' := by
  cases x with
  | none =>
    cases x' with
    | none => rfl
    | some b' =>
      rw [hs rfl (Option.some_ne_none b')] at h
      exact absurd h (service_ne_bucket (hx' b' rfl) hh hh')
  | some b =>
    cases x' with
    | none =>
      rw [hs' rfl (Option.some_ne_none b)] at h
      exact absurd h.symm (service_ne_bucket (hx b rfl) hh' hh)
    | some b' => rw [bucket_of_placed (hx b rfl) (hx' b' rfl) hh hh' h]

theorem path_of_hosted {c : ClientConfig} {o o' : Operation} (h : hosted c o = none)
    (h' : hosted c o' ≠ none) : Path.follow [] (written c o) = [[]] := by
  rw [hosted] at h h'
  split at h'
  · exact absurd rfl h'
  · next hstyle =>
    rw [if_neg hstyle] at h
    rw [written, h]
    rfl

theorem bucket_of_hosted {c : ClientConfig} {o : Operation} {b : String}
    (h : hosted c o = some b) : o.bucket = some b := by
  rw [hosted] at h
  split at h
  · cases h
  · exact h

section
variable {c : ClientConfig} (hc : Endpoint.IsService c.endpoint) {o₁ o₂ : Operation} {u₁ u₂ : Url}
  (h₁ : url c o₁ = .ok u₁) (h₂ : url c o₂ = .ok u₂) (hq : o₁.query = o₂.query)
include hc h₁ h₂ hq

theorem url_of_address (ha : address c o₁ = address c o₂) : u₁ = u₂ := by
  obtain ⟨-, host₁, hhost₁, rfl⟩ := url_eq_ok hc h₁
  obtain ⟨-, host₂, hhost₂, rfl⟩ := url_eq_ok hc h₂
  obtain ⟨hhosted, hpath⟩ := Prod.ext_iff.1 ha
  simp only [address] at hhosted hpath
  rw [hhosted] at hhost₁
  rw [isHostOf_unique hhost₁ hhost₂, hpath, hq]

theorem address_of_text (ht : u₁.textChars = u₂.textChars) : address c o₁ = address c o₂ := by
  obtain ⟨target₁, host₁, hhost₁, rfl⟩ := url_eq_ok hc h₁
  obtain ⟨target₂, host₂, hhost₂, rfl⟩ := url_eq_ok hc h₂
  rw [hq] at ht
  -- the hosts come first: only under one host are two texts compared from their paths on
  have hhosted : hosted c o₁ = hosted c o₂ :=
    hosted_of_placed (fun b hb => target₁.bucket_name b (bucket_of_hosted hb))
      (fun b hb => target₂.bucket_name b (bucket_of_hosted hb)) hhost₁ hhost₂ path_of_hosted
      path_of_hosted ht
  rw [hhosted] at hhost₁
  rw [isHostOf_unique hhost₁ hhost₂] at ht
  exact Prod.ext hhosted (segments_of_placed ht)

end

def WithoutDots (o : Operation) : Prop := ∀ s ∈ segments o.key, ¬ Path.IsDotSegment s

instance (o : Operation) : Decidable (WithoutDots o) := List.decidableBAll _ _

theorem segments_injective {k k' : Option String} (hk : k ≠ some "") (hk' : k' ≠ some "")
    (h : segments k = segments k') : k = k' := by
  have hchars : k.getD "" = k'.getD "" := by
    have hjoin := congrArg (List.intercalate ['/']) h
    rw [segments, segments, List.intercalate_splitOn, List.intercalate_splitOn] at hjoin
    exact String.toList_inj.1 hjoin
  cases k with
  | none =>
    cases k' with
    | none => rfl
    | some t => exact absurd (congrArg some hchars.symm) hk'
  | some s =>
    cases k' with
    | none => exact absurd (congrArg some hchars) hk
    | some t => exact congrArg some hchars

theorem not_isDotSegment_of_bucket {bucket : String} (h : isBucketName bucket.toList = true) :
    ¬ Path.IsDotSegment bucket.toList := by
  have hl := bucket_length h
  rintro (hdot | hdots)
  · simp [hdot] at hl
  · simp [hdots] at hl

theorem follow_written {c : ClientConfig} {o : Operation} (ht : IsTarget o) (hd : WithoutDots o) :
    Path.follow [] (written c o) = written c o := by
  rw [written]
  split
  · rfl
  · next bucket hbucket =>
    have hdot := not_isDotSegment_of_bucket (ht.bucket_name bucket hbucket)
    split
    · exact Path.follow_eq (List.forall_mem_cons.2 ⟨hdot, hd⟩)
    · exact Path.follow_eq hd

theorem written_of_none {c : ClientConfig} {o : Operation} (h : o.bucket = none) :
    hosted c o = none ∧ written c o = [[]] := by
  constructor
  · simp [hosted, h]
  · simp [written, h]

theorem written_ne {c : ClientConfig} {o : Operation} (ht : IsTarget o) {b : String}
    (hb : o.bucket = some b) (hh : hosted c o = none) : written c o ≠ [[]] := by
  have hstyle : c.pathStyle = true := by
    by_contra hs
    rw [hosted, if_neg hs, hb] at hh
    cases hh
  intro hw
  simp only [written, hb, hstyle, if_true, List.cons.injEq] at hw
  exact ne_nil_of_bucket (ht.bucket_name b hb) hw.1

theorem target_of_written {c : ClientConfig} {o₁ o₂ : Operation} (t₁ : IsTarget o₁)
    (t₂ : IsTarget o₂) (hh : hosted c o₁ = hosted c o₂) (hw : written c o₁ = written c o₂) :
    o₁.bucket = o₂.bucket ∧ o₁.key = o₂.key := by
  cases hb₁ : o₁.bucket with
  | none =>
    obtain ⟨hnone, hroot⟩ := written_of_none (c := c) hb₁
    cases hb₂ : o₂.bucket with
    | none => exact ⟨rfl, (t₁.key_none hb₁).trans (t₂.key_none hb₂).symm⟩
    | some b₂ => exact absurd (hw.symm.trans hroot) (written_ne t₂ hb₂ (hh.symm.trans hnone))
  | some b₁ =>
    cases hb₂ : o₂.bucket with
    | none =>
      obtain ⟨hnone, hroot⟩ := written_of_none (c := c) hb₂
      exact absurd (hw.trans hroot) (written_ne t₁ hb₁ (hh.trans hnone))
    | some b₂ =>
      simp only [hosted, hb₁, hb₂] at hh
      simp only [written, hb₁, hb₂] at hw
      by_cases hstyle : c.pathStyle = true
      · simp only [hstyle, if_true, List.cons.injEq] at hw
        exact ⟨congrArg some (String.toList_inj.1 hw.1),
          segments_injective t₁.key_ne t₂.key_ne hw.2⟩
      · rw [if_neg hstyle, if_neg hstyle] at hh hw
        exact ⟨hh, segments_injective t₁.key_ne t₂.key_ne hw⟩

/-- The requests of a client with the same parameters have the same URL exactly when their targets
have the same address, which without dots is when the targets are the same. -/
theorem url_text_eq_iff {b : ClientBuilder} {client : Client} (hb : b.build = .ok client)
    {o₁ o₂ : Operation} {r₁ r₂ : Request} (h₁ : request client.config o₁ = .ok r₁)
    (h₂ : request client.config o₂ = .ok r₂) (hq : o₁.query = o₂.query) :
    (r₁.url.text = r₂.url.text ↔ address client.config o₁ = address client.config o₂) ∧
      (WithoutDots o₁ → WithoutDots o₂ → r₁.url.text = r₂.url.text →
        o₁.bucket = o₂.bucket ∧ o₁.key = o₂.key) := by
  obtain ⟨endpoint, he, hclient⟩ := bind_eq_ok hb
  have hc : Endpoint.IsService client.config.endpoint := by
    cases hclient
    exact Endpoint.isService_of_read he
  have hu₁ := request_eq_ok h₁
  have hu₂ := request_eq_ok h₂
  have haddress : r₁.url.text = r₂.url.text →
      address client.config o₁ = address client.config o₂ := fun ht =>
    address_of_text hc hu₁ hu₂ hq (String.ofList_inj.1 ht)
  refine ⟨⟨haddress, fun ha => by rw [url_of_address hc hu₁ hu₂ hq ha]⟩, fun d₁ d₂ ht => ?_⟩
  obtain ⟨t₁, -⟩ := url_eq_ok hc hu₁
  obtain ⟨t₂, -⟩ := url_eq_ok hc hu₂
  obtain ⟨hhosted, hpath⟩ := Prod.ext_iff.1 (haddress ht)
  simp only [address, follow_written t₁ d₁, follow_written t₂ d₂] at hhosted hpath
  exact target_of_written t₁ t₂ hhosted hpath

theorem url_text_ne_of_buckets : ∃ client r₁ r₂,
    (ClientBuilder.new "http://localhost:9000").build = .ok client ∧
      request client.config (((new "GET").withBucket "bkt-one").withKey "x") = .ok r₁ ∧
      request client.config (((new "GET").withBucket "bkt-two").withKey "x") = .ok r₂ ∧
      r₁.url.text ≠ r₂.url.text := by
  have hsome : (do
      let client ← (ClientBuilder.new "http://localhost:9000").build
      let r₁ ← request client.config (((new "GET").withBucket "bkt-one").withKey "x")
      let r₂ ← request client.config (((new "GET").withBucket "bkt-two").withKey "x")
      return (r₁.url, r₂.url)).toOption.isSome = true := by
    decide +kernel
  obtain ⟨urls, hurls⟩ := exists_eq_ok hsome
  obtain ⟨client, hb, hurls⟩ := bind_eq_ok hurls
  obtain ⟨r₁, h₁, hurls⟩ := bind_eq_ok hurls
  obtain ⟨r₂, h₂, -⟩ := bind_eq_ok hurls
  refine ⟨client, r₁, r₂, hb, h₁, h₂, fun ht => ?_⟩
  have htarget := (url_text_eq_iff hb h₁ h₂ rfl).2 (by decide) (by decide) ht
  exact absurd htarget.1 (by decide)

/-- Two dots lead from one bucket to an object of another. -/
theorem url_text_of_dots :
    (do
      let client ← (ClientBuilder.new "http://localhost:9000").build
      let r₁ ← request client.config (((new "GET").withBucket "bkt-one").withKey "../bkt-two/x")
      let r₂ ← request client.config (((new "GET").withBucket "bkt-two").withKey "x")
      return (r₁.url.text, r₂.url.text)).toOption =
      some ("http://localhost:9000/bkt-two/x", "http://localhost:9000/bkt-two/x") := by
  decide +kernel

end Operation

end ObjectStorage
