import ObjectStorage.Proofs.Signature.Frame

/-!
# The steps of a signing

What one step of a signing comes to, and what all of them have done when none of them fails:
`edit_eq_ok` says which headers are set to what, and over which headers the signature is.
-/
namespace ObjectStorage.V4

open Headers (AgreeOutside)

def written : List String := [hostHeader, dateHeader, digestHeader, tokenHeader, authorizationHeader]

section
variable {α β : Type} {x : Edit α} {f : α → Edit β} {h h' : Headers}

theorem bind_ok {a : α} (hx : x h = .ok a h') :
    (x >>= f) h = f a h' := by
  change EStateM.bind x f h = _
  rw [EStateM.bind, hx]

theorem bind_error {e : Error} (hx : x h = .error e h') : (x >>= f) h = .error e h' := by
  change EStateM.bind x f h = _
  rw [EStateM.bind, hx]

theorem bind_eq_ok {b : β} (hb : (x >>= f) h = .ok b h') :
    ∃ a k, x h = .ok a k ∧ f a k = .ok b h' := by
  cases hx : x h with
  | ok a k => exact ⟨a, k, rfl, by rwa [bind_ok hx] at hb⟩
  | error e k =>
    rw [bind_error hx] at hb
    cases hb

theorem reading_eq_ok {g : Headers → Except Error α} {a : α} (hg : reading g h = .ok a h') :
    g h = .ok a ∧ h' = h := by
  rw [reading] at hg
  split at hg
  · next b hb =>
    cases hg
    exact ⟨hb, rfl⟩
  · cases hg

end

theorem setting_cases {name : String} (hl : Headers.lower name = name) (value : String) :
    (∃ hv : Headers.isEntry (name, [Utf8.ofString value]) = true,
        ∀ h, setting name value h = .ok () (h.put name [Utf8.ofString value] hv)) ∨
      ∃ e, ∀ h, setting name value h = .error e h := by
  have hs := Headers.set_cases name value
  rw [hl] at hs
  rcases hs with ⟨hv, hs⟩ | ⟨e, hs⟩
  · exact Or.inl ⟨hv, fun h => by rw [setting, hs h]⟩
  · exact Or.inr ⟨e, fun h => by rw [setting, hs h]⟩

theorem setting_eq_ok {name value : String} (hl : Headers.lower name = name) {h h' : Headers}
    {u : Unit} (hs : setting name value h = .ok u h') :
    ∃ hv, h' = h.put name [Utf8.ofString value] hv := by
  rcases setting_cases hl value with ⟨hv, ho⟩ | ⟨e, he⟩
  · rw [ho h] at hs
    cases hs
    exact ⟨hv, rfl⟩
  · rw [he h] at hs
    cases hs

theorem payloadDigest_congr (r : Request) {h k : Headers}
    (hd : h.getAll digestHeader = k.getAll digestHeader) :
    payloadDigest r h = payloadDigest r k := by
  rw [payloadDigest, payloadDigest, Headers.get?, Headers.get?, hd]

/-- Whatever digest there is can be written as a header and is then found again. -/
theorem textOf?_payloadDigest {r : Request} {h : Headers} {t : String}
    (hp : payloadDigest r h = .ok t) : Headers.textOf? (Utf8.ofString t) = some t := by
  rw [payloadDigest] at hp
  split at hp
  · split at hp
    · next ht =>
      rw [← Except.ok.inj hp]
      exact Headers.textOf?_ofString ht
    · cases hp
  · rw [← Except.ok.inj hp]
    exact Headers.textOf?_of_visible fun c hc => Bytes.hex_visible hc

theorem payloadDigest_put {r : Request} {h : Headers} {t : String}
    (ht : Headers.textOf? (Utf8.ofString t) = some t)
    (hv : Headers.isEntry (digestHeader, [Utf8.ofString t]) = true) :
    payloadDigest r (h.put digestHeader [Utf8.ofString t] hv) = .ok t := by
  rw [payloadDigest, Headers.get?, Headers.getAll_put, if_pos rfl, List.head?_cons]
  simp only [ht]

/-- The headers that a signature is over: those of the caller, with what signing sets in them. -/
structure Prepared (token : Option String) (now : Instant) (host payload : String)
    (h k : Headers) : Prop where
  agree : AgreeOutside [hostHeader, dateHeader, digestHeader, tokenHeader] h k
  host_eq : k.getAll hostHeader = [Utf8.ofString host]
  date_eq : k.getAll dateHeader = [Utf8.ofString now.stamp]
  digest_eq : k.getAll digestHeader = [Utf8.ofString payload]
  token_eq : k.getAll tokenHeader = token.toList.map Utf8.ofString

theorem setToken_eq_ok {token : Option String} {h h' : Headers} {u : Unit}
    (hs : setToken token h = .ok u h') :
    AgreeOutside [tokenHeader] h h' ∧
      h'.getAll tokenHeader = token.toList.map Utf8.ofString := by
  have hm : tokenHeader ∈ [tokenHeader] := List.mem_singleton_self _
  cases token with
  | some t =>
    obtain ⟨hv, rfl⟩ := setting_eq_ok rfl hs
    refine ⟨Headers.agreeOutside_put hm h _ hv, ?_⟩
    rw [Headers.getAll_put, if_pos rfl]
    rfl
  | none =>
    have he : h' = h.erase tokenHeader := by
      cases hs
      rfl
    subst he
    refine ⟨Headers.agreeOutside_erase hm h, ?_⟩
    rw [Headers.getAll_erase, if_pos rfl]
    rfl

theorem prepared_of_token {h k : Headers} {host payload : String} {now : Instant}
    {token : Option String} {v₁ v₂ v₃}
    (agree : AgreeOutside [tokenHeader]
      (((h.put hostHeader [Utf8.ofString host] v₁).put dateHeader [Utf8.ofString now.stamp] v₂).put
        digestHeader [Utf8.ofString payload] v₃) k)
    (values : k.getAll tokenHeader = token.toList.map Utf8.ofString) :
    Prepared token now host payload h k := by
  refine ⟨?_, ?_, ?_, ?_, values⟩
  · intro name hn
    simp only [List.mem_cons, List.not_mem_nil, or_false, not_or] at hn
    rw [← agree name (by simpa using hn.2.2.2), Headers.getAll_put, if_neg (Ne.symm hn.2.2.1),
      Headers.getAll_put, if_neg (Ne.symm hn.2.1), Headers.getAll_put, if_neg (Ne.symm hn.1)]
  · rw [← agree hostHeader (by decide), Headers.getAll_put, if_neg (by decide), Headers.getAll_put,
      if_neg (by decide), Headers.getAll_put, if_pos rfl]
  · rw [← agree dateHeader (by decide), Headers.getAll_put, if_neg (by decide), Headers.getAll_put,
      if_pos rfl]
  · rw [← agree digestHeader (by decide), Headers.getAll_put, if_pos rfl]

/-- The headers after a signing without failure. The signature is over what is sent. -/
structure Signed (r : Request) (c : Credentials) (region : String) (now : Instant)
    (host payload canonical : String) (h h' : Headers) : Prop where
  agree : AgreeOutside written h h'
  host_eq : h'.getAll hostHeader = [Utf8.ofString host]
  date_eq : h'.getAll dateHeader = [Utf8.ofString now.stamp]
  digest_eq : h'.getAll digestHeader = [Utf8.ofString payload]
  token_eq : h'.getAll tokenHeader = c.token.toList.map Utf8.ofString
  authorization_eq : h'.getAll authorizationHeader =
    [Utf8.ofString (authorization c region now (Canonical.names h') canonical)]
  text_eq : Canonical.text r h' payload = .ok canonical

theorem signed_put {r : Request} {c : Credentials} {region : String} {now : Instant}
    {host payload canonical : String} {h k : Headers} (p : Prepared c.token now host payload h k)
    (htext : Canonical.text r k payload = .ok canonical) {names : String}
    (hnames : Canonical.names k = names)
    (hv : Headers.isEntry
      (authorizationHeader, [Utf8.ofString (authorization c region now names canonical)]) = true) :
    Signed r c region now host payload canonical h (k.put authorizationHeader _ hv) := by
  have a := Headers.agreeOutside_put (List.mem_singleton_self authorizationHeader) k _ hv
  have unsigned : ∀ name ∈ [authorizationHeader], Canonical.isSigned name = false := by decide
  refine ⟨fun name hn => ?_, ?_, ?_, ?_, ?_, ?_, ?_⟩
  · simp only [written, List.mem_cons, List.not_mem_nil, or_false, not_or] at hn
    rw [Headers.getAll_put, if_neg (Ne.symm hn.2.2.2.2)]
    exact p.agree name (by simp [hn])
  · rw [← a hostHeader (by decide), p.host_eq]
  · rw [← a dateHeader (by decide), p.date_eq]
  · rw [← a digestHeader (by decide), p.digest_eq]
  · rw [← a tokenHeader (by decide), p.token_eq]
  · rw [Headers.getAll_put, if_pos rfl, Canonical.names, ← Canonical.signedNames_congr a unsigned,
      ← Canonical.names, hnames]
  · rw [← Canonical.text_congr a unsigned, htext]

/-- What an edit does before it writes the authorization: it sets the headers that take part and
makes the canonical request of them, which comes after the digest. -/
def prepare (r : Request) (c : Credentials) (now : Instant) : Edit (String × String) := do
  let payload ← reading (payloadDigest r)
  let host ← reading fun _ => hostOf r.url
  setting hostHeader host
  setting dateHeader now.stamp
  setting digestHeader payload
  setToken c.token
  let canonical ← reading (Canonical.text r · payload)
  return (payload, canonical)

theorem edit_eq_prepare (r : Request) (c : Credentials) (region : String) (now : Instant) :
    edit r c region now = (do
      let prepared ← prepare r c now
      let names ← reading fun h => .ok (Canonical.names h)
      setting authorizationHeader (authorization c region now names prepared.2)) := by
  simp only [edit, prepare, bind_assoc, pure_bind]

theorem prepare_eq_ok {r : Request} {c : Credentials} {now : Instant} {h k : Headers}
    {payload canonical : String} (hp : prepare r c now h = .ok (payload, canonical) k) :
    ∃ host, hostOf r.url = .ok host ∧ payloadDigest r h = .ok payload ∧
      Prepared c.token now host payload h k ∧ Canonical.text r k payload = .ok canonical := by
  obtain ⟨_, k₁, h₁, e₁⟩ := bind_eq_ok hp
  obtain ⟨hpayload, rfl⟩ := reading_eq_ok h₁
  obtain ⟨host, k₂, h₂, e₂⟩ := bind_eq_ok e₁
  obtain ⟨hhost, rfl⟩ := reading_eq_ok h₂
  obtain ⟨_, k₃, h₃, e₃⟩ := bind_eq_ok e₂
  obtain ⟨v₃, rfl⟩ := setting_eq_ok rfl h₃
  obtain ⟨_, k₄, h₄, e₄⟩ := bind_eq_ok e₃
  obtain ⟨v₄, rfl⟩ := setting_eq_ok rfl h₄
  obtain ⟨_, k₅, h₅, e₅⟩ := bind_eq_ok e₄
  obtain ⟨v₅, rfl⟩ := setting_eq_ok rfl h₅
  obtain ⟨_, k₆, h₆, e₆⟩ := bind_eq_ok e₅
  obtain ⟨agree, token⟩ := setToken_eq_ok h₆
  obtain ⟨_, k₇, h₇, e₇⟩ := bind_eq_ok e₆
  obtain ⟨htext, rfl⟩ := reading_eq_ok h₇
  cases e₇
  exact ⟨host, hhost, hpayload, prepared_of_token agree token, htext⟩

theorem edit_eq_ok {r : Request} {c : Credentials} {region : String} {now : Instant}
    {h h' : Headers} {u : Unit} (he : edit r c region now h = .ok u h') :
    ∃ host payload canonical, hostOf r.url = .ok host ∧ payloadDigest r h = .ok payload ∧
      Signed r c region now host payload canonical h h' := by
  rw [edit_eq_prepare] at he
  obtain ⟨⟨payload, canonical⟩, k, h₁, e₁⟩ := bind_eq_ok he
  obtain ⟨host, hhost, hpayload, p, htext⟩ := prepare_eq_ok h₁
  obtain ⟨names, k₂, h₂, e₂⟩ := bind_eq_ok e₁
  obtain ⟨hnames, rfl⟩ := reading_eq_ok h₂
  obtain ⟨hv, rfl⟩ := setting_eq_ok rfl e₂
  exact ⟨host, payload, canonical, hhost, hpayload, signed_put p htext (Except.ok.inj hnames) hv⟩

theorem sign_eq_ok {r : Request} {c : Credentials} {region : String} {now : Instant} {u : Unit}
    (hs : (sign r c region now).2 = .ok u) :
    ∃ h, edit r c region now r.headers = .ok u h ∧
      (sign r c region now).1 = { r with headers := h } := by
  cases he : edit r c region now r.headers with
  | ok v h => exact ⟨h, rfl, by rw [sign, he]⟩
  | error e h =>
    rw [sign, he] at hs
    cases hs

theorem signed_of_sign {r r' : Request} {c : Credentials} {region : String} {now : Instant}
    (hs : sign r c region now = (r', .ok ())) :
    ∃ host payload canonical h, hostOf r.url = .ok host ∧ payloadDigest r r.headers = .ok payload ∧
      r' = { r with headers := h } ∧ Signed r c region now host payload canonical r.headers h := by
  obtain ⟨h, he, hr⟩ := sign_eq_ok (congrArg Prod.snd hs)
  obtain ⟨host, payload, canonical, hhost, hpayload, s⟩ := edit_eq_ok he
  rw [hs] at hr
  exact ⟨host, payload, canonical, h, hhost, hpayload, hr, s⟩

theorem alike_of_sign {r r₁ r₂ : Request} {c : Credentials} {region : String} {now₁ now₂ : Instant}
    (hs₁ : sign r c region now₁ = (r₁, .ok ())) (hs₂ : sign r c region now₂ = (r₂, .ok ())) :
    AgreeOutside [dateHeader, authorizationHeader] r₁.headers r₂.headers := by
  obtain ⟨host₁, payload₁, _, h₁, hhost₁, hpayload₁, rfl, s₁⟩ := signed_of_sign hs₁
  obtain ⟨host₂, payload₂, _, h₂, hhost₂, hpayload₂, rfl, s₂⟩ := signed_of_sign hs₂
  rw [hhost₁] at hhost₂
  cases hhost₂
  rw [hpayload₁] at hpayload₂
  cases hpayload₂
  intro name hn
  simp only [List.mem_cons, List.not_mem_nil, or_false, not_or] at hn
  by_cases hw : name ∈ [hostHeader, digestHeader, tokenHeader]
  · simp only [List.mem_cons, List.not_mem_nil, or_false] at hw
    rcases hw with rfl | rfl | rfl
    · exact s₁.host_eq.trans s₂.host_eq.symm
    · exact s₁.digest_eq.trans s₂.digest_eq.symm
    · exact s₁.token_eq.trans s₂.token_eq.symm
  · simp only [List.mem_cons, List.not_mem_nil, or_false, not_or] at hw
    have out : name ∉ written := by simp [written, hn, hw]
    exact (s₁.agree name out).symm.trans (s₂.agree name out)

end ObjectStorage.V4
