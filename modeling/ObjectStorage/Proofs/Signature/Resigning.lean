import ObjectStorage.Proofs.Signature.Edit

/-!
# Signing again

A request may be signed before it is signed for good, as often as it is sent, with other
credentials and at other times, and each of these signings may stop half-way. None of them leaves a
trace: what one signing may alter is what every signing writes anew, apart from the digest of the
body, which it finds again as it would have made it.
-/
namespace ObjectStorage.V4

open Headers (AgreeOutside Same)

/-- On headers that `R` relates an edit comes to the same value, on headers that `Q` relates, or
stops with the same error. -/
def Respects {α : Type} (R Q : Headers → Headers → Prop) (x : Edit α) : Prop :=
  ∀ h k, R h k →
    (∃ a h' k', x h = .ok a h' ∧ x k = .ok a k' ∧ Q h' k') ∨
      ∃ e h' k', x h = .error e h' ∧ x k = .error e k'

variable {α β : Type} {R P Q : Headers → Headers → Prop}

theorem Respects.bind {x : Edit α} {f : α → Edit β} (hx : Respects R P x)
    (hf : ∀ a, Respects P Q (f a)) : Respects R Q (x >>= f) := by
  intro h k hr
  rcases hx h k hr with ⟨a, h', k', hh, hk, hp⟩ | ⟨e, h', k', hh, hk⟩
  · rw [bind_ok hh, bind_ok hk]
    exact hf a h' k' hp
  · exact Or.inr ⟨e, h', k', bind_error hh, bind_error hk⟩

theorem Respects.of_imp {x : Edit α} (hx : Respects P Q x) (hr : ∀ h k, R h k → P h k) :
    Respects R Q x :=
  fun h k a => hx h k (hr h k a)

theorem respects_reading {f : Headers → Except Error α} (hf : ∀ h k, R h k → f h = f k) :
    Respects R R (reading f) := by
  intro h k hr
  simp only [reading, hf h k hr]
  cases f k with
  | ok a => exact Or.inl ⟨a, h, k, rfl, rfl, hr⟩
  | error e => exact Or.inr ⟨e, h, k, rfl, rfl⟩

theorem respects_setting_of {name : String} (hl : Headers.lower name = name) {value : String}
    (put : ∀ h k hv, R h k →
      Q (h.put name [Utf8.ofString value] hv) (k.put name [Utf8.ofString value] hv)) :
    Respects R Q (setting name value) := by
  intro h k hr
  rcases setting_cases hl value with ⟨hv, hs⟩ | ⟨e, hs⟩
  · exact Or.inl ⟨(), _, _, hs h, hs k, put h k hv hr⟩
  · exact Or.inr ⟨e, h, k, hs h, hs k⟩

theorem respects_setToken_of {token : Option String}
    (put : ∀ h k values hv, R h k →
      Q (h.put tokenHeader values hv) (k.put tokenHeader values hv))
    (erase : ∀ h k, R h k → Q (h.erase tokenHeader) (k.erase tokenHeader)) :
    Respects R Q (setToken token) := by
  cases token with
  | some t => exact respects_setting_of rfl fun h k hv => put h k _ hv
  | none =>
    intro h k hr
    exact Or.inl ⟨(), _, _, rfl, rfl, erase h k hr⟩

theorem respects_setting {name : String} (hl : Headers.lower name = name) (ns : List String)
    (value : String) :
    Respects (AgreeOutside (name :: ns)) (AgreeOutside ns) (setting name value) :=
  respects_setting_of hl fun _ _ hv a => a.put _ hv

theorem respects_setToken (ns : List String) (token : Option String) :
    Respects (AgreeOutside (tokenHeader :: ns)) (AgreeOutside ns) (setToken token) :=
  respects_setToken_of (fun _ _ _ hv a => a.put _ hv) fun _ _ a => a.erase

structure Alike (r : Request) (h k : Headers) : Prop where
  agree : AgreeOutside written h k
  payload : payloadDigest r h = payloadDigest r k

theorem respects_edit (r : Request) (c : Credentials) (region : String) (now : Instant) :
    Respects (Alike r) (AgreeOutside []) (edit r c region now) := by
  refine (respects_reading fun h k a => a.payload).bind fun payload => ?_
  refine (respects_reading fun _ _ _ => rfl).bind fun host => ?_
  refine Respects.of_imp (P := AgreeOutside written) ?_ fun h k a => a.agree
  refine (respects_setting rfl _ host).bind fun _ => ?_
  refine (respects_setting rfl _ now.stamp).bind fun _ => ?_
  refine (respects_setting rfl _ payload).bind fun _ => ?_
  refine (respects_setToken _ c.token).bind fun _ => ?_
  -- What may still differ is the old authorization, which takes no part.
  have unsigned : ∀ name ∈ [authorizationHeader], Canonical.isSigned name = false := by decide
  have texts : ∀ h k, AgreeOutside [authorizationHeader] h k →
      Canonical.text r h payload = Canonical.text r k payload :=
    fun h k a => Canonical.text_congr a unsigned r payload
  have names : ∀ h k, AgreeOutside [authorizationHeader] h k →
      Canonical.names h = Canonical.names k :=
    fun h k a => by rw [Canonical.names, Canonical.names, Canonical.signedNames_congr a unsigned]
  refine (respects_reading texts).bind fun canonical => ?_
  refine (respects_reading fun h k a => congrArg Except.ok (names h k a)).bind fun signed => ?_
  exact respects_setting rfl _ _

/-- The payload digest that an edit starts from is the one that it leaves. -/
def Keeps (I : Headers → Prop) {α : Type} (x : Edit α) : Prop :=
  ∀ h, I h → (∃ a h', x h = .ok a h' ∧ I h') ∨ ∃ e h', x h = .error e h' ∧ I h'

theorem Keeps.bind {I : Headers → Prop} {x : Edit α} {f : α → Edit β} (hx : Keeps I x)
    (hf : ∀ a, Keeps I (f a)) : Keeps I (x >>= f) := by
  intro h hi
  rcases hx h hi with ⟨a, h', hh, hi'⟩ | ⟨e, h', hh, hi'⟩
  · rw [bind_ok hh]
    exact hf a h' hi'
  · exact Or.inr ⟨e, h', bind_error hh, hi'⟩

theorem keeps_reading {I : Headers → Prop} (f : Headers → Except Error α) :
    Keeps I (reading f) := by
  intro h hi
  simp only [reading]
  cases f h with
  | ok a => exact Or.inl ⟨a, h, rfl, hi⟩
  | error e => exact Or.inr ⟨e, h, rfl, hi⟩

theorem keeps_setting {I : Headers → Prop} {name : String} (hl : Headers.lower name = name)
    {value : String} (hi : ∀ h hv, I h → I (h.put name [Utf8.ofString value] hv)) :
    Keeps I (setting name value) := by
  intro h hh
  rcases setting_cases hl value with ⟨hv, hs⟩ | ⟨e, hs⟩
  · exact Or.inl ⟨(), _, hs h, hi h hv hh⟩
  · exact Or.inr ⟨e, h, hs h, hh⟩

theorem Alike.put {r : Request} {h₀ h : Headers} (a : Alike r h₀ h) {name : String}
    (hw : name ∈ written) (hd : name ≠ digestHeader) {values : List Bytes}
    (hv : Headers.isEntry (name, values) = true) : Alike r h₀ (h.put name values hv) := by
  refine ⟨a.agree.trans (Headers.agreeOutside_put hw h values hv), a.payload.trans ?_⟩
  refine payloadDigest_congr r ?_
  rw [Headers.getAll_put, if_neg hd]

theorem Alike.erase {r : Request} {h₀ h : Headers} (a : Alike r h₀ h) {name : String}
    (hw : name ∈ written) (hd : name ≠ digestHeader) : Alike r h₀ (h.erase name) := by
  refine ⟨a.agree.trans (Headers.agreeOutside_erase hw h), a.payload.trans ?_⟩
  refine payloadDigest_congr r ?_
  rw [Headers.getAll_erase, if_neg hd]

theorem keeps_setToken_of {I : Headers → Prop} {token : Option String}
    (put : ∀ h values hv, I h → I (h.put tokenHeader values hv))
    (erase : ∀ h, I h → I (h.erase tokenHeader)) : Keeps I (setToken token) := by
  cases token with
  | some t => exact keeps_setting rfl fun h hv => put h _ hv
  | none =>
    intro h hi
    exact Or.inl ⟨(), _, rfl, erase h hi⟩

theorem keeps_setToken (r : Request) (h₀ : Headers) (token : Option String) :
    Keeps (Alike r h₀) (setToken token) :=
  keeps_setToken_of (fun _ _ hv a => a.put (by decide) (by decide) hv)
    fun _ a => a.erase (by decide) (by decide)

/-- A signing that starts from headers like `h₀` leaves headers like `h₀`, wherever it stops. -/
theorem keeps_edit (r : Request) (h₀ : Headers) (c : Credentials) (region : String)
    (now : Instant) : Keeps (Alike r h₀) (edit r c region now) := by
  intro h a
  cases hp : payloadDigest r h with
  | error e =>
    have hr : reading (payloadDigest r) h = .error e h := by rw [reading, hp]
    exact Or.inr ⟨e, h, bind_error hr, a⟩
  | ok payload =>
    have hr : reading (payloadDigest r) h = .ok payload h := by rw [reading, hp]
    have ht := textOf?_payloadDigest hp
    have hdigest : Keeps (Alike r h₀) (setting digestHeader payload) := by
      refine keeps_setting rfl fun k hv b => ?_
      have hw : digestHeader ∈ written := by decide
      refine ⟨b.agree.trans (Headers.agreeOutside_put hw k _ hv), ?_⟩
      rw [a.payload, hp, payloadDigest_put ht hv]
    rw [edit, bind_ok hr]
    refine Keeps.bind (keeps_reading _) (fun host => ?_) h a
    refine (keeps_setting rfl fun h hv a => a.put (by decide) (by decide) hv).bind fun _ => ?_
    refine (keeps_setting rfl fun h hv a => a.put (by decide) (by decide) hv).bind fun _ => ?_
    refine hdigest.bind fun _ => ?_
    refine (keeps_setToken r h₀ c.token).bind fun _ => ?_
    refine (keeps_reading _).bind fun canonical => ?_
    refine (keeps_reading _).bind fun signed => ?_
    exact keeps_setting rfl fun h hv a => a.put (by decide) (by decide) hv

structure Occasion where
  credentials : Credentials
  region : String
  now : Instant

/-- The request after signing it on each of the occasions, whatever came of them. -/
def signAll (r : Request) (occasions : List Occasion) : Request :=
  occasions.foldl (fun r o => (sign r o.credentials o.region o.now).1) r

theorem sign_fst (r : Request) (c : Credentials) (region : String) (now : Instant) :
    ∃ h, (sign r c region now).1 = { r with headers := h } ∧ Alike r r.headers h := by
  have a : Alike r r.headers r.headers := ⟨Headers.AgreeOutside.refl _ _, rfl⟩
  rcases keeps_edit r r.headers c region now r.headers a with ⟨u, h, he, ha⟩ | ⟨e, h, he, ha⟩
  · exact ⟨h, by rw [sign, he], ha⟩
  · exact ⟨h, by rw [sign, he], ha⟩

theorem Alike.trans {r : Request} {h k l : Headers} (a : Alike r h k) (b : Alike r k l) :
    Alike r h l :=
  ⟨a.agree.trans b.agree, a.payload.trans b.payload⟩

theorem signAll_eq (r : Request) (occasions : List Occasion) :
    ∃ h, signAll r occasions = { r with headers := h } ∧ Alike r r.headers h := by
  induction occasions generalizing r with
  | nil => exact ⟨r.headers, rfl, Headers.AgreeOutside.refl _ _, rfl⟩
  | cons o os ih =>
    obtain ⟨k, hk, a⟩ := sign_fst r o.credentials o.region o.now
    obtain ⟨h, hh, b⟩ := ih { r with headers := k }
    refine ⟨h, ?_, a.trans ⟨b.agree, b.payload⟩⟩
    rw [signAll, List.foldl_cons, hk]
    exact hh

/-- The same request, up to the order in which the names of headers came. -/
structure SameRequest (r s : Request) : Prop where
  method_eq : r.method = s.method
  url_eq : r.url = s.url
  headers_same : Same r.headers s.headers
  body_eq : r.body = s.body

def SameOutcome (x y : Request × Except Error Unit) : Prop :=
  x.2 = y.2 ∧ (y.2 = .ok () → SameRequest x.1 y.1)

theorem sign_of_alike {r : Request} {h : Headers} (a : Alike r r.headers h) (c : Credentials)
    (region : String) (now : Instant) :
    SameOutcome (sign { r with headers := h } c region now) (sign r c region now) := by
  have he : edit { r with headers := h } c region now = edit r c region now := rfl
  rcases respects_edit r c region now r.headers h a with ⟨u, k, l, hk, hl, s⟩ | ⟨e, k, l, hk, hl⟩
  · rw [sign, sign, he, hk]
    simp only [hl]
    exact ⟨rfl, fun _ => ⟨rfl, rfl, s.symm.same, rfl⟩⟩
  · rw [sign, sign, he, hk]
    simp only [hl]
    exact ⟨rfl, fun h => by cases h⟩

theorem token_absent {r : Request} {c : Credentials} {region : String} {now : Instant}
    (hc : c.token = none) (hs : (sign r c region now).2 = .ok ()) :
    (sign r c region now).1.headers.getAll tokenHeader = [] := by
  obtain ⟨h, he, hr⟩ := sign_eq_ok hs
  obtain ⟨host, payload, canonical, -, -, s⟩ := edit_eq_ok he
  rw [hr, s.token_eq, hc]
  rfl

/-- Earlier signings leave no trace: the last one ends as if it were the first, with the same error
or the same request. Signing twice is signing once, no security token is left over, and neither an
older date nor an older authorization makes a difference. -/
theorem sign_leaves_no_trace (r : Request) (occasions : List Occasion) (c : Credentials)
    (region : String) (now : Instant) :
    SameOutcome (sign (signAll r occasions) c region now) (sign r c region now) ∧
      SameOutcome (sign (sign r c region now).1 c region now) (sign r c region now) ∧
      (c.token = none → (sign r c region now).2 = .ok () →
        (sign (signAll r occasions) c region now).1.headers.getAll tokenHeader = []) ∧
      ∀ h, AgreeOutside [dateHeader, authorizationHeader] r.headers h →
        SameOutcome (sign { r with headers := h } c region now) (sign r c region now) := by
  have all : SameOutcome (sign (signAll r occasions) c region now) (sign r c region now) := by
    obtain ⟨h, hh, a⟩ := signAll_eq r occasions
    rw [hh]
    exact sign_of_alike a c region now
  refine ⟨all, ?_, ?_, ?_⟩
  · obtain ⟨h, hh, a⟩ := sign_fst r c region now
    have twice := sign_of_alike a c region now
    rwa [← hh] at twice
  · intro hc hs
    exact token_absent hc (all.1.trans hs)
  · intro h agree
    refine sign_of_alike ⟨fun name hn => agree name ?_, ?_⟩ c region now
    · simp only [written, List.mem_cons, List.not_mem_nil, or_false, not_or] at hn ⊢
      exact ⟨hn.2.1, hn.2.2.2.2⟩
    · exact payloadDigest_congr r (agree digestHeader (by decide))

end ObjectStorage.V4
