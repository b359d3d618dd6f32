import ObjectStorage.Proofs.Signature.Edit

/-!
# When signing succeeds

Signing fails only on what a header cannot carry or a signature cannot cover. `sign_ok_iff`: it
succeeds exactly when the request has a host, and the host, the token and the headers that take part
are text, and the key and the region can stand in a header. The time does not matter.
-/
namespace ObjectStorage

namespace Headers

theorem isValue_append (a b : Bytes) : isValue (a ++ b) = (isValue a && isValue b) :=
  List.all_append

def Carries (t : String) : Prop := isValue (Utf8.ofString t) = true

theorem carries_append {s t : String} : Carries (s ++ t) ↔ Carries s ∧ Carries t := by
  rw [Carries, Utf8.ofString, String.toList_append, Utf8.encode_append, isValue_append,
    Bool.and_eq_true]
  rfl

def IsText (value : Bytes) : Prop := ∃ t, textOf? value = some t

def areText (h : Headers) : Bool := h.entries.all fun e => e.2.all fun v => (textOf? v).isSome

theorem isText_of_areText {h : Headers} (ht : h.areText = true) (name : String) :
    ∀ v ∈ h.getAll name, IsText v := by
  intro v hv
  rw [getAll] at hv
  split at hv
  · next e he =>
    have hm := List.all_eq_true.1 (List.all_eq_true.1 ht e (List.mem_of_find?_eq_some he)) v hv
    exact Option.isSome_iff_exists.1 hm
  · cases hv

theorem IsText.carries {t : String} (h : IsText (Utf8.ofString t)) : Carries t := by
  obtain ⟨_, ht⟩ := h
  exact isValue_of_textOf? ht

end Headers

namespace V4

open Headers (Carries IsText)

/-- Visible characters of one byte, with which no header finds fault. -/
def Plain (t : String) : Prop := ∀ c ∈ t.toList, 0x20 ≤ c.toNat ∧ c.toNat < 0x7F

instance (t : String) : Decidable (Plain t) := List.decidableBAll _ _

theorem Plain.isText {t : String} (h : Plain t) : IsText (Utf8.ofString t) :=
  ⟨t, Headers.textOf?_of_visible h⟩

theorem Plain.carries {t : String} (h : Plain t) : Carries t := h.isText.carries

theorem visible_of_isDigit {c : Char} (h : c.isDigit = true) : 0x20 ≤ c.toNat ∧ c.toNat < 0x7F := by
  simp only [Char.isDigit, Bool.and_eq_true, decide_eq_true_eq, ge_iff_le,
    UInt32.le_iff_toNat_le] at h
  simp at h
  omega

theorem padded_visible {width n : Nat} {c : Char} (hc : c ∈ Decimal.padded width n) :
    0x20 ≤ c.toNat ∧ c.toNat < 0x7F := by
  rw [Decimal.padded, List.mem_append] at hc
  rcases hc with hc | hc
  · rw [List.eq_of_mem_replicate hc]
    decide
  · exact visible_of_isDigit (Decimal.isDigit_of_mem_chars hc)

theorem plain_toString (n : Nat) : Plain (toString n) := by
  intro c hc
  rw [Nat.toString_eq_ofList_toDigits, String.toList_ofList] at hc
  exact visible_of_isDigit (Decimal.isDigit_of_mem_chars hc)

theorem yearChars_visible {y : Int} {c : Char} (hc : c ∈ Instant.yearChars y) :
    0x20 ≤ c.toNat ∧ c.toNat < 0x7F := by
  rw [Instant.yearChars] at hc
  split at hc
  · exact padded_visible hc
  · rcases List.mem_cons.1 hc with rfl | hc
    · split <;> decide
    · exact padded_visible hc

theorem stampChars_visible {now : Instant} {c : Char} (hc : c ∈ now.stampChars) :
    0x20 ≤ c.toNat ∧ c.toNat < 0x7F := by
  simp only [Instant.stampChars, List.mem_append, List.mem_cons, List.not_mem_nil, or_false,
    or_assoc] at hc
  rcases hc with hc | hc | hc | rfl | hc | hc | hc | rfl
  · exact yearChars_visible hc
  · exact padded_visible hc
  · exact padded_visible hc
  · decide
  · exact padded_visible hc
  · exact padded_visible hc
  · exact padded_visible hc
  · decide

theorem plain_stamp (now : Instant) : Plain now.stamp := by
  intro c hc
  rw [Instant.stamp, String.toList_ofList] at hc
  exact stampChars_visible hc

theorem plain_dateOf (now : Instant) : Plain (dateOf now) := by
  intro c hc
  rw [dateOf, String.toList_ofList] at hc
  exact stampChars_visible (List.mem_of_mem_take hc)

theorem plain_of_isName {name : String} (h : Headers.isName name = true) : Plain name := by
  simp only [Headers.isName, Bool.and_eq_true, List.all_eq_true] at h
  intro c hc
  exact Headers.forall_isNameChar (p := fun c => 0x20 ≤ c.toNat ∧ c.toNat < 0x7F) (by decide)
    (h.2 c hc)

theorem plain_names (h : Headers) : Plain (Canonical.names h) :=
  Canonical.forall_mem_intercalate (by decide) fun _ hn =>
    plain_of_isName (Headers.isName_of_mem_names (Canonical.mem_signedNames.1 hn).1)

theorem carries_scope (region : String) (now : Instant) :
    Carries (scope region now) ↔ Carries region := by
  have hd : Carries (dateOf now) := (plain_dateOf now).carries
  have slash : Carries "/" := Plain.carries (by decide)
  have service : Carries service := Plain.carries (by decide)
  have request : Carries "/request" := Plain.carries (by decide)
  simp only [scope, Headers.carries_append, hd, slash, service, request, true_and, and_true]

/-- Only the key and the region can keep an authorization from being written. -/
theorem carries_authorization (c : Credentials) (region : String) (now : Instant) (h : Headers)
    (canonical : String) :
    Carries (authorization c region now (Canonical.names h) canonical) ↔
      Carries c.accessKey ∧ Carries region := by
  have front : Carries algorithm ∧ Carries " Credential=" :=
    ⟨Plain.carries (by decide), Plain.carries (by decide)⟩
  have slash : Carries "/" := Plain.carries (by decide)
  have middle : Carries ", SignedHeaders=" ∧ Carries ", Signature=" :=
    ⟨Plain.carries (by decide), Plain.carries (by decide)⟩
  have hn : Carries (Canonical.names h) := (plain_names h).carries
  have hs : Carries (signature c.secretKey region now canonical) :=
    Plain.carries fun _ hc => Bytes.hex_visible hc
  simp only [authorization, Headers.carries_append, carries_scope, front, slash, middle, hn, hs,
    true_and, and_true]

theorem setting_ok {name value : String} (hn : Headers.isName name = true)
    (hl : Headers.lower name = name) (hv : Carries value) (h : Headers) :
    ∃ hv, setting name value h = .ok () (h.put name [Utf8.ofString value] hv) := by
  rcases setting_cases hl value with ⟨he, hs⟩ | ⟨e, hs⟩
  · exact ⟨he, hs h⟩
  · have hc := hs h
    rw [setting, Headers.set, dif_pos hn, dif_pos (show Headers.isValue _ = true from hv)] at hc
    cases hc

theorem carries_of_isEntry {name value : String}
    (h : Headers.isEntry (name, [Utf8.ofString value]) = true) : Carries value := by
  simp only [Headers.isEntry, Bool.and_eq_true, List.all_cons] at h
  exact h.2.1

theorem setToken_ok {token : Option String} (ht : ∀ t, token = some t → Carries t) (h : Headers) :
    ∃ k, setToken token h = .ok () k := by
  cases token with
  | some t =>
    have hn : Headers.isName tokenHeader = true := by decide
    obtain ⟨he, hs⟩ := setting_ok hn rfl (ht t rfl) h
    exact ⟨_, hs⟩
  | none => exact ⟨_, rfl⟩

end V4

namespace Canonical

open Headers (IsText)

theorem exists_valueText_ok_iff {value : Bytes} :
    (∃ t, valueText value = .ok t) ↔ IsText value := by
  rw [valueText]
  cases ht : Headers.textOf? value with
  | some t => exact ⟨fun _ => ⟨t, ht⟩, fun _ => ⟨_, rfl⟩⟩
  | none =>
    constructor
    · rintro ⟨_, h⟩
      cases h
    · rintro ⟨_, h⟩
      rw [ht] at h
      cases h

theorem exists_line_ok_iff {h : Headers} {name : String} :
    (∃ l, line h name = .ok l) ↔ ∀ v ∈ h.getAll name, IsText v := by
  simp only [← exists_valueText_ok_iff]
  rw [← exists_mapM_ok_iff]
  constructor
  · rintro ⟨l, hl⟩
    obtain ⟨vs, hvs, -⟩ := bind_eq_ok hl
    exact ⟨vs, hvs⟩
  · rintro ⟨vs, hvs⟩
    rw [line, hvs]
    exact ⟨_, rfl⟩

/-- There is a canonical request if and only if the values in it are text. -/
theorem exists_text_ok_iff {r : Request} {h : Headers} {payload : String} :
    (∃ t, text r h payload = .ok t) ↔
      ∀ name, isSigned name = true → ∀ v ∈ h.getAll name, IsText v := by
  have hlines : (∃ t, text r h payload = .ok t) ↔ ∃ ls, (signedNames h).mapM (line h) = .ok ls := by
    constructor
    · rintro ⟨t, ht⟩
      obtain ⟨_, hlines, -⟩ := bind_eq_ok ht
      obtain ⟨ls, hls, -⟩ := bind_eq_ok hlines
      exact ⟨ls, hls⟩
    · rintro ⟨ls, hls⟩
      rw [text, lines, hls]
      exact ⟨_, rfl⟩
  rw [hlines, exists_mapM_ok_iff]
  simp only [exists_line_ok_iff, mem_signedNames]
  constructor
  · intro hv name hs v hm
    have hn : name ∈ h.names := (Headers.mem_names_iff h name).2 (List.ne_nil_of_mem hm)
    exact hv name ⟨hn, hs⟩ v hm
  · intro hv name hn
    exact hv name hn.2

end Canonical

namespace V4

open Headers (Carries IsText)

structure Preparable (r : Request) (token : Option String) : Prop where
  digest : ∃ payload, payloadDigest r r.headers = .ok payload
  host : ∃ host, hostOf r.url = .ok host ∧ IsText (Utf8.ofString host)
  token : ∀ t, token = some t → IsText (Utf8.ofString t)
  values : ∀ name ∉ [hostHeader, dateHeader, digestHeader, tokenHeader],
    Canonical.isSigned name = true → ∀ v ∈ r.headers.getAll name, IsText v

variable {r : Request} {c : Credentials} {region : String}

theorem Prepared.isText {token : Option String} {now : Instant} {host payload : String}
    {h k : Headers} (p : Prepared token now host payload h k) (hhost : IsText (Utf8.ofString host))
    (hpayload : IsText (Utf8.ofString payload)) (ht : ∀ t, token = some t → IsText (Utf8.ofString t))
    (hv : ∀ name ∉ [hostHeader, dateHeader, digestHeader, tokenHeader],
      Canonical.isSigned name = true → ∀ v ∈ h.getAll name, IsText v) :
    ∀ name, Canonical.isSigned name = true → ∀ v ∈ k.getAll name, IsText v := by
  intro name hs v hm
  by_cases hn : name ∈ [hostHeader, dateHeader, digestHeader, tokenHeader]
  · simp only [List.mem_cons, List.not_mem_nil, or_false] at hn
    rcases hn with rfl | rfl | rfl | rfl
    · rw [p.host_eq, List.mem_singleton] at hm
      exact hm ▸ hhost
    · rw [p.date_eq, List.mem_singleton] at hm
      exact hm ▸ (plain_stamp now).isText
    · rw [p.digest_eq, List.mem_singleton] at hm
      exact hm ▸ hpayload
    · rw [p.token_eq, List.mem_map] at hm
      obtain ⟨t, hmem, rfl⟩ := hm
      exact ht t (Option.mem_toList.1 hmem)
  · rw [← p.agree name hn] at hm
    exact hv name hn hs v hm

theorem Preparable.prepare_ok (p : Preparable r c.token) (now : Instant) :
    ∃ payload canonical k, prepare r c now r.headers = .ok (payload, canonical) k := by
  obtain ⟨payload, hp⟩ := p.digest
  obtain ⟨host, hhost, ht⟩ := p.host
  have hpt := textOf?_payloadDigest hp
  have h₁ : reading (payloadDigest r) r.headers = .ok payload r.headers := by rw [reading, hp]
  have h₂ : reading (fun _ => hostOf r.url) r.headers = .ok host r.headers := by
    rw [reading, hhost]
  obtain ⟨v₃, h₃⟩ := setting_ok (by decide : Headers.isName hostHeader = true) rfl ht.carries
    r.headers
  obtain ⟨v₄, h₄⟩ := setting_ok (by decide : Headers.isName dateHeader = true) rfl
    (plain_stamp now).carries (r.headers.put hostHeader _ v₃)
  obtain ⟨v₅, h₅⟩ := setting_ok (by decide : Headers.isName digestHeader = true) rfl
    (Headers.isValue_of_textOf? hpt) ((r.headers.put hostHeader _ v₃).put dateHeader _ v₄)
  obtain ⟨k, h₆⟩ := setToken_ok (fun t h => (p.token t h).carries)
    (((r.headers.put hostHeader _ v₃).put dateHeader _ v₄).put digestHeader _ v₅)
  obtain ⟨agree, token⟩ := setToken_eq_ok h₆
  have prepared := (prepared_of_token agree token).isText ht ⟨_, hpt⟩ p.token p.values
  have text : ∃ canonical, Canonical.text r k payload = .ok canonical :=
    Canonical.exists_text_ok_iff.2 prepared
  obtain ⟨canonical, hc⟩ := text
  have h₇ : reading (Canonical.text r · payload) k = .ok canonical k := by rw [reading, hc]
  refine ⟨payload, canonical, k, ?_⟩
  rw [prepare, bind_ok h₁, bind_ok h₂, bind_ok h₃, bind_ok h₄, bind_ok h₅, bind_ok h₆, bind_ok h₇]
  rfl

theorem preparable_of_ok {now : Instant} {payload canonical : String} {k : Headers}
    (hp : prepare r c now r.headers = .ok (payload, canonical) k) : Preparable r c.token := by
  obtain ⟨host, hhost, hpayload, p, htext⟩ := prepare_eq_ok hp
  have hv := Canonical.exists_text_ok_iff.1 ⟨canonical, htext⟩
  refine ⟨⟨payload, hpayload⟩, ⟨host, hhost, ?_⟩, fun t ht => ?_, fun name hn hs v hm => ?_⟩
  · refine hv hostHeader (by decide) _ ?_
    rw [p.host_eq]
    exact List.mem_singleton_self _
  · refine hv tokenHeader (by decide) _ ?_
    rw [p.token_eq, ht]
    exact List.mem_singleton_self _
  · rw [p.agree name hn] at hm
    exact hv name hs v hm

structure Signable (r : Request) (c : Credentials) (region : String) : Prop
    extends Preparable r c.token where
  key : Carries c.accessKey
  region : Carries region

/-- Signing succeeds on a signable request at any time, and on no other request. -/
theorem sign_ok_iff (now : Instant) :
    (∃ r', sign r c region now = (r', .ok ())) ↔ Signable r c region := by
  constructor
  · rintro ⟨r', hs⟩
    obtain ⟨h, he, -⟩ := sign_eq_ok (congrArg Prod.snd hs)
    rw [edit_eq_prepare] at he
    obtain ⟨⟨payload, canonical⟩, k, h₁, e₁⟩ := bind_eq_ok he
    obtain ⟨names, k₂, h₂, e₂⟩ := bind_eq_ok e₁
    obtain ⟨hnames, rfl⟩ := reading_eq_ok h₂
    cases hnames
    obtain ⟨hv, -⟩ := setting_eq_ok rfl e₂
    obtain ⟨key, region⟩ := (carries_authorization c region now k₂ canonical).1
      (carries_of_isEntry hv)
    exact ⟨preparable_of_ok h₁, key, region⟩
  · intro s
    obtain ⟨payload, canonical, k, hp⟩ := s.prepare_ok now
    have hn : reading (fun h => .ok (Canonical.names h)) k = .ok (Canonical.names k) k := rfl
    obtain ⟨v, hs⟩ := setting_ok (by decide : Headers.isName authorizationHeader = true) rfl
      ((carries_authorization c region now k canonical).2 ⟨s.key, s.region⟩) k
    have he : edit r c region now r.headers = .ok () (k.put authorizationHeader _ v) := by
      rw [edit_eq_prepare, bind_ok hp, bind_ok hn, hs]
    rw [sign, he]
    exact ⟨_, rfl⟩

theorem preparable_of_plain {host : String} {token : Option String} (hhost : hostOf r.url = .ok host)
    (plain_host : Plain host) (plain_token : ∀ t, token = some t → Plain t)
    (hv : ∀ name, Canonical.isSigned name = true → ∀ v ∈ r.headers.getAll name, IsText v) :
    Preparable r token := by
  refine ⟨?_, ⟨host, hhost, plain_host.isText⟩, fun t ht => (plain_token t ht).isText,
    fun name _ hs => hv name hs⟩
  rw [payloadDigest, Headers.get?]
  cases hg : r.headers.getAll digestHeader with
  | nil => exact ⟨_, rfl⟩
  | cons v vs =>
    obtain ⟨t, ht⟩ := hv digestHeader (by decide) v (by rw [hg]; exact List.mem_cons_self)
    exact ⟨t, by simp only [List.head?_cons, ht]⟩

theorem sign_succeeds {host : String} (hhost : hostOf r.url = .ok host) (plain_host : Plain host)
    (plain_key : Plain c.accessKey) (plain_token : ∀ t, c.token = some t → Plain t)
    (plain_region : Plain region)
    (hv : ∀ name, Canonical.isSigned name = true → ∀ v ∈ r.headers.getAll name, IsText v)
    (now : Instant) : ∃ r', sign r c region now = (r', .ok ()) := by
  apply (sign_ok_iff now).2
  exact ⟨preparable_of_plain hhost plain_host plain_token hv, plain_key.carries,
    plain_region.carries⟩

end V4

end ObjectStorage
