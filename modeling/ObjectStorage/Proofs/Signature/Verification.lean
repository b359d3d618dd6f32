import ObjectStorage.Proofs.Signature.Receiver

/-!
# Verifying a signature

The signer and the receiver come to the same canonical request, key and signature, each in its own
way. So the receiver accepts what was signed: `sign_verifies`.
-/
namespace ObjectStorage

theorem Bytes.hex_eq (b : Bytes) : hex b = Receiver.hex b := by
  have digit : ∀ n < 16, hexDigit n = Nat.digitChar n := by decide
  apply String.toList_inj.1
  rw [hex, Receiver.hex, String.toList_ofList, String.toList_ofList]
  induction b with
  | nil => rfl
  | cons a b ih =>
    have small : a.toNat < 256 := a.toNat_lt
    rw [hexChars, List.flatMap_cons, digit _ (by omega), digit _ (by omega), ih]
    rfl

theorem Blank.isBlank_of_isShown {c : Char} (h : Headers.IsShown c) :
    isBlank c = Receiver.isGap c := by
  have visible : ∀ n < 0x7F, 0x20 ≤ n →
      isBlank (Char.ofNat n) = Receiver.isGap (Char.ofNat n) := by
    decide
  rcases h with rfl | ⟨low, high⟩
  · rfl
  · simpa using visible c.toNat high low

namespace Canonical

theorem dropWhile_congr {α : Type} {p q : α → Bool} {s : List α} (h : ∀ a ∈ s, p a = q a) :
    s.dropWhile p = s.dropWhile q := by
  induction s with
  | nil => rfl
  | cons a s ih =>
    rw [List.dropWhile_cons, List.dropWhile_cons, h a List.mem_cons_self,
      ih fun b hb => h b (List.mem_cons_of_mem a hb)]

theorem bare_of_valueText {value : Bytes} {t : String} (ht : valueText value = .ok t) :
    t = Receiver.bare value := by
  rw [valueText] at ht
  split at ht
  · next s hs =>
    cases ht
    -- the only blanks of a value that can be shown are spaces and tabs
    have blanks : ∀ c ∈ s.toList, Blank.isBlank c = Receiver.isGap c :=
      fun c hc => Blank.isBlank_of_isShown (Headers.shown_of_textOf? hs c hc)
    rw [Receiver.bare, ← Headers.ofString_of_textOf? hs, Utf8.toStringLossy_ofString, Blank.trim,
      Blank.trimChars, Blank.trimBy, List.rdropWhile, dropWhile_congr blanks]
    refine congrArg String.ofList (congrArg List.reverse (dropWhile_congr fun c hc => ?_))
    exact blanks c ((List.dropWhile_sublist _).mem (List.mem_reverse.1 hc))
  · cases ht

theorem lineOf_of_line {h : Headers} {name l : String} (hl : line h name = .ok l) :
    l = Receiver.lineOf h name := by
  obtain ⟨values, hv, rfl⟩ := line_eq_ok hl
  rw [eq_map_of_mapM hv fun _ _ => bare_of_valueText, Receiver.lineOf]

theorem pathOf_eq (u : Url) : Receiver.pathOf u = String.ofList (pathChars u) := by
  rw [Receiver.pathOf, pathChars]
  by_cases empty : u.pathChars = []
  · rw [if_pos empty, if_pos (List.isEmpty_iff.2 empty)]
  · rw [if_neg empty, if_neg (mt List.isEmpty_iff.1 empty)]

theorem isCanonical_of_text {r : Request} {h : Headers} {payload t : String}
    (ht : text r h payload = .ok t) :
    Receiver.IsCanonical { r with headers := h } (signedNames h) payload t := by
  obtain ⟨_, hlines, ht⟩ := bind_eq_ok ht
  obtain ⟨ls, hls, hlines⟩ := bind_eq_ok hlines
  cases hlines
  cases ht
  refine ⟨_, joinsSorted_queryChars r.url.pairs, ?_⟩
  rw [eq_map_of_mapM hls fun _ _ => lineOf_of_line, pathOf_eq, names]
  apply String.toList_inj.1
  simp [String.toList_intercalate]

end Canonical

namespace V4

open Headers (AgreeOutside)

variable {r : Request} {c : Credentials} {region : String} {now : Instant}

theorem dateOf_eq (now : Instant) : dateOf now = Receiver.dateOf now.stamp := by
  rw [Receiver.dateOf, Instant.stamp, String.toList_ofList, dateOf]

theorem scope_eq (region : String) (now : Instant) :
    scope region now = Receiver.scopeOf region now.stamp := by
  have service : "/" ++ (service ++ "/request") = "/tos/request" := by decide
  rw [Receiver.scopeOf, ← service, ← dateOf_eq, scope]
  simp only [String.append_assoc]

theorem signature_eq (secret region : String) (now : Instant) (canonical : String) :
    signature secret region now canonical =
      Receiver.signatureOf secret region now.stamp canonical := by
  have key : signingKey secret region now =
      Receiver.keyOf secret (Receiver.dateOf now.stamp) region := by
    rw [← dateOf_eq]
    rfl
  have algorithm : algorithm ++ "\n" = "TOS4-HMAC-SHA256\n" := by decide
  rw [signature, Bytes.hex_eq, key, stringToSign, scope_eq, Bytes.hex_eq, algorithm]
  rfl

theorem equals_not_mem_signature (secret region : String) (now : Instant) (canonical : String) :
    '=' ∉ (signature secret region now canonical).toList := by
  intro hm
  obtain ⟨n, hn, heq⟩ := Bytes.exists_hexDigit hm
  revert n
  decide

theorem isSigned_iff (name : String) :
    Canonical.isSigned name = true ↔
      name = "host" ∨ name = "content-type" ∨ name = "content-md5" ∨
        "x-tos-".toList <+: name.toList := by
  simp [Canonical.isSigned, or_assoc]

theorem listed_of_getAll {h : Headers} {name : String} {v : Bytes} {vs : List Bytes}
    (hn : Canonical.isSigned name = true) (hg : h.getAll name = v :: vs) :
    name ∈ Canonical.signedNames h := by
  rw [Canonical.mem_signedNames, Headers.mem_names_iff, hg]
  exact ⟨List.cons_ne_nil v vs, hn⟩

theorem digest_value {h : Headers} {payload : String} (hp : payloadDigest r h = .ok payload) :
    Utf8.ofString payload = (h.get? digestHeader).getD
      (Utf8.ofString (Receiver.hex (Sha256.digest (r.body.getD [])))) := by
  rw [payloadDigest] at hp
  split at hp
  · next v hv =>
    rw [hv, Option.getD_some]
    split at hp
    · next t ht =>
      cases hp
      exact Headers.ofString_of_textOf? ht
    · cases hp
  · next hv =>
    cases hp
    rw [hv, Option.getD_none, Bytes.hex_eq]

theorem authority_of_hostOf {u : Url} {host : String} (h : hostOf u = .ok host) :
    u.authority? = some host := by
  rw [hostOf] at h
  split at h
  · next heq =>
    cases h
    exact heq
  · cases h

section
variable {host payload canonical : String} {h h' : Headers}
variable (s : Signed r c region now host payload canonical h h')
include s

theorem Signed.host_listed : hostHeader ∈ Canonical.signedNames h' :=
  listed_of_getAll (by decide) s.host_eq

theorem Signed.token_listed : tokenHeader ∈ Canonical.signedNames h' ↔ c.token.isSome := by
  rw [Canonical.mem_signedNames, Headers.mem_names_iff, s.token_eq]
  cases c.token with
  | none => simp
  | some t =>
    have hn : Canonical.isSigned tokenHeader = true := by decide
    simp [hn]

theorem Signed.read : Receiver.read? { r with headers := h' } =
    some ⟨Canonical.signedNames h', signature c.secretKey region now canonical, now.stamp,
      payload⟩ := by
  have listable : ∀ name ∈ Canonical.signedNames h', Receiver.Listable name := by
    intro name hn
    exact Receiver.listable_of_isName
      (Headers.isName_of_mem_names (Canonical.mem_signedNames.1 hn).1)
  have authorization : Receiver.header? { r with headers := h' } "authorization" = some _ :=
    Receiver.header?_of_getAll s.authorization_eq
  have stamp : Receiver.header? { r with headers := h' } "x-tos-date" = some _ :=
    Receiver.header?_of_getAll s.date_eq
  have digest : Receiver.header? { r with headers := h' } "x-tos-content-sha256" = some _ :=
    Receiver.header?_of_getAll s.digest_eq
  have names := Receiver.readAuthorization?_append (List.ne_nil_of_mem s.host_listed) listable
    (equals_not_mem_signature c.secretKey region now canonical)
    (algorithm ++ " Credential=" ++ c.accessKey ++ "/" ++ scope region now)
  rw [Receiver.read?, authorization, stamp, digest, Option.bind_eq_bind, Option.bind_some,
    V4.authorization, Canonical.names, names]
  rfl

theorem Signed.accepts : Receiver.Accepts { r with headers := h' } c.secretKey region :=
  ⟨_, canonical, s.read, (Canonical.isCanonical_of_text s.text_eq).iff, signature_eq _ _ _ _⟩

theorem Signed.authorization_text : h'.getAll authorizationHeader = [Utf8.ofString
    ("TOS4-HMAC-SHA256 Credential=" ++ c.accessKey ++ "/" ++ Receiver.scopeOf region now.stamp ++
      ", SignedHeaders=" ++ ";".intercalate (Canonical.signedNames h') ++ ", Signature=" ++
      signature c.secretKey region now canonical)] := by
  have front : algorithm ++ " Credential=" = "TOS4-HMAC-SHA256 Credential=" := by decide
  rw [s.authorization_eq, V4.authorization, front, scope_eq, Canonical.names]

end

/-- A signing that succeeds touches five headers and nothing else. It lists in increasing order the
headers of the request that take part, and makes a request that its receiver accepts, who reads
nothing but the request, the secret and the region. -/
theorem sign_verifies {r' : Request} (hs : sign r c region now = (r', .ok ())) :
    (r'.method = r.method ∧ r'.url = r.url ∧ r'.body = r.body ∧
      AgreeOutside ["host", "x-tos-date", "x-tos-content-sha256", "x-tos-security-token",
        "authorization"] r.headers r'.headers) ∧
    (∃ found, Receiver.read? r' = some found ∧
      r'.headers.getAll "authorization" = [Utf8.ofString ("TOS4-HMAC-SHA256 Credential=" ++
        c.accessKey ++ "/" ++ Receiver.scopeOf region now.stamp ++ ", SignedHeaders=" ++
        ";".intercalate found.names ++ ", Signature=" ++ found.signature)] ∧
      found.names.Pairwise (· < ·) ∧
      (∀ name, name ∈ found.names ↔ name ∈ r'.headers.names ∧
        (name = "host" ∨ name = "content-type" ∨ name = "content-md5" ∨
          "x-tos-".toList <+: name.toList)) ∧
      "host" ∈ found.names ∧ "x-tos-date" ∈ found.names ∧ "x-tos-content-sha256" ∈ found.names ∧
      ("x-tos-security-token" ∈ found.names ↔ c.token.isSome)) ∧
    Receiver.Accepts r' c.secretKey region ∧
    (r'.headers.getAll "x-tos-content-sha256" = [(r.headers.get? "x-tos-content-sha256").getD
        (Utf8.ofString (Receiver.hex (Sha256.digest (r.body.getD []))))] ∧
      r'.headers.getAll "x-tos-date" = [Utf8.ofString now.stamp] ∧
      r'.headers.getAll "host" = r.url.authority?.toList.map Utf8.ofString ∧
      r'.headers.getAll "x-tos-security-token" = c.token.toList.map Utf8.ofString) := by
  obtain ⟨h, he, hr⟩ := sign_eq_ok (congrArg Prod.snd hs)
  obtain ⟨host, payload, canonical, hhost, hpayload, s⟩ := edit_eq_ok he
  have hr' : r' = { r with headers := h } := by rw [← hr, hs]
  subst hr'
  refine ⟨⟨rfl, rfl, rfl, s.agree⟩, ⟨_, s.read, s.authorization_text,
    Canonical.signedNames_strict h, fun name => ?_, s.host_listed,
    listed_of_getAll (by decide) s.date_eq, listed_of_getAll (by decide) s.digest_eq,
    s.token_listed⟩, s.accepts, ?_, s.date_eq, ?_, s.token_eq⟩
  · rw [Canonical.mem_signedNames, isSigned_iff]
  · exact s.digest_eq.trans (congrArg ([·]) (digest_value hpayload))
  · rw [authority_of_hostOf hhost]
    exact s.host_eq

theorem sign_verifies_get : ∃ u r',
    Url.read "https://bucket.tos-cn-beijing.volces.com/a%20b.txt?policy=" = .ok u ∧
      u.pairs = [("policy", "")] ∧
      sign (.new "GET" u) ⟨"AKTEST", "secret", some "session-token", none⟩ "cn-beijing"
        (.ofSeconds 1704067200) = (r', .ok ()) ∧
      Receiver.Accepts r' "secret" "cn-beijing" := by
  have parts : (Url.read "https://bucket.tos-cn-beijing.volces.com/a%20b.txt?policy=").toOption.map
      (fun u => (u.authority?, u.pairs)) =
      some (some "bucket.tos-cn-beijing.volces.com", [("policy", "")]) := by
    decide +kernel
  obtain ⟨u, read, parts⟩ := exists_of_toOption_map parts
  simp only [Prod.mk.injEq] at parts
  obtain ⟨authority, pairs⟩ := parts
  have host : hostOf u = .ok "bucket.tos-cn-beijing.volces.com" := by rw [hostOf, authority]
  obtain ⟨r', hs⟩ := sign_succeeds (r := .new "GET" u)
    (c := ⟨"AKTEST", "secret", some "session-token", none⟩) host (by decide) (by decide)
    (fun t ht => by cases ht; decide) (by decide : Plain "cn-beijing") (fun _ _ v hv => by cases hv)
    (.ofSeconds 1704067200)
  exact ⟨u, r', read, pairs, hs, (sign_verifies hs).2.2.1⟩

end V4

end ObjectStorage
