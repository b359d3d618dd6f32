import ObjectStorage.Proofs.Signature.Resigning
import ObjectStorage.Proofs.Signature.Unambiguous
import ObjectStorage.Proofs.Signature.Verification

/-!
# What a signature does not depend on

Two requests that share what is signed are signed alike, whatever else is in them: other headers
with any values, names in another order, parameters in another order. Every step of a signing
keeps the headers that take part the same in both, and none reads any other.
-/
namespace ObjectStorage

namespace Headers

/-- The same values for every name that takes part in signatures. -/
def AgreeSigned (h k : Headers) : Prop :=
  ∀ name, Canonical.isSigned name = true → h.getAll name = k.getAll name

variable {h k : Headers}

/-- Two lists of headers have finitely many names on which they may differ. -/
theorem AgreeSigned.agreeOutside (a : AgreeSigned h k) :
    ∃ ns, (∀ name ∈ ns, Canonical.isSigned name = false) ∧ AgreeOutside ns h k := by
  refine ⟨(h.names ++ k.names).filter (!Canonical.isSigned ·), ?_, ?_⟩
  · intro name hn
    simpa using (List.mem_filter.1 hn).2
  · intro name hn
    by_cases signed : Canonical.isSigned name = true
    · exact a name signed
    · have absent : name ∉ h.names ∧ name ∉ k.names := by
        simpa [List.mem_filter, signed] using hn
      rw [mem_names_iff, mem_names_iff, Decidable.not_not, Decidable.not_not] at absent
      rw [absent.1, absent.2]

theorem AgreeSigned.put (a : AgreeSigned h k) {name : String} {values : List Bytes}
    (hv : isEntry (name, values) = true) :
    AgreeSigned (h.put name values hv) (k.put name values hv) := by
  intro other signed
  rw [getAll_put, getAll_put, a other signed]

theorem AgreeSigned.erase (a : AgreeSigned h k) (name : String) :
    AgreeSigned (h.erase name) (k.erase name) := by
  intro other signed
  rw [getAll_erase, getAll_erase, a other signed]

end Headers

namespace V4

open Headers (AgreeSigned)

def SameAuthorization (h k : Headers) : Prop :=
  ∃ text, h.getAll authorizationHeader = [Utf8.ofString text] ∧
    k.getAll authorizationHeader = [Utf8.ofString text]

theorem sameAuthorization_put (h k : Headers) {text : String}
    (hv : Headers.isEntry (authorizationHeader, [Utf8.ofString text]) = true) :
    SameAuthorization (h.put authorizationHeader _ hv) (k.put authorizationHeader _ hv) := by
  refine ⟨text, ?_, ?_⟩
  · rw [Headers.getAll_put, if_pos rfl]
  · rw [Headers.getAll_put, if_pos rfl]

theorem respects_setting_signed {name : String} (hl : Headers.lower name = name)
    (value : String) : Respects AgreeSigned AgreeSigned (setting name value) :=
  respects_setting_of hl fun _ _ hv a => a.put hv

theorem respects_edit_signed (r : Request) (c : Credentials) (region : String) (now : Instant) :
    Respects AgreeSigned SameAuthorization (edit r c region now) := by
  have digests : ∀ h k, AgreeSigned h k → payloadDigest r h = payloadDigest r k :=
    fun h k a => payloadDigest_congr r (a digestHeader (by decide))
  refine (respects_reading digests).bind fun payload => ?_
  refine (respects_reading fun _ _ _ => rfl).bind fun host => ?_
  refine (respects_setting_signed rfl host).bind fun _ => ?_
  refine (respects_setting_signed rfl now.stamp).bind fun _ => ?_
  refine (respects_setting_signed rfl payload).bind fun _ => ?_
  have token : Respects AgreeSigned AgreeSigned (setToken c.token) :=
    respects_setToken_of (fun _ _ _ hv a => a.put hv) fun _ _ a => a.erase tokenHeader
  refine token.bind fun _ => ?_
  have texts : ∀ h k, AgreeSigned h k →
      Canonical.text r h payload = Canonical.text r k payload := by
    intro h k a
    obtain ⟨ns, unsigned, agree⟩ := a.agreeOutside
    exact Canonical.text_congr agree unsigned r payload
  have names : ∀ h k, AgreeSigned h k → Canonical.names h = Canonical.names k := by
    intro h k a
    obtain ⟨ns, unsigned, agree⟩ := a.agreeOutside
    rw [Canonical.names, Canonical.names, Canonical.signedNames_congr agree unsigned]
  refine (respects_reading texts).bind fun canonical => ?_
  refine (respects_reading fun h k a => congrArg Except.ok (names h k a)).bind fun signed => ?_
  -- Whatever the old authorizations were, the new one is set in their place.
  exact respects_setting_of rfl fun h k hv _ => sameAuthorization_put h k hv

/-- What two requests share that differ in nothing that is signed. -/
structure SameSigned (r s : Request) : Prop where
  method : r.method = s.method
  host : r.url.host = s.url.host
  port : r.url.port = s.url.port
  path : r.url.pathChars = s.url.pathChars
  query : r.url.pairs.Perm s.url.pairs
  headers : ∀ name, (name = "host" ∨ name = "content-type" ∨ name = "content-md5" ∨
    "x-tos-".toList <+: name.toList) → r.headers.getAll name = s.headers.getAll name
  body : r.body = s.body

variable {r s : Request}

theorem SameSigned.agreeSigned (same : SameSigned r s) : AgreeSigned r.headers s.headers :=
  fun name signed => same.headers name ((isSigned_iff name).1 signed)

theorem SameSigned.edit_eq (same : SameSigned r s) (c : Credentials) (region : String)
    (now : Instant) : edit r c region now = edit s c region now := by
  have host : hostOf r.url = hostOf s.url := by
    rw [hostOf, hostOf, Url.authority?, Url.authority?, Url.hostText?, Url.hostText?, same.host,
      same.port]
  have prepared : prepare r c now = prepare s c now :=
    funext fun h => prepare_congr same.method host same.path same.query same.body
  rw [edit_eq_prepare, edit_eq_prepare, prepared]

/-- Requests that share what is signed are refused with the same error or get the same
authorization. -/
theorem sign_ignores (same : SameSigned r s) (c : Credentials) (region : String) (now : Instant) :
    (sign r c region now).2 = (sign s c region now).2 ∧
      ((sign r c region now).2 = .ok () →
        SameAuthorization (sign r c region now).1.headers (sign s c region now).1.headers) := by
  have edits := same.edit_eq c region now
  rcases respects_edit_signed r c region now r.headers s.headers same.agreeSigned with
    ⟨u, h, k, hr, hs, text⟩ | ⟨e, h, k, hr, hs⟩
  · rw [edits] at hs
    rw [sign, sign, hr]
    simp only [hs]
    exact ⟨trivial, fun _ => text⟩
  · rw [edits] at hs
    rw [sign, sign, hr]
    simp only [hs]
    exact ⟨trivial, fun ok => by cases ok⟩

theorem sign_ignores_stale : ∃ r s : Request,
    Url.read "https://bucket.tos-cn-beijing.volces.com/a%20b.txt?b=&a=1" = .ok r.url ∧
      Url.read "http://user@bucket.tos-cn-beijing.volces.com/a%20b.txt?a=1&b" = .ok s.url ∧
      r.headers.toList = [("authorization", Utf8.ofString "stale"), ("x-trace", [0xFF]),
        ("content-type", Utf8.ofString "text/plain")] ∧
      s.headers.toList = [("content-type", Utf8.ofString "text/plain"),
        ("accept", Utf8.ofString "*/*")] ∧
      (sign r (.new "AKTEST" "secret") "cn-beijing" (.ofSeconds 1704067200)).2 = .ok () ∧
      SameAuthorization
        (sign r (.new "AKTEST" "secret") "cn-beijing" (.ofSeconds 1704067200)).1.headers
        (sign s (.new "AKTEST" "secret") "cn-beijing" (.ofSeconds 1704067200)).1.headers := by
  have parts : (do
      let u ← Url.read "https://bucket.tos-cn-beijing.volces.com/a%20b.txt?b=&a=1"
      let v ← Url.read "http://user@bucket.tos-cn-beijing.volces.com/a%20b.txt?a=1&b"
      return (u, v)).toOption.map (fun p : Url × Url =>
        (decide (p.1.host = p.2.host ∧ p.1.port = p.2.port ∧ p.1.pathChars = p.2.pathChars),
          p.1.pairs, p.2.pairs, p.2.authority?)) =
      some (true, [("b", ""), ("a", "1")], [("a", "1"), ("b", "")],
        some "bucket.tos-cn-beijing.volces.com") := by
    decide +kernel
  obtain ⟨⟨u, v⟩, read, parts⟩ := exists_of_toOption_map parts
  obtain ⟨u', readu, read⟩ := ObjectStorage.bind_eq_ok read
  obtain ⟨v', readv, read⟩ := ObjectStorage.bind_eq_ok read
  cases read
  simp only [Prod.mk.injEq, decide_eq_true_eq] at parts
  obtain ⟨⟨host, port, path⟩, uPairs, vPairs, authority⟩ := parts
  have stale : Headers.isEntry ("authorization", [Utf8.ofString "stale"]) = true := by decide
  have trace : Headers.isEntry ("x-trace", [[0xFF]]) = true := by decide
  have type : Headers.isEntry ("content-type", [Utf8.ofString "text/plain"]) = true := by decide
  have accept : Headers.isEntry ("accept", [Utf8.ofString "*/*"]) = true := by decide
  let r : Request :=
    ⟨"GET", u, ((Headers.empty.put _ _ stale).put _ _ trace).put _ _ type, none⟩
  let s : Request := ⟨"GET", v, (Headers.empty.put _ _ type).put _ _ accept, none⟩
  have reordered : r.url.pairs.Perm s.url.pairs := by
    change u.pairs.Perm v.pairs
    rw [uPairs, vPairs]
    exact .swap _ _ []
  have headers : ∀ name, Canonical.isSigned name = true →
      r.headers.getAll name = s.headers.getAll name := by
    intro name signed
    have others : "authorization" ≠ name ∧ "x-trace" ≠ name ∧ "accept" ≠ name := by
      refine ⟨?_, ?_, ?_⟩
      all_goals
        rintro rfl
        exact absurd signed (by decide)
    simp only [r, s, Headers.getAll_put, if_neg others.1, if_neg others.2.1, if_neg others.2.2]
  have same : SameSigned r s :=
    ⟨rfl, host, port, path, reordered, fun name hn => headers name ((isSigned_iff name).2 hn), rfl⟩
  have hostOf : hostOf s.url = .ok "bucket.tos-cn-beijing.volces.com" := by
    rw [V4.hostOf, authority]
  have signable : ∃ s', sign s (.new "AKTEST" "secret") "cn-beijing" (.ofSeconds 1704067200) =
      (s', .ok ()) := by
    refine sign_succeeds hostOf (by decide) (by decide) (fun t ht => by cases ht) (by decide)
      (fun name _ v hv => ?_) _
    simp only [s, Headers.getAll_put] at hv
    split at hv
    · rw [List.mem_singleton.1 hv]
      exact Plain.isText (by decide)
    · split at hv
      · rw [List.mem_singleton.1 hv]
        exact Plain.isText (by decide)
      · cases hv
  obtain ⟨s', signed⟩ := signable
  obtain ⟨outcome, authorization⟩ :=
    sign_ignores same (.new "AKTEST" "secret") "cn-beijing" (.ofSeconds 1704067200)
  have ok := outcome.trans (congrArg Prod.snd signed)
  exact ⟨r, s, readu, readv, rfl, rfl, ok, authorization ok⟩

end V4

end ObjectStorage
