import ObjectStorage.Proofs.Address.SmallLetters
import ObjectStorage.Proofs.Address.Uniqueness

/-!
# Addresses that say what they are made of

Where no key has a segment of dots, the URL of a request is the endpoint's with the bucket and the
key put in and nothing changed: the host is the endpoint's, after the bucket if that has a host of
its own, and the path is the key as it is encoded, from which its segments are read back.
-/
namespace ObjectStorage

namespace Percent

def readSegment (s : List Char) : Option (List Char) := Utf8.decode? (decode (Utf8.encode s))

theorem readSegment_encodeChars (s : List Char) : readSegment (encodeChars s) = some s := by
  rw [readSegment, decode_encode_encodeChars, Utf8.decode?_encode]

end Percent

namespace Path

theorem map_readSegment (ss : List (List Char)) :
    ((textChars ⟨ss.map Percent.encodeChars⟩).splitOn '/').map Percent.readSegment =
      ([] :: ss).map some := by
  rw [splitOn_encoded, List.map_cons, List.map_cons, List.map_map]
  refine congrArg₂ List.cons rfl (List.map_congr_left fun s _ => ?_)
  exact Percent.readSegment_encodeChars s

theorem textChars_eq (w : List Char) :
    textChars ⟨(w.splitOn '/').map Percent.encodeChars⟩ = '/' :: Percent.encodePathChars w := by
  have whole := congrArg (['/'].intercalate ·) (splitOn_encoded (w.splitOn '/'))
  simp only [List.intercalate_splitOn] at whole
  obtain ⟨s, r, hs⟩ := List.exists_cons_of_ne_nil (List.splitOn_ne_nil '/' w)
  rw [whole, Percent.encodePathChars_eq_intercalate, hs, List.map_cons, List.intercalate_cons_cons]
  rfl

end Path

namespace Url

theorem withPairs_frame (u : Url) (q : List Query.Pair) :
    (u.withPairs q).scheme = u.scheme ∧ (u.withPairs q).host = u.host ∧
      (u.withPairs q).port = u.port ∧ (u.withPairs q).pathChars = u.pathChars := by
  rw [withPairs]
  split
  · exact ⟨rfl, rfl, rfl, rfl⟩
  · exact ⟨rfl, rfl, rfl, rfl⟩

end Url

namespace Operation

structure IsPlainName (name : List Char) : Prop where
  long : 3 ≤ name.length
  short : name.length ≤ 63
  letters : ∀ c ∈ name, 'a' ≤ c ∧ c ≤ 'z' ∨ '0' ≤ c ∧ c ≤ '9' ∨ c = '-'
  first : name.head? ≠ some '-'
  last : name.getLast? ≠ some '-'

theorem isPlainName_of_bucket {bucket : String} (h : isBucketName bucket.toList = true) :
    IsPlainName bucket.toList := by
  have ascii : ∀ c ∈ bucket.toList, c.toNat < 0x80 := fun c hc =>
    Percent.toNat_lt_of_isUnreserved (isLabelChar_of_bucket h c hc).1
  simp only [isBucketName, Bool.and_eq_true, decide_eq_true_eq, List.all_eq_true] at h
  obtain ⟨⟨⟨⟨long, short⟩, letters⟩, first⟩, last⟩ := h
  refine ⟨long, short, fun c hc => ?_, fun he => ?_, fun he => ?_⟩
  · exact forall_char_lt (p := fun c => (isBucketEnd c || c == '-') = true →
      'a' ≤ c ∧ c ≤ 'z' ∨ '0' ≤ c ∧ c ≤ '9' ∨ c = '-') (by decide) (ascii c hc) (letters c hc)
  · rw [he] at first
    exact absurd first (by decide)
  · rw [he] at last
    exact absurd last (by decide)

/-- The URL of a bucket, or of an object in it, tells both as they are. -/
structure Tells (c : ClientConfig) (bucket : String) (key : Option String) (u : Url) : Prop where
  scheme_eq : u.scheme = c.endpoint.scheme
  port_eq : u.port = c.endpoint.port
  path_style : c.pathStyle = true → u.host = c.endpoint.host
  virtual_hosted : c.pathStyle = false →
    ∃ n, c.endpoint.host = some (.name n) ∧ u.host = some (.name (bucket ++ "." ++ n))
  path_eq : u.pathChars =
    '/' :: (if c.pathStyle then bucket.toList ++ '/' :: keyChars key else keyChars key)
  segments_eq : (u.pathChars.splitOn '/').map Percent.readSegment =
    ([] :: (if c.pathStyle then bucket.toList :: segments key else segments key)).map some

theorem written_eq {c : ClientConfig} {o : Operation} {bucket : String}
    (ho : o.bucket = some bucket) : written c o =
      if c.pathStyle then bucket.toList :: segments o.key else segments o.key := by
  rw [written, ho]

theorem textChars_written {c : ClientConfig} {o : Operation} {bucket : String}
    (ho : o.bucket = some bucket) (hb : isBucketName bucket.toList = true) :
    Path.textChars ⟨(written c o).map Percent.encodeChars⟩ =
      '/' :: (if c.pathStyle then bucket.toList ++ '/' :: keyChars o.key else keyChars o.key) := by
  have slash : '/' ∉ bucket.toList := fun hm =>
    absurd (isLabelChar_of_bucket hb '/' hm).1 (by decide)
  rw [written_eq ho]
  split
  · rw [bucket_keyChars hb, ← Path.textChars_eq,
      List.splitOn_append_cons_self_of_not_mem slash, segments]
  · exact Path.textChars_eq _

/-- A request for a bucket, or for an object whose key has no segment of dots, says in its URL what
it is for and no more: neither the host nor the path is changed on the way there. -/
theorem request_faithful {b : ClientBuilder} {client : Client} (hb : b.build = .ok client)
    {o : Operation} {bucket : String} (ho : o.bucket = some bucket) (hd : WithoutDots o)
    {r : Request} (hr : request client.config o = .ok r) :
    IsPlainName bucket.toList ∧ o.key ≠ some "" ∧ Tells client.config bucket o.key r.url := by
  obtain ⟨endpoint, he, hclient⟩ := bind_eq_ok hb
  have read : Endpoint.read b.endpoint = .ok client.config.endpoint := by
    cases hclient
    exact he
  obtain ⟨target, host, hhost, hu⟩ :=
    url_eq_ok (Endpoint.isService_of_read read) (request_eq_ok hr)
  have name := target.bucket_name bucket ho
  rw [follow_written target hd] at hu
  obtain ⟨scheme, urlHost, port, path⟩ := Url.withPairs_frame
    { client.config.endpoint with
      host := some host
      place := .path ⟨(written client.config o).map Percent.encodeChars⟩ } o.query
  rw [← Url.placed, ← hu] at scheme urlHost port path
  refine ⟨isPlainName_of_bucket name, target.key_ne, scheme, port, fun style => ?_,
    fun style => ?_, path.trans (textChars_written ho name), ?_⟩
  · rw [hosted, if_pos style] at hhost
    exact urlHost.trans hhost.symm
  · rw [hosted, style, if_neg Bool.false_ne_true, ho] at hhost
    obtain ⟨n, hn, rfl⟩ := hhost
    refine ⟨n, hn, urlHost.trans (congrArg (fun n => some (Host.name n)) ?_)⟩
    rw [Endpoint.map_toLower_host read hn]
    simp [← String.toList_inj]
  · rw [path, ← written_eq ho]
    exact Path.map_readSegment _

theorem request_faithful_of_capitals : ∃ client r,
    (ClientBuilder.new "https://TOS.Example.com:8443").build = .ok client ∧
      request client.config (((new "GET").withBucket "bkt-one").withKey "/a//%2f\\ü") = .ok r ∧
      r.url.port = some 8443 ∧ r.url.host = some (.name "bkt-one.tos.example.com") ∧
      r.url.pathChars = "//a//%252f%5C%C3%BC".toList ∧
      (r.url.pathChars.splitOn '/').map Percent.readSegment =
        [some [], some [], some ['a'], some [], some "%2f\\ü".toList] := by
  have parts : (do
      let client ← (ClientBuilder.new "https://TOS.Example.com:8443").build
      let r ← request client.config (((new "GET").withBucket "bkt-one").withKey "/a//%2f\\ü")
      return (client, r)).toOption.map (fun p : Client × Request =>
        (p.1.config.pathStyle, p.1.config.endpoint.port, p.1.config.endpoint.host)) =
      some (false, some 8443, some (.name "tos.example.com")) := by
    decide +kernel
  obtain ⟨⟨client, r⟩, built, parts⟩ := exists_of_toOption_map parts
  obtain ⟨client', hb, built⟩ := bind_eq_ok built
  obtain ⟨r', hr, built⟩ := bind_eq_ok built
  cases built
  simp only [Prod.mk.injEq] at parts
  obtain ⟨style, port, host⟩ := parts
  have bucket : (((new "GET").withBucket "bkt-one").withKey "/a//%2f\\ü").bucket =
      some "bkt-one" := rfl
  obtain ⟨-, -, tells⟩ := request_faithful hb bucket (by decide) hr
  refine ⟨client, r, hb, hr, tells.port_eq.trans port, ?_, ?_, ?_⟩
  · obtain ⟨n, hn, hu⟩ := tells.virtual_hosted style
    rw [host] at hn
    cases hn
    exact hu
  · rw [tells.path_eq, style]
    decide +kernel
  · rw [tells.segments_eq, style]
    decide +kernel

end Operation

end ObjectStorage
