import ObjectStorage.Proofs.Address.Faithful
import ObjectStorage.Proofs.Client.Request
import ObjectStorage.Proofs.Signature.Resigning
import ObjectStorage.Proofs.Signature.Success

/-!
# The headers of a request

Which headers a request has and with which values, for every operation that has one. Those that
are added can always be sent, apart from the name of the user agent, so an operation with a URL is
refused for that name or for a header of its own and for nothing else.
-/
namespace ObjectStorage

open V4 (Plain)

namespace Host

theorem visible_of_isDomainChar {c : Char} (h : Domain.IsDomainChar c) :
    0x20 ≤ c.toNat ∧ c.toNat < 0x7F :=
  forall_char_lt (p := fun c => Domain.IsDomainChar c → 0x20 ≤ c.toNat ∧ c.toNat < 0x7F) (by decide)
    h.1 h

theorem IsRead.visible {host : Host} (h : host.IsRead) :
    ∀ c ∈ host.textChars, 0x20 ≤ c.toNat ∧ c.toNat < 0x7F := by
  intro c hc
  cases host with
  | name n => exact visible_of_isDomainChar (h.2.2 c hc)
  | v4 a =>
    rcases Ipv4.eq_dot_or_isDigit hc with rfl | digit
    · decide
    · exact V4.visible_of_isDigit digit
  | v6 a =>
    have digits : ∀ d < 16, 0x20 ≤ (Nat.digitChar d).toNat ∧ (Nat.digitChar d).toNat < 0x7F := by
      decide
    rcases List.mem_cons.1 hc with rfl | hc
    · decide
    · rcases List.mem_append.1 hc with hc | hc
      · rcases Ipv6.eq_colon_or_digit hc with rfl | ⟨d, hd, rfl⟩
        · decide
        · exact digits d hd
      · rw [List.mem_singleton.1 hc]
        decide

theorem IsRead.textChars_ne_nil {host : Host} (h : host.IsRead) : host.textChars ≠ [] := by
  cases host with
  | name n => exact h.1
  | v4 a => exact Ipv4.textChars_ne_nil a
  | v6 a => exact List.cons_ne_nil _ _

end Host

namespace Operation

theorem visible_of_isHostOf {e : Url} (he : Endpoint.IsService e) {bucket : Option String}
    (hb : ∀ b, bucket = some b → isBucketName b.toList = true) {host : Host}
    (h : IsHostOf e bucket host) :
    host.textChars ≠ [] ∧ ∀ c ∈ host.textChars, 0x20 ≤ c.toNat ∧ c.toNat < 0x7F := by
  obtain ⟨read, hread, isRead⟩ := he.host_read
  cases bucket with
  | none =>
    rw [IsHostOf, hread] at h
    cases h
    exact ⟨isRead.textChars_ne_nil, isRead.visible⟩
  | some bucket =>
    obtain ⟨n, hn, rfl⟩ := h
    rw [hread] at hn
    cases hn
    rw [Host.textChars, String.toList_ofList]
    refine ⟨by simp, fun c hc => ?_⟩
    rcases List.mem_append.1 hc with label | rest
    · have kept := (isLabelChar_of_bucket (hb bucket rfl) c label).1
      exact forall_char_lt (p := fun c => Percent.isUnreserved c = true →
        0x20 ≤ c.toNat ∧ c.toNat < 0x7F) (by decide) (Percent.toNat_lt_of_isUnreserved kept) kept
    · rcases List.mem_cons.1 rest with rfl | rest
      · decide
      · obtain ⟨d, hd, rfl⟩ := List.mem_map.1 rest
        have domain := isRead.2.2 d hd
        exact forall_char_lt (p := fun d => Domain.IsDomainChar d →
          0x20 ≤ d.toLower.toNat ∧ d.toLower.toNat < 0x7F) (by decide) domain.1 domain

def hostText (host : Host) (port : Option Nat) : String :=
  host.text ++ (port.map fun n => ":" ++ toString n).getD ""

theorem plain_hostText {host : Host}
    (h : ∀ c ∈ host.textChars, 0x20 ≤ c.toNat ∧ c.toNat < 0x7F) (port : Option Nat) :
    Plain (hostText host port) := by
  intro c hc
  rw [hostText, String.toList_append, Host.text, String.toList_ofList] at hc
  rcases List.mem_append.1 hc with hc | hc
  · exact h c hc
  · cases port with
    | none => cases hc
    | some n =>
      rw [Option.map_some, Option.getD_some, String.toList_append] at hc
      rcases List.mem_append.1 hc with colon | digit
      · rw [List.mem_singleton.1 colon]
        decide
      · exact V4.plain_toString n c digit

theorem authority?_eq {u : Url} {host : Host} (hu : u.host = some host) (hne : host.textChars ≠ []) :
    u.authority? = some (hostText host u.port) := by
  have nonempty : host.text.isEmpty = false := by
    rw [Bool.eq_false_iff, Host.text]
    simpa using hne
  have written : u.hostText? = some host.text := by
    rw [Url.hostText?, hu, Option.map_some, Option.filter_some, nonempty]
    rfl
  rw [Url.authority?, written, hostText]
  cases u.port with
  | none => simp
  | some n => simp [String.append_assoc]

variable {c : ClientConfig} {o : Operation} {u : Url} {r : Request}

theorem host_of_url {text : String} (he : Endpoint.read text = .ok c.endpoint)
    (hu : o.url c = .ok u) : ∃ host, u.host = some host ∧ u.scheme = c.endpoint.scheme ∧
      u.port = c.endpoint.port ∧ host.textChars ≠ [] ∧ Plain (hostText host u.port) := by
  have service := Endpoint.isService_of_read he
  obtain ⟨target, host, isHost, rfl⟩ := url_eq_ok service hu
  have buckets : ∀ b, hosted c o = some b → isBucketName b.toList = true := by
    intro b hb
    rw [hosted] at hb
    split at hb
    · cases hb
    · exact target.bucket_name b hb
  obtain ⟨nonempty, visible⟩ := visible_of_isHostOf service buckets isHost
  obtain ⟨scheme, placedHost, port, -⟩ := Url.withPairs_frame
    { c.endpoint with
      host := some host
      place := .path ⟨(Path.follow [] (written c o)).map Percent.encodeChars⟩ } o.query
  exact ⟨host, placedHost, scheme, port, nonempty, plain_hostText visible _⟩

def IsLegal (g : String × String) : Prop :=
  Headers.isName g.1 = true ∧ Headers.isValue (Utf8.ofString g.2) = true

theorem isLegal_bodyHeaders : ∀ g ∈ o.bodyHeaders c, IsLegal g := by
  intro g hg
  rw [bodyHeaders] at hg
  split at hg
  · cases hg
  · rcases List.mem_append.1 hg with hg | hg
    · split at hg
      · rw [List.mem_singleton.1 hg]
        exact ⟨(by decide : Headers.isName Checksum.header = true), (V4.plain_toString _).carries⟩
      · cases hg
    · split at hg
      · rw [List.mem_singleton.1 hg]
        exact ⟨by decide, Plain.carries (by decide)⟩
      · cases hg

theorem isLegal_addedHeaders (hu : Plain (u.authority?.getD ""))
    (agent : Headers.isValue (Utf8.ofString c.userAgent) = true) :
    ∀ g ∈ o.addedHeaders c u, IsLegal g := by
  intro g hg
  rcases List.mem_append.1 hg with hg | hg
  · rcases List.mem_cons.1 hg with rfl | hg
    · exact ⟨(by decide : Headers.isName V4.hostHeader = true), hu.carries⟩
    · rcases List.mem_cons.1 hg with rfl | hg
      · exact ⟨(by decide : Headers.isName userAgentHeader = true), agent⟩
      · exact isLegal_bodyHeaders g hg
  · split at hg
    · rw [List.mem_singleton.1 hg]
      exact ⟨by decide, Plain.carries (by decide)⟩
    · cases hg

theorem request_of_url (hu : o.url c = .ok u) : o.request c =
    (setAll .empty (o.headers ++ o.addedHeaders c u)).map fun h => ⟨o.method, u, h, o.body⟩ := by
  rw [request, hu, ← requestHeaders_eq]
  change (o.requestHeaders c u >>= _) = _
  cases o.requestHeaders c u <;> rfl

theorem setAll_of_refused {e : Error} (hu : o.url c = .ok u) (hr : o.request c = .error e) :
    setAll .empty (o.headers ++ o.addedHeaders c u) = .error e := by
  rw [request_of_url hu] at hr
  cases hs : setAll .empty (o.headers ++ o.addedHeaders c u) with
  | error e' =>
    rw [hs] at hr
    cases hr
    rfl
  | ok h =>
    rw [hs] at hr
    cases hr

theorem refused_iff {text : String} (he : Endpoint.read text = .ok c.endpoint)
    (hu : o.url c = .ok u) : (∃ e, o.request c = .error e) ↔
      (∃ g ∈ o.headers, ¬ IsLegal g) ∨ Headers.isValue (Utf8.ofString c.userAgent) = false := by
  constructor
  · rintro ⟨e, hr⟩
    obtain ⟨g, member, problem⟩ := setAll_eq_error (setAll_of_refused hu hr)
    have illegal : ¬ IsLegal g := by
      rintro ⟨hn, hv⟩
      rcases problem with ⟨hn', -⟩ | ⟨hv', -⟩
      · exact Bool.false_ne_true (hn'.symm.trans hn)
      · exact Bool.false_ne_true (hv'.symm.trans hv)
    rcases List.mem_append.1 member with own | added
    · exact Or.inl ⟨g, own, illegal⟩
    · refine Or.inr (Bool.eq_false_iff.2 fun agent => illegal ?_)
      obtain ⟨host, hhost, -, -, nonempty, plain⟩ := host_of_url he hu
      refine isLegal_addedHeaders ?_ agent g added
      rwa [authority?_eq hhost nonempty]
  · intro problem
    rcases hr : o.request c with e | r
    · exact ⟨e, rfl⟩
    · have legal := sendable_of_setAll (headers_of_request hr)
      rcases problem with ⟨g, own, illegal⟩ | agent
      · exact absurd (legal g (List.mem_append_left _ own)) illegal
      · have added : (userAgentHeader, c.userAgent) ∈ o.addedHeaders c r.url :=
          List.mem_append_left _ (List.mem_cons_of_mem _ List.mem_cons_self)
        rw [(legal _ (List.mem_append_right _ added)).2] at agent
        cases agent

end Operation

namespace V4

variable {r : Request} {host : String}

def Names (host : String) (h : Headers) : Prop := h.getAll hostHeader = [Utf8.ofString host]

theorem Names.put {h : Headers} (n : Names host h) {name : String} (hn : name ≠ hostHeader)
    {values : List Bytes} (hv : Headers.isEntry (name, values) = true) :
    Names host (h.put name values hv) := by
  rw [Names, Headers.getAll_put, if_neg hn]
  exact n

theorem Names.erase {h : Headers} (n : Names host h) {name : String} (hn : name ≠ hostHeader) :
    Names host (h.erase name) := by
  rw [Names, Headers.getAll_erase, if_neg hn]
  exact n

theorem keeps_known {α β : Type} {I : Headers → Prop} {x : Except Error α} {f : α → Edit β}
    (hf : ∀ a, x = .ok a → Keeps I (f a)) : Keeps I (reading (fun _ => x) >>= f) := by
  intro h hi
  rcases x with e | a
  · exact Or.inr ⟨e, h, rfl, hi⟩
  · exact hf a rfl h hi

theorem keeps_names (hr : hostOf r.url = .ok host) (c : Credentials) (region : String)
    (now : Instant) : Keeps (Names host) (edit r c region now) := by
  refine (keeps_reading _).bind fun payload => ?_
  refine keeps_known fun named hn => ?_
  have same : named = host := Except.ok.inj (hn.symm.trans hr)
  subst same
  refine (keeps_setting rfl fun h hv _ => ?_).bind fun _ => ?_
  · rw [Names, Headers.getAll_put, if_pos rfl]
  refine (keeps_setting rfl fun h hv n => n.put (by decide) hv).bind fun _ => ?_
  refine (keeps_setting rfl fun h hv n => n.put (by decide) hv).bind fun _ => ?_
  have token : Keeps (Names named) (setToken c.token) :=
    keeps_setToken_of (fun h values hv n => n.put (by decide) hv) fun h n => n.erase (by decide)
  refine token.bind fun _ => ?_
  refine (keeps_reading _).bind fun canonical => ?_
  refine (keeps_reading _).bind fun names => ?_
  exact keeps_setting rfl fun h hv n => n.put (by decide) hv

theorem names_sign (hr : hostOf r.url = .ok host) (hn : Names host r.headers) (c : Credentials)
    (region : String) (now : Instant) : Names host (sign r c region now).1.headers := by
  rcases keeps_names hr c region now r.headers hn with ⟨u, h, he, kept⟩ | ⟨e, h, he, kept⟩
  · rw [sign, he]
    exact kept
  · rw [sign, he]
    exact kept

end V4

namespace Operation

variable {c : ClientConfig} {o : Operation} {r : Request}

/-- The headers of a request, all of them, and its body. A name has at most one value. -/
structure HeadersOf (c : ClientConfig) (o : Operation) (r : Request) : Prop where
  single : ∀ name ∈ r.headers.names, ∃ value, r.headers.getAll name = [value]
  host : ∃ host, r.url.host = some host ∧ host.text ≠ "" ∧
    r.headers.getAll "host" = [Utf8.ofString (hostText host r.url.port)] ∧
    V4.hostOf r.url = .ok (hostText host r.url.port)
  port : ∀ n, r.url.port = some n → Url.defaultPort r.url.scheme ≠ some n
  signed : ∀ credentials region now,
    (V4.sign r credentials region now).1.headers.getAll "host" = r.headers.getAll "host"
  agent : r.headers.getAll "user-agent" = [Utf8.ofString c.userAgent]
  digest : r.headers.getAll "x-tos-content-sha256" =
    (if o.unsignedPayload then some "UNSIGNED-PAYLOAD"
      else lastOf o.headers "x-tos-content-sha256").toList.map Utf8.ofString
  checksum : r.headers.getAll "x-tos-hash-crc64ecma" =
    ((lastOf o.headers "x-tos-hash-crc64ecma").or (if c.checksums then
      o.body.map fun body => toString (Crc64.checksum body).toNat else none)).toList.map
        Utf8.ofString
  type : r.headers.getAll "content-type" = ((lastOf o.headers "content-type").or
    (o.body.map fun _ => "application/octet-stream")).toList.map Utf8.ofString
  other : ∀ name, name ∉ ["host", "user-agent", "x-tos-hash-crc64ecma", "content-type",
    "x-tos-content-sha256"] → r.headers.getAll name = (lastOf o.headers name).toList.map Utf8.ofString
  body : r.body = o.body

theorem values_of_checksum (hr : o.request c = .ok r) :
    r.headers.getAll Checksum.header = ((lastOf o.headers Checksum.header).or
      (if c.checksums then o.body.map fun body => toString (Checksum.ofContent body)
        else none)).toList.map Utf8.ofString := by
  have lower : Headers.lower Checksum.header = Checksum.header := by decide
  rw [getAll_of_request hr, lastOf_addedHeaders, if_neg (by decide), if_neg (by decide),
    if_neg (by decide), lastOf_bodyHeaders, if_pos rfl, hasHeader_eq, lower]
  cases lastOf o.headers Checksum.header with
  | none => simp
  | some v => simp

theorem values_of_type (hr : o.request c = .ok r) :
    r.headers.getAll contentTypeHeader = ((lastOf o.headers contentTypeHeader).or
      (o.body.map fun _ => usualContentType)).toList.map Utf8.ofString := by
  have lower : Headers.lower contentTypeHeader = contentTypeHeader := by decide
  rw [getAll_of_request hr, lastOf_addedHeaders, if_neg (by decide), if_neg (by decide),
    if_neg (by decide), lastOf_bodyHeaders, if_neg (by decide), if_pos rfl, hasHeader_eq, lower]
  cases lastOf o.headers contentTypeHeader with
  | none => simp
  | some v => simp

theorem values_of_digest (hr : o.request c = .ok r) :
    r.headers.getAll V4.digestHeader = (if o.unsignedPayload then some V4.unsignedPayload
      else lastOf o.headers V4.digestHeader).toList.map Utf8.ofString := by
  rw [getAll_of_request hr, lastOf_addedHeaders, if_neg (by decide), if_neg (by decide), if_pos rfl]
  cases o.unsignedPayload <;> rfl

theorem values_of_other (hr : o.request c = .ok r) {name : String} (hn : name ∉ setHeaders) :
    r.headers.getAll name = (lastOf o.headers name).toList.map Utf8.ofString := by
  rw [getAll_of_request hr, lastOf_added_of_not_mem hn, Option.none_or]

theorem single_of_request (hr : o.request c = .ok r) {name : String}
    (member : name ∈ r.headers.names) : ∃ value, r.headers.getAll name = [value] := by
  rw [Headers.mem_names_iff, getAll_of_request hr] at member
  rw [getAll_of_request hr]
  cases hv : (lastOf (o.addedHeaders c r.url) name).or (lastOf o.headers name) with
  | none => exact absurd (by rw [hv]; rfl) member
  | some v => exact ⟨Utf8.ofString v, rfl⟩

theorem headersOf_of_request {text : String} (he : Endpoint.read text = .ok c.endpoint)
    (hr : o.request c = .ok r) : HeadersOf c o r := by
  obtain ⟨host, hhost, scheme, port, nonempty, -⟩ := host_of_url he (request_eq_ok hr)
  have authority := authority?_eq hhost nonempty
  have named : V4.hostOf r.url = .ok (hostText host r.url.port) := by rw [V4.hostOf, authority]
  have written : V4.Names (hostText host r.url.port) r.headers := by
    rw [V4.Names, getAll_of_request hr, lastOf_addedHeaders, if_pos rfl, authority]
    rfl
  refine ⟨fun name => single_of_request hr, ⟨host, hhost, ?_, written, named⟩, ?_,
    fun k region now => ?_, ?_, values_of_digest hr, values_of_checksum hr, values_of_type hr,
    fun name hn => ?_, ?_⟩
  · intro empty
    exact nonempty (by simpa [Host.text] using empty)
  · rw [scheme, port]
    exact Endpoint.port_of_read he
  · exact (V4.names_sign named written k region now).trans written.symm
  · refine (getAll_of_request hr userAgentHeader).trans ?_
    rw [lastOf_addedHeaders, if_neg (by decide), if_pos rfl]
    rfl
  · exact values_of_other hr hn
  · obtain ⟨u, hu, -⟩ := bind_eq_ok hr
    rw [request_of_url hu] at hr
    obtain ⟨h, -, rfl⟩ := map_eq_ok hr
    rfl

/-- An operation whose target has no URL is refused for that. Any other has a request with the
headers it should have, unless one of its own or the name of the user agent cannot be sent. -/
theorem request_headers {text : String} (he : Endpoint.read text = .ok c.endpoint)
    (o : Operation) :
    (∀ r, o.request c = .ok r → HeadersOf c o r) ∧
      (∀ e, o.url c = .error e → o.request c = .error e) ∧
      ∀ u, o.url c = .ok u →
        ((∃ e, o.request c = .error e) ↔
          (∃ g ∈ o.headers, ¬ IsLegal g) ∨ Headers.isValue (Utf8.ofString c.userAgent) = false) ∧
        ∀ e, o.request c = .error e →
          ∃ name, e = .argument (.headerName name) ∨ e = .argument (.headerValue name) := by
  refine ⟨fun r hr => headersOf_of_request he hr, fun e hu => ?_, fun u hu =>
    ⟨refused_iff he hu, fun e hr => ?_⟩⟩
  · rw [request, hu]
    rfl
  · obtain ⟨g, -, ⟨-, name⟩ | ⟨-, value⟩⟩ := setAll_eq_error (setAll_of_refused hu hr)
    · exact ⟨_, Or.inl name⟩
    · exact ⟨_, Or.inr value⟩

theorem request_headers_of_repeated : ∃ c r,
    Endpoint.read "tos-cn-beijing.volces.com:8443" = .ok c.endpoint ∧
      request c ⟨"PUT", some "bkt-one", some "a.css", [], [("Content-Type", "text/css"),
        ("X-Tos-Hash-CRC64ECMA", "7"), ("content-TYPE", "text/html"), ("User-Agent", "mine"),
        ("x-tos-meta-a", "1")], some [1, 2, 3], true⟩ = .ok r ∧
      r.headers.getAll "host" =
        [Utf8.ofString "bkt-one.tos-cn-beijing.volces.com:8443"] ∧
      r.headers.getAll "user-agent" = [Utf8.ofString "tos-rust-sdk/0.1.0"] ∧
      r.headers.getAll "content-type" = [Utf8.ofString "text/html"] ∧
      r.headers.getAll "x-tos-hash-crc64ecma" = [Utf8.ofString "7"] ∧
      r.headers.getAll "x-tos-content-sha256" = [Utf8.ofString "UNSIGNED-PAYLOAD"] ∧
      r.headers.getAll "x-tos-meta-a" = [Utf8.ofString "1"] := by
  have parts : (do
      let e ← Endpoint.read "tos-cn-beijing.volces.com:8443"
      let r ← request (Choices.usual.resolve e) ⟨"PUT", some "bkt-one", some "a.css", [],
        [("Content-Type", "text/css"), ("X-Tos-Hash-CRC64ECMA", "7"),
          ("content-TYPE", "text/html"), ("User-Agent", "mine"), ("x-tos-meta-a", "1")],
        some [1, 2, 3], true⟩
      return (e, r)).toOption.map (fun p : Url × Request => (p.2.url.host, p.2.url.port)) =
      some (some (.name "bkt-one.tos-cn-beijing.volces.com"), some 8443) := by
    decide +kernel
  obtain ⟨⟨e, r⟩, made, parts⟩ := exists_of_toOption_map parts
  obtain ⟨e', he, made⟩ := bind_eq_ok made
  obtain ⟨r', hr, made⟩ := bind_eq_ok made
  cases made
  obtain ⟨urlHost, port⟩ := Prod.mk.inj parts
  have headers := (request_headers (c := Choices.usual.resolve e) he _).1 r hr
  refine ⟨Choices.usual.resolve e, r, he, hr, ?_, headers.agent, headers.type, headers.checksum,
    headers.digest, headers.other "x-tos-meta-a" (by decide)⟩
  obtain ⟨host, hhost, -, named, -⟩ := headers.host
  rw [urlHost] at hhost
  cases hhost
  rw [named, port]
  rfl

end Operation

end ObjectStorage
