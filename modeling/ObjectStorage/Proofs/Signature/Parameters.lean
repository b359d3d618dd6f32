import ObjectStorage.Proofs.Address.Faithful
import ObjectStorage.Proofs.Signature.Unambiguous

/-!
# Parameters on their way to the signature

The parameters of an operation are written to the URL in the form encoding, and whoever signs the
URL reads them from it and writes them in the percent encoding, sorted. The two encodings keep
other characters and spell a space differently. `pairs_encode`: what is read is what was written,
so the parameters that are signed are those of the operation.
-/
namespace ObjectStorage

namespace Query

theorem marks_of_isKept {c : Char} (h : isKept c = true) :
    c.toNat < 0x80 ∧ c ≠ '%' ∧ c ≠ '+' ∧ c ≠ '&' ∧ c ≠ '=' := by
  have small : c.toNat < 0x80 := by
    simp only [isKept, Bool.or_eq_true, beq_iff_eq] at h
    rcases h with (((h | rfl) | rfl) | rfl) | rfl
    · exact toNat_lt_of_isAlphanum h
    all_goals decide
  refine ⟨small, ?_⟩
  exact forall_char_lt (p := fun c => isKept c = true → c ≠ '%' ∧ c ≠ '+' ∧ c ≠ '&' ∧ c ≠ '=')
    (by decide) small h

theorem mem_encodeCharBy {c d : Char} (h : c ∈ Percent.encodeCharBy isKept d) :
    c.toNat < 0x80 ∧ c ≠ '+' ∧ c ≠ '&' ∧ c ≠ '=' := by
  have written : c ∈ Percent.encodeBy isKept [d] := by simpa [Percent.encodeBy] using h
  rcases Percent.mem_encodeBy written with kept | digit | rfl
  · obtain ⟨small, -, marks⟩ := marks_of_isKept kept
    exact ⟨small, marks⟩
  · have small := Percent.toNat_lt_of_isUnreserved digit
    exact ⟨small, forall_char_lt (p := fun c => Percent.isUnreserved c = true →
      c ≠ '+' ∧ c ≠ '&' ∧ c ≠ '=') (by decide) small digit⟩
  · decide

theorem mem_encodePart {s : String} {c : Char} (h : c ∈ encodePart s) :
    c.toNat < 0x80 ∧ c ≠ '&' ∧ c ≠ '=' := by
  obtain ⟨d, -, hc⟩ := List.mem_flatMap.1 h
  rw [encodeChar] at hc
  split at hc
  · rw [List.mem_singleton.1 hc]
    decide
  · obtain ⟨small, -, marks⟩ := mem_encodeCharBy hc
    exact ⟨small, marks⟩

/-- A plus sign of the text is written as a triplet, so each one that is left stands for a space. -/
theorem map_spaceOfPlus_encodePart (s : String) :
    (encodePart s).map spaceOfPlus =
      Percent.encodeBy (fun c => isKept c || c == ' ') s.toList := by
  rw [encodePart, Percent.encodeBy, List.map_flatMap]
  congr 1
  funext c
  rw [encodeChar]
  by_cases hc : c = ' '
  · subst hc
    rfl
  · have plain : (Percent.encodeCharBy isKept c).map spaceOfPlus =
        Percent.encodeCharBy isKept c := by
      refine (List.map_congr_left fun d hd => ?_).trans (List.map_id _)
      exact if_neg (mem_encodeCharBy hd).2.1
    rw [if_neg hc, plain]
    simp [Percent.encodeCharBy, hc]

theorem decodePart_encodePart (s : String) : decodePart (encodePart s) = s := by
  have keeps : ∀ c, (isKept c || c == ' ') = true → c.toNat < 0x80 ∧ c ≠ '%' := by
    intro c hc
    rw [Bool.or_eq_true, beq_iff_eq] at hc
    rcases hc with kept | rfl
    · exact ⟨(marks_of_isKept kept).1, (marks_of_isKept kept).2.1⟩
    · decide
  have ascii : ∀ c ∈ (encodePart s).map spaceOfPlus, c.toNat < 0x80 := by
    intro c hc
    obtain ⟨d, hd, rfl⟩ := List.mem_map.1 hc
    rw [spaceOfPlus]
    split
    · decide
    · exact (mem_encodePart hd).1
  rw [decodePart, ← Percent.bytesOf_of_ascii ascii, map_spaceOfPlus_encodePart,
    Percent.decode_encodeBy keeps]
  exact Utf8.toStringLossy_ofString s

theorem decodePair_encodePair (p : Pair) : decodePair (encodePair p) = p := by
  have name : ∀ c ∈ encodePart p.1, (c != '=') = true := by
    intro c hc
    simpa using (mem_encodePart hc).2.2
  rw [decodePair, encodePair, List.takeWhile_append_of_pos name, List.dropWhile_append_of_pos name]
  simp [decodePart_encodePart]

theorem amp_not_mem_encodePair (p : Pair) : '&' ∉ encodePair p := by
  intro h
  rcases List.mem_append.1 h with name | rest
  · exact (mem_encodePart name).2.1 rfl
  · rcases List.mem_cons.1 rest with equals | value
    · exact absurd equals (by decide)
    · exact (mem_encodePart value).2.1 rfl

/-- No pair is written as nothing, since each has its equals sign. -/
theorem pairs_encode (ps : List Pair) : pairs (encode ps) = ps := by
  have part : ∀ l ∈ ps.map encodePair, '&' ∉ l ∧ l ≠ [] := by
    intro l hl
    obtain ⟨p, -, rfl⟩ := List.mem_map.1 hl
    exact ⟨amp_not_mem_encodePair p, by simp [encodePair]⟩
  rw [pairs, encode, filter_splitOn_intercalate part, List.map_map]
  exact (List.map_congr_left fun p _ => decodePair_encodePair p).trans (List.map_id ps)

@[simp]
theorem pairs_nil : pairs [] = [] := rfl

theorem pairs_append (s t : List Char) : pairs (s ++ '&' :: t) = pairs s ++ pairs t := by
  rw [pairs, List.splitOn_append_cons_self, List.filter_append, List.map_append]
  rfl

end Query

namespace Url

theorem pairs_withPairs (u : Url) (ps : List Query.Pair) :
    (u.withPairs ps).pairs = u.pairs ++ ps := by
  rw [withPairs]
  split
  · next none =>
    rw [List.isEmpty_iff.1 none, List.append_nil]
  · rw [pairs, Option.getD_some]
    cases hq : u.query with
    | none => simp [pairs, hq, Query.pairs_encode]
    | some q =>
      by_cases empty : q = []
      · simp [pairs, hq, empty, Query.pairs_encode]
      · simp [pairs, hq, empty, Query.pairs_append, Query.pairs_encode]

theorem authority?_withPairs (u : Url) (ps : List Query.Pair) :
    (u.withPairs ps).authority? = u.authority? := by
  obtain ⟨-, host, port, -⟩ := withPairs_frame u ps
  rw [authority?, authority?, hostText?, hostText?, host, port]

end Url

namespace Endpoint

theorem query_of_read {text : String} {e : Url} (h : read text = .ok e) : e.query = none := by
  have hp := read_eq_ok h
  rw [problem?] at hp
  split at hp
  · cases hp
  · split at hp
    · cases hp
    · split at hp
      · cases hp
      · next parts =>
        rw [Bool.or_eq_true, not_or] at parts
        simpa using parts.1

end Endpoint

namespace Operation

variable {c : ClientConfig} {o : Operation} {r : Request}

theorem pairs_of_request {text : String} (he : Endpoint.read text = .ok c.endpoint)
    (hr : o.request c = .ok r) : r.url.pairs = o.query := by
  obtain ⟨-, host, -, hu⟩ := url_eq_ok (Endpoint.isService_of_read he) (request_eq_ok hr)
  have none : Url.pairs { c.endpoint with
      host := some host
      place := .path ⟨(Path.follow [] (written c o)).map Percent.encodeChars⟩ } = [] := by
    rw [Url.pairs, Endpoint.query_of_read he, Option.getD_none, Query.pairs_nil]
  rw [hu, Url.placed, Url.pairs_withPairs, none, List.nil_append]

/-- Neither the place nor the headers of a request depend on the parameters. -/
theorem request_withQuery (c : ClientConfig) (o : Operation) :
    ∃ place : Except Error Url, ∀ query, request c { o with query := query } =
      place >>= fun u => (requestHeaders c o u).map fun h =>
        ⟨o.method, u.withPairs query, h, o.body⟩ := by
  have urls : ∃ place : Except Error Url, ∀ query,
      url c { o with query := query } = place >>= fun u => .ok (u.withPairs query) := by
    obtain ⟨method, bucket, key, query, headers, body, unsigned⟩ := o
    cases bucket with
    | some bucket => exact ⟨bucketUrl c bucket key, fun _ => rfl⟩
    | none =>
      cases key with
      | some key => exact ⟨.error (.argument .keyWithoutBucket), fun _ => rfl⟩
      | none => exact ⟨.ok (c.endpoint.withPath ['/']), fun _ => rfl⟩
  obtain ⟨place, urls⟩ := urls
  refine ⟨place, fun query => ?_⟩
  rw [request, urls query, bind_assoc]
  refine congrArg (place >>= ·) (funext fun u => ?_)
  have headers : requestHeaders c { o with query := query } (u.withPairs query) =
      requestHeaders c o u := by
    simp only [requestHeaders, Url.authority?_withPairs]
    rfl
  change (requestHeaders c { o with query := query } (u.withPairs query) >>= _) = _
  rw [headers]
  cases requestHeaders c o u <;> rfl

/-- The parameters of a request are those of the operation, in their order and as often as they
are given. Their canonical text has them all, sorted, so that one signs the same for every order
in which they can be given. -/
theorem request_query {text : String} (he : Endpoint.read text = .ok c.endpoint)
    (hr : o.request c = .ok r) :
    r.url.pairs = o.query ∧
      Canonical.JoinsSorted o.query (String.ofList (Canonical.queryChars r.url.pairs)) ∧
      ∀ query, query.Perm o.query → ∃ r', request c { o with query := query } = .ok r' ∧
        Canonical.queryChars r'.url.pairs = Canonical.queryChars r.url.pairs := by
  have pairs := pairs_of_request he hr
  refine ⟨pairs, ?_, fun query reordered => ?_⟩
  · rw [pairs]
    exact Canonical.joinsSorted_queryChars o.query
  · obtain ⟨place, requests⟩ := request_withQuery c o
    have given : request c { o with query := o.query } = .ok r := hr
    rw [requests] at given
    obtain ⟨u, hu, given⟩ := bind_eq_ok given
    obtain ⟨h, headers, -⟩ := map_eq_ok given
    have accepted : request c { o with query := query } =
        .ok ⟨o.method, u.withPairs query, h, o.body⟩ := by
      rw [requests, hu]
      exact congrArg (Except.map _) headers
    refine ⟨_, accepted, ?_⟩
    rw [pairs, pairs_of_request he accepted]
    exact Canonical.queryChars_of_perm reordered

theorem request_query_of_marks : ∃ c r, Endpoint.read "tos-cn-beijing.volces.com" = .ok c.endpoint ∧
    request c ⟨"GET", some "bkt-one", none,
      [("b", "&=+% ü"), ("", "x"), ("b", ""), ("b", "&=+% ü")], [], none, false⟩ = .ok r ∧
    r.url.query = some "b=%26%3D%2B%25+%C3%BC&=x&b=&b=%26%3D%2B%25+%C3%BC".toList ∧
    r.url.pairs = [("b", "&=+% ü"), ("", "x"), ("b", ""), ("b", "&=+% ü")] := by
  have written : (do
      let e ← Endpoint.read "tos-cn-beijing.volces.com"
      let r ← request (Choices.usual.resolve e) ⟨"GET", some "bkt-one", none,
        [("b", "&=+% ü"), ("", "x"), ("b", ""), ("b", "&=+% ü")], [], none, false⟩
      return (e, r)).toOption.map (fun p : Url × Request => p.2.url.query) =
      some (some "b=%26%3D%2B%25+%C3%BC&=x&b=&b=%26%3D%2B%25+%C3%BC".toList) := by
    decide +kernel
  obtain ⟨⟨e, r⟩, made, query⟩ := exists_of_toOption_map written
  obtain ⟨e', he, made⟩ := bind_eq_ok made
  obtain ⟨r', hr, made⟩ := bind_eq_ok made
  cases made
  exact ⟨Choices.usual.resolve e, r, he, hr, query, (request_query he hr).1⟩

end Operation

end ObjectStorage
