import Mathlib.Data.List.Perm.Basic
import ObjectStorage.Proofs.Address.Encoding
import ObjectStorage.Proofs.Address.ServicePath
import ObjectStorage.Proofs.Signature.Success
import ObjectStorage.Proofs.Text.Joined

/-!
# Canonical requests are unambiguous

A canonical request is glued together from parts of any length. No part has the character in it
that ends it, so the text has one cut into parts: it tells the method, the path, the parameters up
to their order, the headers that take part with their values, and the digest of the body.
-/
namespace ObjectStorage

/-- A method is a word of the characters that names of headers have. -/
def Request.IsMethod (method : String) : Prop :=
  method ≠ "" ∧ ∀ c ∈ method.toList, Headers.isNameChar c = true

instance (method : String) : Decidable (Request.IsMethod method) :=
  decidable_of_iff (method ≠ "" ∧ method.toList.all Headers.isNameChar = true) <| by
    rw [Request.IsMethod, List.all_eq_true]

theorem Request.newline_not_mem_method {method : String} (h : IsMethod method) :
    '\n' ∉ method.toList := by
  intro hn
  exact absurd (h.2 _ hn) (by decide)

theorem Blank.mem_trimBy {α : Type} {p : α → Bool} {s : List α} {a : α} (h : a ∈ trimBy p s) :
    a ∈ s := by
  have inner := (List.dropWhile_sublist p).mem (List.mem_reverse.1 h)
  exact (List.dropWhile_sublist p).mem (List.mem_reverse.1 inner)

theorem Headers.newline_not_mem_textOf? {value : Bytes} {t : String}
    (h : textOf? value = some t) : '\n' ∉ t.toList := by
  intro hn
  rcases shown_of_textOf? h _ hn with tab | ⟨low, -⟩
  · exact absurd tab (by decide)
  · exact absurd low (by decide)

namespace Canonical

theorem encodePair_injective {p q : Query.Pair} (h : encodePair p = encodePair q) : p = q := by
  obtain ⟨hn, hv⟩ := Prod.ext_iff.1 h
  exact Prod.ext (String.toList_inj.1 (Percent.encodeChars_injective hn))
    (String.toList_inj.1 (Percent.encodeChars_injective hv))

def joinPair (p : Part) : List Char := p.1 ++ '=' :: p.2

theorem mem_queryParts {ps : List Query.Pair} {p : Part} (h : p ∈ queryParts ps) :
    ∃ q ∈ ps, encodePair q = p := by
  rw [queryParts, List.mem_mergeSort] at h
  exact List.mem_map.1 h

theorem not_mem_joinPair {c : Char} (hc : Percent.isUnreserved c = false) (hp : c ≠ '%')
    (he : c ≠ '=') (q : Query.Pair) : c ∉ joinPair (encodePair q) := by
  intro h
  rcases List.mem_append.1 h with h | h
  · exact Percent.not_mem_encodeChars hc hp _ h
  · rcases List.mem_cons.1 h with h | h
    · exact he h
    · exact Percent.not_mem_encodeChars hc hp _ h

theorem joinPair_injective {p q : Query.Pair}
    (h : joinPair (encodePair p) = joinPair (encodePair q)) : p = q := by
  have equals (s : List Char) : '=' ∉ Percent.encodeChars s :=
    Percent.not_mem_encodeChars (by decide) (by decide) s
  obtain ⟨hn, hv⟩ := eq_of_append_first (equals _) (equals _) h
  exact encodePair_injective (Prod.ext hn hv)

theorem newline_not_mem_queryChars (ps : List Query.Pair) : '\n' ∉ queryChars ps := by
  intro h
  rcases mem_intercalate h with h | ⟨l, hl, h⟩
  · exact absurd h (by decide)
  · obtain ⟨p, hp, rfl⟩ := List.mem_map.1 hl
    obtain ⟨q, -, rfl⟩ := mem_queryParts hp
    exact not_mem_joinPair (by decide) (by decide) (by decide) q h

theorem perm_of_queryChars {ps qs : List Query.Pair} (h : queryChars ps = queryChars qs) :
    ps.Perm qs := by
  have part : ∀ ps : List Query.Pair, ∀ l ∈ (queryParts ps).map joinPair, '&' ∉ l ∧ l ≠ [] := by
    intro ps l hl
    obtain ⟨p, hp, rfl⟩ := List.mem_map.1 hl
    obtain ⟨q, -, rfl⟩ := mem_queryParts hp
    exact ⟨not_mem_joinPair (by decide) (by decide) (by decide) q, by simp [joinPair]⟩
  have hparts : (queryParts ps).map joinPair = (queryParts qs).map joinPair :=
    intercalate_injective (part ps) (part qs) h
  -- sorting permutes the pairs on both sides, and what is joined is the same list
  have sorted (ps : List Query.Pair) :
      ((queryParts ps).map joinPair).Perm (ps.map fun p => joinPair (encodePair p)) := by
    have hs := (List.mergeSort_perm (ps.map encodePair) ble).map joinPair
    rwa [List.map_map] at hs
  have hperm := (sorted ps).symm.trans (hparts ▸ sorted qs)
  exact (List.map_perm_map_iff fun _ _ => joinPair_injective).1 hperm

theorem ble_iff {a b : Part} : ble a b = true ↔ a.1 < b.1 ∨ a.1 = b.1 ∧ ¬ b.2 < a.2 := by
  simp only [ble, Bool.or_eq_true, Bool.and_eq_true, decide_eq_true_eq, beq_iff_eq]
  rw [List.not_lt, List.le_iff_lt_or_eq]

theorem ble_trans {a b c : Part} (hab : ble a b = true) (hbc : ble b c = true) :
    ble a c = true := by
  rw [ble_iff] at *
  rcases hab with hab | ⟨hab, hab'⟩
  · rcases hbc with hbc | ⟨hbc, -⟩
    · exact Or.inl (List.lt_trans hab hbc)
    · exact Or.inl (hbc ▸ hab)
  · rcases hbc with hbc | ⟨hbc, hbc'⟩
    · exact Or.inl (hab ▸ hbc)
    · rw [List.not_lt] at hab' hbc'
      exact Or.inr ⟨hab.trans hbc, List.not_lt.2 (List.le_trans hab' hbc')⟩

theorem ble_total (a b : Part) : (ble a b || ble b a) = true := by
  rw [Bool.or_eq_true, ble_iff, ble_iff]
  by_cases hab : a.1 < b.1
  · exact Or.inl (Or.inl hab)
  · by_cases hba : b.1 < a.1
    · exact Or.inr (Or.inl hba)
    · have heq : a.1 = b.1 := List.le_antisymm (List.not_lt.1 hba) (List.not_lt.1 hab)
      by_cases h : b.2 < a.2
      · exact Or.inr (Or.inr ⟨heq.symm, List.lt_asymm h⟩)
      · exact Or.inl (Or.inr ⟨heq, h⟩)

theorem ble_antisymm {a b : Part} (hab : ble a b = true) (hba : ble b a = true) : a = b := by
  rw [ble_iff] at *
  rcases hab with hab | ⟨hab, hab'⟩
  · rcases hba with hba | ⟨hba, -⟩
    · exact absurd hba (List.lt_asymm hab)
    · exact absurd (hba ▸ hab) (List.lt_irrefl _)
  · rcases hba with hba | ⟨-, hba'⟩
    · exact absurd (hab ▸ hba) (List.lt_irrefl _)
    · exact Prod.ext hab (List.le_antisymm (List.not_lt.1 hab') (List.not_lt.1 hba'))

theorem queryParts_sorted (ps : List Query.Pair) :
    (queryParts ps).Pairwise fun a b => ble a b = true := by
  apply List.pairwise_mergeSort
  · exact fun _ _ _ => ble_trans
  · exact ble_total

theorem queryChars_of_perm {ps qs : List Query.Pair} (h : ps.Perm qs) :
    queryChars ps = queryChars qs := by
  have hp : (queryParts ps).Perm (queryParts qs) :=
    ((List.mergeSort_perm _ _).trans (h.map encodePair)).trans (List.mergeSort_perm _ _).symm
  have hq : queryParts ps = queryParts qs :=
    hp.eq_of_pairwise (fun _ _ _ _ => ble_antisymm) (queryParts_sorted ps) (queryParts_sorted qs)
  rw [queryChars, queryChars, hq]

/-- The order of encoded pairs: by the names, then by the values. -/
def Precedes (p q : String × String) : Prop := p.1 < q.1 ∨ p.1 = q.1 ∧ p.2 ≤ q.2

theorem Precedes.antisymm {p q : String × String} (h : Precedes p q) (h' : Precedes q p) :
    p = q := by
  rcases h with h | ⟨names, values⟩
  · rcases h' with h' | ⟨names, -⟩
    · exact absurd h' (String.lt_asymm h)
    · exact absurd (names ▸ h) (String.lt_irrefl _)
  · rcases h' with h' | ⟨-, values'⟩
    · exact absurd (names ▸ h') (String.lt_irrefl _)
    · exact Prod.ext names (String.le_antisymm values values')

/-- A text of the pairs, each part in the percent encoding, sorted and joined. -/
def JoinsSorted (ps : List Query.Pair) (text : String) : Prop :=
  ∃ parts : List (String × String),
    parts.Perm (ps.map fun p => (Percent.encode p.1, Percent.encode p.2)) ∧
      parts.Pairwise Precedes ∧
      text = "&".intercalate (parts.map fun p => p.1 ++ "=" ++ p.2)

def textPart (p : Part) : String × String := (String.ofList p.1, String.ofList p.2)

theorem precedes_of_ble {a b : Part} (h : ble a b = true) :
    Precedes (textPart a) (textPart b) := by
  have lists : ∀ s t : List Char, s < t ↔ String.ofList s < String.ofList t := by
    intro s t
    change s < t ↔ (String.ofList s).toList < (String.ofList t).toList
    rw [String.toList_ofList, String.toList_ofList]
  rcases ble_iff.1 h with names | ⟨names, values⟩
  · exact Or.inl ((lists a.1 b.1).1 names)
  · refine Or.inr ⟨congrArg String.ofList names, ?_⟩
    rwa [lists, String.not_lt] at values

theorem joinsSorted_queryChars (ps : List Query.Pair) :
    JoinsSorted ps (String.ofList (queryChars ps)) := by
  refine ⟨(queryParts ps).map textPart, ?_, ?_, ?_⟩
  · have sorted := (List.mergeSort_perm (ps.map encodePair) ble).map textPart
    rwa [List.map_map] at sorted
  · rw [List.pairwise_map]
    exact (queryParts_sorted ps).imp precedes_of_ble
  · apply String.toList_inj.1
    rw [String.toList_ofList, String.toList_intercalate, queryChars, List.map_map, List.map_map]
    simp [Function.comp_def, textPart]

theorem JoinsSorted.unique {ps : List Query.Pair} {s t : String} (hs : JoinsSorted ps s)
    (ht : JoinsSorted ps t) : s = t := by
  obtain ⟨parts, perm, sorted, rfl⟩ := hs
  obtain ⟨parts', perm', sorted', rfl⟩ := ht
  have same : parts = parts' :=
    (perm.trans perm'.symm).eq_of_pairwise (fun _ _ _ _ => Precedes.antisymm) sorted sorted'
  rw [same]

theorem newline_not_mem_valueText {value : Bytes} {t : String} (h : valueText value = .ok t) :
    '\n' ∉ t.toList := by
  rw [valueText] at h
  split at h
  · next s hs =>
    cases h
    rw [Blank.trim, String.toList_ofList]
    intro hn
    exact Headers.newline_not_mem_textOf? hs (Blank.mem_trimBy hn)
  · cases h

theorem line_eq_ok {h : Headers} {name l : String} (hl : line h name = .ok l) :
    ∃ values, (h.getAll name).mapM valueText = .ok values ∧
      l = name ++ ":" ++ ",".intercalate values := by
  obtain ⟨values, hv, hl⟩ := bind_eq_ok hl
  cases hl
  exact ⟨values, hv, rfl⟩

theorem newline_not_mem_line {h : Headers} {name l : String} (hn : Headers.isName name = true)
    (hl : line h name = .ok l) : '\n' ∉ l.toList := by
  obtain ⟨values, hv, rfl⟩ := line_eq_ok hl
  simp only [Headers.isName, Bool.and_eq_true, List.all_eq_true] at hn
  simp only [String.toList_append, String.toList_intercalate, List.mem_append, not_or]
  refine ⟨⟨fun hm => absurd (hn.2 _ hm) (by decide), by decide⟩, fun hm => ?_⟩
  rcases mem_intercalate hm with hm | ⟨v, hm, hc⟩
  · exact absurd hm (by decide)
  · obtain ⟨t, ht, rfl⟩ := List.mem_map.1 hm
    obtain ⟨value, -, hvalue⟩ := exists_of_mem_mapM hv ht
    exact newline_not_mem_valueText hvalue hc

theorem names_injective {h k : Headers} (hn : names h = names k) :
    signedNames h = signedNames k := by
  have part : ∀ h : Headers, ∀ l ∈ (signedNames h).map String.toList, ';' ∉ l ∧ l ≠ [] := by
    intro h l hl
    obtain ⟨name, hm, rfl⟩ := List.mem_map.1 hl
    have hname := Headers.isName_of_mem_names (mem_signedNames.1 hm).1
    simp only [Headers.isName, Bool.and_eq_true, List.all_eq_true] at hname
    refine ⟨fun hc => absurd (hname.2 _ hc) (by decide), ?_⟩
    simpa [← String.toList_eq_nil_iff] using hname.1.1
  have hl := congrArg String.toList hn
  rw [names, names, String.toList_intercalate, String.toList_intercalate] at hl
  have hs := intercalate_injective (part h) (part k) hl
  exact (List.map_inj_right fun _ _ => String.toList_inj.1).1 hs

theorem newline_not_mem_names (h : Headers) : '\n' ∉ (names h).toList := by
  intro hn
  refine forall_mem_intercalate (p := ('\n' ≠ ·)) (by decide) (fun name hm c hc => ?_) _ hn rfl
  have hname := Headers.isName_of_mem_names (mem_signedNames.1 hm).1
  simp only [Headers.isName, Bool.and_eq_true, List.all_eq_true] at hname
  rintro rfl
  exact absurd (hname.2 _ hc) (by decide)

theorem text_eq_ok {r : Request} {h : Headers} {payload t : String}
    (ht : text r h payload = .ok t) :
    ∃ ls, (signedNames h).mapM (line h) = .ok ls ∧
      t.toList = r.method.toList ++ '\n' :: (pathChars r.url ++ '\n' ::
        (queryChars r.url.pairs ++ '\n' ::
          ((['\n'].intercalate (ls.map String.toList) ++ ['\n'] ++ '\n' :: (names h).toList) ++
            '\n' :: payload.toList))) := by
  obtain ⟨_, hlines, ht⟩ := bind_eq_ok ht
  obtain ⟨ls, hls, hlines⟩ := bind_eq_ok hlines
  cases hlines
  cases ht
  refine ⟨ls, hls, ?_⟩
  simp [String.toList_intercalate]

theorem lines_injective {h k : Headers} {ls : List String} (hn : signedNames h = signedNames k)
    (hh : (signedNames h).mapM (line h) = .ok ls) (hk : (signedNames k).mapM (line k) = .ok ls) :
    ∀ name ∈ signedNames h, line h name = line k name := by
  have hl := (mapM_eq_ok hh).trans (mapM_eq_ok hk).symm
  rwa [← hn, List.map_inj_left] at hl

theorem line_part {h : Headers} {ls : List String}
    (hls : (signedNames h).mapM (line h) = .ok ls) :
    ∀ l ∈ ls.map String.toList, '\n' ∉ l ∧ l ≠ [] := by
  intro l hl
  obtain ⟨t, ht, rfl⟩ := List.mem_map.1 hl
  obtain ⟨name, hn, hline⟩ := exists_of_mem_mapM hls ht
  have hname := Headers.isName_of_mem_names (mem_signedNames.1 hn).1
  refine ⟨newline_not_mem_line hname hline, ?_⟩
  obtain ⟨values, -, rfl⟩ := line_eq_ok hline
  simp

theorem values_of_line {h k : Headers} {name l : String} (hh : line h name = .ok l)
    (hk : line k name = .ok l) :
    ∃ v w, (h.getAll name).mapM valueText = .ok v ∧ (k.getAll name).mapM valueText = .ok w ∧
      ",".intercalate v = ",".intercalate w := by
  obtain ⟨v, hv, rfl⟩ := line_eq_ok hh
  obtain ⟨w, hw, heq⟩ := line_eq_ok hk
  refine ⟨v, w, hv, hw, ?_⟩
  have hl := congrArg String.toList heq
  simp only [String.toList_append] at hl
  exact String.toList_inj.1 (List.append_cancel_left hl)

theorem pathChars_of_isWeb {u : Url} (h : u.IsWeb) : pathChars u = u.pathChars := by
  rw [pathChars, if_neg]
  simpa using h.pathChars_ne_nil

/-- What two requests share that have one canonical request. -/
structure Indistinct (r₁ r₂ : Request) (h₁ h₂ : Headers) (payload₁ payload₂ : String) :
    Prop where
  method : r₁.method = r₂.method
  path : r₁.url.pathChars = r₂.url.pathChars
  pairs : r₁.url.pairs.Perm r₂.url.pairs
  names : ∀ name, isSigned name = true → (name ∈ h₁.names ↔ name ∈ h₂.names)
  values : ∀ name ∈ h₁.names, isSigned name = true → ∃ v w,
    (h₁.getAll name).mapM valueText = .ok v ∧ (h₂.getAll name).mapM valueText = .ok w ∧
      ",".intercalate v = ",".intercalate w
  payload : payload₁ = payload₂

variable {r₁ r₂ : Request} {h₁ h₂ : Headers} {payload₁ payload₂ t : String}

theorem indistinct_of_text (web₁ : r₁.url.IsWeb) (web₂ : r₂.url.IsWeb)
    (method₁ : Request.IsMethod r₁.method) (method₂ : Request.IsMethod r₂.method)
    (hp₁ : '\n' ∉ payload₁.toList) (hp₂ : '\n' ∉ payload₂.toList)
    (text₁ : text r₁ h₁ payload₁ = .ok t) (text₂ : text r₂ h₂ payload₂ = .ok t) :
    Indistinct r₁ r₂ h₁ h₂ payload₁ payload₂ := by
  obtain ⟨ls₁, lines₁, cut₁⟩ := text_eq_ok text₁
  obtain ⟨ls₂, lines₂, cut₂⟩ := text_eq_ok text₂
  rw [cut₁, pathChars_of_isWeb web₁, pathChars_of_isWeb web₂] at cut₂
  -- three parts are cut off in front, two behind, and what is left are the lines
  obtain ⟨hmethod, cut₂⟩ := eq_of_append_first (Request.newline_not_mem_method method₁)
    (Request.newline_not_mem_method method₂) cut₂
  obtain ⟨hpath, cut₂⟩ := eq_of_append_first web₁.newline_not_mem web₂.newline_not_mem cut₂
  obtain ⟨hquery, cut₂⟩ := eq_of_append_first (newline_not_mem_queryChars _)
    (newline_not_mem_queryChars _) cut₂
  obtain ⟨cut₂, hpayload⟩ := eq_of_append_last hp₁ hp₂ cut₂
  obtain ⟨hlines, hnames⟩ := eq_of_append_last (newline_not_mem_names h₁)
    (newline_not_mem_names h₂) cut₂
  have names := names_injective (String.toList_inj.1 hnames)
  have hls := intercalate_injective (line_part lines₁) (line_part lines₂)
    (List.append_cancel_right hlines)
  rw [← (List.map_inj_right fun _ _ => String.toList_inj.1).1 hls] at lines₂
  have same := lines_injective names lines₁ lines₂
  refine ⟨String.toList_inj.1 hmethod, hpath, perm_of_queryChars hquery, ?_, ?_,
    String.toList_inj.1 hpayload⟩
  · intro name hs
    have hm : name ∈ signedNames h₁ ↔ name ∈ signedNames h₂ := by rw [names]
    simpa only [mem_signedNames, hs, and_true] using hm
  · intro name hn hs
    have hm := mem_signedNames.2 ⟨hn, hs⟩
    obtain ⟨l, hl⟩ := exists_mapM_ok_iff.1 ⟨ls₁, lines₁⟩ name hm
    exact values_of_line hl ((same name hm).symm.trans hl)

end Canonical

namespace V4

variable {r₁ r₂ : Request} {c₁ c₂ : Credentials} {now₁ now₂ : Instant} {k₁ k₂ : Headers}
variable {payload₁ payload₂ canonical : String}

theorem newline_not_mem_payloadDigest {r : Request} {h : Headers} {payload : String}
    (hp : payloadDigest r h = .ok payload) : '\n' ∉ payload.toList :=
  Headers.newline_not_mem_textOf? (textOf?_payloadDigest hp)

/-- Two signings that make one canonical request make it of the same method, path, parameters up to
their order, signed headers with their values, and digest of the body. -/
theorem prepare_unambiguous (web₁ : r₁.url.IsWeb) (web₂ : r₂.url.IsWeb)
    (method₁ : Request.IsMethod r₁.method) (method₂ : Request.IsMethod r₂.method)
    (prepared₁ : prepare r₁ c₁ now₁ r₁.headers = .ok (payload₁, canonical) k₁)
    (prepared₂ : prepare r₂ c₂ now₂ r₂.headers = .ok (payload₂, canonical) k₂) :
    Canonical.Indistinct r₁ r₂ k₁ k₂ payload₁ payload₂ := by
  obtain ⟨_, -, digest₁, -, text₁⟩ := prepare_eq_ok prepared₁
  obtain ⟨_, -, digest₂, -, text₂⟩ := prepare_eq_ok prepared₂
  exact Canonical.indistinct_of_text web₁ web₂ method₁ method₂
    (newline_not_mem_payloadDigest digest₁) (newline_not_mem_payloadDigest digest₂) text₁ text₂

/-- The canonical request has nothing else of a request in it. -/
theorem prepare_congr {h : Headers} (method : r₁.method = r₂.method)
    (host : hostOf r₁.url = hostOf r₂.url) (path : r₁.url.pathChars = r₂.url.pathChars)
    (query : r₁.url.pairs.Perm r₂.url.pairs)
    (body : r₁.body = r₂.body) : prepare r₁ c₁ now₁ h = prepare r₂ c₁ now₁ h := by
  have hd : payloadDigest r₁ = payloadDigest r₂ := by
    funext k
    rw [payloadDigest, payloadDigest, body]
  have ht : Canonical.text r₁ = Canonical.text r₂ := by
    funext k payload
    rw [Canonical.text, Canonical.text, Canonical.pathChars, Canonical.pathChars, method, path,
      Canonical.queryChars_of_perm query]
  rw [prepare, prepare, hd, host, ht]

theorem prepare_unambiguous_of_reordered : ∃ u₁ u₂ payload canonical k₁ k₂,
    Url.read "https://bucket.tos-cn-beijing.volces.com/a%20b.txt?b=&a=1" = .ok u₁ ∧
      Url.read "https://bucket.tos-cn-beijing.volces.com/a%20b.txt?a=1&b" = .ok u₂ ∧
      u₁.pairs ≠ u₂.pairs ∧
      prepare (.new "GET" u₁) (.new "AKTEST" "secret") (.ofSeconds 1704067200) .empty =
        .ok (payload, canonical) k₁ ∧
      prepare (.new "GET" u₂) (.new "AKTEST" "secret") (.ofSeconds 1704067200) .empty =
        .ok (payload, canonical) k₂ ∧
      Canonical.Indistinct (.new "GET" u₁) (.new "GET" u₂) k₁ k₂ payload payload := by
  have parts₁ : (Url.read "https://bucket.tos-cn-beijing.volces.com/a%20b.txt?b=&a=1").toOption.map
      (fun u => (u.scheme, u.authority?, u.pathChars, u.pairs)) =
      some ("https", some "bucket.tos-cn-beijing.volces.com", "/a%20b.txt".toList,
        [("b", ""), ("a", "1")]) := by
    decide +kernel
  have parts₂ : (Url.read "https://bucket.tos-cn-beijing.volces.com/a%20b.txt?a=1&b").toOption.map
      (fun u => (u.scheme, u.authority?, u.pathChars, u.pairs)) =
      some ("https", some "bucket.tos-cn-beijing.volces.com", "/a%20b.txt".toList,
        [("a", "1"), ("b", "")]) := by
    decide +kernel
  obtain ⟨u₁, read₁, parts₁⟩ := exists_of_toOption_map parts₁
  obtain ⟨u₂, read₂, parts₂⟩ := exists_of_toOption_map parts₂
  simp only [Prod.mk.injEq] at parts₁ parts₂
  obtain ⟨scheme₁, host₁, path₁, pairs₁⟩ := parts₁
  obtain ⟨scheme₂, host₂, path₂, pairs₂⟩ := parts₂
  have hostOf₁ : hostOf u₁ = .ok "bucket.tos-cn-beijing.volces.com" := by rw [hostOf, host₁]
  have hostOf₂ : hostOf u₂ = .ok "bucket.tos-cn-beijing.volces.com" := by rw [hostOf, host₂]
  have preparable : Preparable (.new "GET" u₁) (Credentials.new "AKTEST" "secret").token :=
    preparable_of_plain hostOf₁ (by decide) (fun t ht => by cases ht) (fun _ _ v hv => by cases hv)
  obtain ⟨payload, canonical, k, prepared₁⟩ := preparable.prepare_ok (.ofSeconds 1704067200)
  have reordered : u₂.pairs.Perm u₁.pairs := by
    rw [pairs₁, pairs₂]
    exact .swap _ _ []
  have prepared₂ : prepare (.new "GET" u₂) (.new "AKTEST" "secret") (.ofSeconds 1704067200)
      .empty = .ok (payload, canonical) k := by
    have same : prepare (.new "GET" u₂) (.new "AKTEST" "secret") (.ofSeconds 1704067200) .empty =
        prepare (.new "GET" u₁) (.new "AKTEST" "secret") (.ofSeconds 1704067200) .empty :=
      prepare_congr rfl (hostOf₂.trans hostOf₁.symm) (path₂.trans path₁.symm) reordered rfl
    exact same.trans prepared₁
  have get : Request.IsMethod "GET" := by decide
  refine ⟨u₁, u₂, payload, canonical, k, k, read₁, read₂, ?_, prepared₁, prepared₂, ?_⟩
  · rw [pairs₁, pairs₂]
    decide
  · exact prepare_unambiguous (.read read₁ (Or.inr scheme₁)) (.read read₂ (Or.inr scheme₂))
      get get prepared₁ prepared₂

end V4

end ObjectStorage
