import Mathlib.Data.List.DropRight
import ObjectStorage.Proofs.Signature.Unambiguous

/-!
# The receiver of a request

A receiver knows the secret and the region. The request tells which headers are signed, when, and
with which digest of the body. Of these the receiver makes the text that was to be signed and the
key it was to be signed with, and accepts the request if the signature in it is the one that comes
out. It shares the hash with the signer and none of the signer's steps.
-/
namespace ObjectStorage.Receiver

def hex (b : Bytes) : String :=
  String.ofList (b.flatMap fun a => [Nat.digitChar (a.toNat / 16), Nat.digitChar (a.toNat % 16)])

/-- The key for one day, in one region, with one service. -/
def keyOf (secret date region : String) : Bytes :=
  let daily := Hmac.authenticate (Utf8.ofString secret) (Utf8.ofString date)
  let regional := Hmac.authenticate daily (Utf8.ofString region)
  let ofService := Hmac.authenticate regional (Utf8.ofString "tos")
  Hmac.authenticate ofService (Utf8.ofString "request")

def dateOf (stamp : String) : String := String.ofList (stamp.toList.take 8)

def scopeOf (region stamp : String) : String := dateOf stamp ++ "/" ++ region ++ "/tos/request"

def signatureOf (secret region stamp canonical : String) : String :=
  hex (Hmac.authenticate (keyOf secret (dateOf stamp) region) (Utf8.ofString
    ("TOS4-HMAC-SHA256\n" ++ stamp ++ "\n" ++ scopeOf region stamp ++ "\n" ++
      hex (Sha256.digest (Utf8.ofString canonical)))))

def isGap (c : Char) : Bool := c == ' ' || c == '\t'

def bare (value : Bytes) : String :=
  String.ofList (((Utf8.toStringLossy value).toList.dropWhile isGap).rdropWhile isGap)

def lineOf (h : Headers) (name : String) : String :=
  name ++ ":" ++ ",".intercalate ((h.getAll name).map bare)

def pathOf (u : Url) : String := if u.pathChars = [] then "/" else String.ofList u.pathChars

/-- The text that is to be signed, with the headers `names` in it. -/
def IsCanonical (r : Request) (names : List String) (digest text : String) : Prop :=
  ∃ query, Canonical.JoinsSorted r.url.pairs query ∧
    text = "\n".intercalate [r.method, pathOf r.url, query,
      "\n".intercalate (names.map (lineOf r.headers)), "", ";".intercalate names, digest]

def cutLast (c : Char) (cs : List Char) : Option (List Char × List Char) :=
  match cs.reverse.dropWhile (· != c) with
  | [] => none
  | _ :: front => some (front.reverse, (cs.reverse.takeWhile (· != c)).reverse)

/-- The names and the signature of an authorization. They are read from its end, since the access
key and the region before them are any text. -/
def readAuthorization? (cs : List Char) : Option (List String × String) := do
  let (front, signature) ← cutLast '=' cs
  let (front, middle) ← cutLast '=' front
  if ", SignedHeaders".toList.isSuffixOf front &&
      middle.dropWhile (· != ',') == ", Signature".toList then
    return (((middle.takeWhile (· != ',')).splitOn ';').map String.ofList, String.ofList signature)
  else none

structure Reading where
  names : List String
  signature : String
  stamp : String
  digest : String

def header? (r : Request) (name : String) : Option String :=
  (r.headers.get? name).bind Utf8.toString?

def read? (r : Request) : Option Reading := do
  let authorization ← header? r "authorization"
  let (names, signature) ← readAuthorization? authorization.toList
  let stamp ← header? r "x-tos-date"
  let digest ← header? r "x-tos-content-sha256"
  return ⟨names, signature, stamp, digest⟩

/-- The request has one text that is to be signed, and states the signature of it. -/
def Accepts (r : Request) (secret region : String) : Prop :=
  ∃ found canonical, read? r = some found ∧
    (∀ text, IsCanonical r found.names found.digest text ↔ text = canonical) ∧
    found.signature = signatureOf secret region found.stamp canonical

theorem IsCanonical.unique {r : Request} {names : List String} {digest text text' : String}
    (h : IsCanonical r names digest text) (h' : IsCanonical r names digest text') :
    text = text' := by
  obtain ⟨query, joined, rfl⟩ := h
  obtain ⟨query', joined', rfl⟩ := h'
  rw [joined.unique joined']

theorem IsCanonical.iff {r : Request} {names : List String} {digest canonical : String}
    (h : IsCanonical r names digest canonical) (text : String) :
    IsCanonical r names digest text ↔ text = canonical :=
  ⟨fun h' => h'.unique h, fun same => same ▸ h⟩

theorem cutLast_append {c : Char} {a b : List Char} (hb : c ∉ b) :
    cutLast c (a ++ c :: b) = some (a, b) := by
  have hr : (a ++ c :: b).reverse = b.reverse ++ c :: a.reverse := by simp
  have hn : ∀ x ∈ b.reverse, (x != c) = true := by
    intro x hx
    rw [bne_iff_ne]
    rintro rfl
    exact hb (List.mem_reverse.1 hx)
  rw [cutLast, hr, List.dropWhile_append_of_pos hn, List.takeWhile_append_of_pos hn]
  simp

def Listable (name : String) : Prop :=
  '=' ∉ name.toList ∧ ';' ∉ name.toList ∧ ',' ∉ name.toList

theorem listable_of_isName {name : String} (h : Headers.isName name = true) : Listable name := by
  simp only [Headers.isName, Bool.and_eq_true, List.all_eq_true] at h
  refine ⟨fun hm => ?_, fun hm => ?_, fun hm => ?_⟩
  · exact absurd (h.2 _ hm) (by decide)
  · exact absurd (h.2 _ hm) (by decide)
  · exact absurd (h.2 _ hm) (by decide)

theorem not_mem_intercalate {c : Char} (hc : c ≠ ';') {names : List String}
    (h : ∀ name ∈ names, c ∉ name.toList) : c ∉ (";".intercalate names).toList := by
  intro hm
  refine Canonical.forall_mem_intercalate (p := (c ≠ ·)) hc (fun name hn x hx => ?_) c hm rfl
  rintro rfl
  exact h name hn hx

theorem splitOn_names {names : List String} (hne : names ≠ [])
    (h : ∀ name ∈ names, ';' ∉ name.toList) :
    ((";".intercalate names).toList.splitOn ';').map String.ofList = names := by
  have hs : (";".intercalate names).toList = [';'].intercalate (names.map String.toList) :=
    String.toList_intercalate
  have hl : ∀ l ∈ names.map String.toList, ';' ∉ l := by
    intro l hm
    obtain ⟨name, hn, rfl⟩ := List.mem_map.1 hm
    exact h name hn
  rw [hs, List.splitOn_intercalate ';' hl (by simpa using hne), List.map_map]
  simp

/-- Names and a signature are found behind any text. -/
theorem readAuthorization?_append {names : List String} (hne : names ≠ [])
    (hl : ∀ name ∈ names, Listable name) {signature : String} (hs : '=' ∉ signature.toList)
    (front : String) :
    readAuthorization? (front ++ ", SignedHeaders=" ++ ";".intercalate names ++ ", Signature=" ++
      signature).toList = some (names, signature) := by
  have cut : (front ++ ", SignedHeaders=" ++ ";".intercalate names ++ ", Signature=" ++
      signature).toList = (front.toList ++ ", SignedHeaders".toList) ++
        '=' :: ((";".intercalate names).toList ++ ", Signature".toList) ++
          '=' :: signature.toList := by
    simp
  have hequals : '=' ∉ (";".intercalate names).toList ++ ", Signature".toList := by
    rw [List.mem_append, not_or]
    exact ⟨not_mem_intercalate (by decide) fun name hn => (hl name hn).1, by decide⟩
  have hcomma : ∀ x ∈ (";".intercalate names).toList, (x != ',') = true := by
    intro x hx
    rw [bne_iff_ne]
    rintro rfl
    exact not_mem_intercalate (by decide) (fun name hn => (hl name hn).2.2) hx
  have hfront : ", SignedHeaders".toList.isSuffixOf
      (front.toList ++ ", SignedHeaders".toList) = true :=
    List.isSuffixOf_iff_suffix.2 (List.suffix_append _ _)
  rw [readAuthorization?, cut, cutLast_append hs]
  simp only [Option.bind_eq_bind, Option.bind_some, cutLast_append hequals, hfront,
    List.dropWhile_append_of_pos hcomma, List.takeWhile_append_of_pos hcomma]
  have hw : (", Signature".toList.dropWhile (· != ',') == ", Signature".toList) = true := by decide
  have ht : ", Signature".toList.takeWhile (· != ',') = [] := by decide
  rw [hw, ht, List.append_nil, splitOn_names hne fun name hn => (hl name hn).2.1]
  simp

theorem header?_of_getAll {r : Request} {name t : String}
    (h : r.headers.getAll name = [Utf8.ofString t]) : header? r name = some t := by
  rw [header?, Headers.get?, h, List.head?_cons, Option.bind_some, Utf8.toString?_ofString]

end ObjectStorage.Receiver
