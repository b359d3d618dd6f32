import ObjectStorage.Proofs.Refusal.Acceptance
import ObjectStorage.Proofs.Xml.Writing

/-!
# Refusals in JSON and in XML

One refusal has many texts: an object with its members in any order and with others among them, and
a document with its elements in any order, each without the fields that are empty. All of them are
told as the same error.
-/
namespace ObjectStorage.Refusal

open Json Xml

/-- An object that gives a refusal. Its other members may have values of any kind. -/
def IsJsonOf (r : Refusal) (text : List Char) : Prop :=
  ∃ ms, ObjectText (Utf8.encode text) ms ∧ Regular ms ∧ ofMembers ms = r

/-- A document of the root `Error` that gives a refusal. Its other elements may have content of any
kind behind their first data. -/
def IsXmlOf (r : Refusal) (text : List Char) : Prop :=
  ∃ ms, DocumentText "Error" ms text ∧ (∀ m ∈ ms, m.2 ≠ none → m.1 ∈ fieldNames) ∧ Regular ms ∧
    ofMembers ms = r

variable {r : Refusal} {text : List Char} {ms : List (String × Option String)}

theorem mem_of_told {key value : String} (known : key ∈ fieldNames)
    (told : told? ms key = some value) :
    value ∈ [(ofMembers ms).code, (ofMembers ms).message, (ofMembers ms).requestId,
      (ofMembers ms).hostId] := by
  simp only [fieldNames, List.mem_cons, List.not_mem_nil, or_false] at known
  rcases known with rfl | rfl | rfl | rfl <;> simp [ofMembers, told]

theorem IsXmlOf.read (h : IsXmlOf r text)
    (trimmed : ∀ v ∈ [r.code, r.message, r.requestId, r.hostId], Trimmed v.toList) :
    (ofJson? text <|> ofXml? text) = some r := by
  obtain ⟨ms, document, known, regular, rfl⟩ := h
  have asked : ∀ m ∈ ms, (m.1 ∈ fieldNames ↔ m.2 ≠ none) ∧ ∀ v ∈ m.2, Trimmed v.toList := by
    refine fun m hm => ⟨⟨regular.strings m hm, known m hm⟩, fun v hv => ?_⟩
    have field : m.1 ∈ fieldNames := known m hm (Option.ne_none_iff_exists'.2 ⟨v, hv⟩)
    have told : told? ms m.1 = some v := (told?_of_mem regular.once field hm).trans hv
    exact trimmed v (mem_of_told field told)
  have rooted := document.rooted (by decide +kernel) asked
  rw [ofJson?_of_rooted rooted, ofXml?_eq_some_iff.2 ⟨_, _, rooted, regular, rfl⟩]
  rfl

theorem IsJsonOf.read (h : IsJsonOf r text) : (ofJson? text <|> ofXml? text) = some r := by
  obtain ⟨ms, object, regular, rfl⟩ := h
  rw [ofJson?_eq_some_iff.2 (.inl ⟨ms, object, regular, rfl⟩)]
  rfl

theorem toError_of_told (status : Nat) (h : Headers)
    (told : (ofJson? text <|> ofXml? text) = some r) (code : r.code ≠ "") :
    toError status h text = .service status
      { r with
        requestId :=
          if r.requestId = "" then (h.text? "x-tos-request-id").getD "" else r.requestId } := by
  rw [toError, ofText?_of_told told code]
  simp only [String.isEmpty_iff]
  rfl

/-- All texts of one refusal, in JSON and in XML, are told as one error of the service. -/
theorem toError_agree (status : Nat) (h : Headers) (code : r.code ≠ "")
    (trimmed : ∀ v ∈ [r.code, r.message, r.requestId, r.hostId], Trimmed v.toList)
    {json xml : List Char} (hj : IsJsonOf r json) (hx : IsXmlOf r xml) :
    ∃ told : Refusal,
      toError status h json = .service status told ∧
      toError status h xml = .service status told ∧
      told.code = r.code ∧ told.message = r.message ∧ told.hostId = r.hostId ∧
      (r.requestId ≠ "" → told.requestId = r.requestId) ∧
      (r.requestId = "" → told.requestId = (h.text? "x-tos-request-id").getD "") := by
  refine ⟨_, toError_of_told status h hj.read code,
    toError_of_told status h (hx.read trimmed) code, rfl, rfl, rfl, ?_, ?_⟩
  · exact fun given => if_neg given
  · exact fun missing => if_pos missing

/-- An object and a document, each with something else among what it tells; the document has a
declaration, references, and an element without content. Neither has a message. -/
theorem toError_agree_of_missing_key : ∃ (r : Refusal) (json xml : List Char),
    r = ⟨"NoSuchKey", "", "", "<\"h & 1\">"⟩ ∧
    json = "\x7b\"Note\":[],\"HostId\":\"<\\\"h & 1\\\">\",\"Code\":\"NoSuchKey\"\x7d".toList ∧
    xml = ("<?xml version=\"1.0\"?>\n<Error> <HostId>&lt;&quot;h &amp; 1&quot;&gt;</HostId>" ++
      "<RequestId/>\n<Note><b/></Note><Code>NoSuchKey</Code></Error>\n").toList ∧
    IsJsonOf r json ∧ IsXmlOf r xml ∧
    toError 404 .empty json = .service 404 r ∧ toError 404 .empty xml = .service 404 r := by
  let r : Refusal := ⟨"NoSuchKey", "", "", "<\"h & 1\">"⟩
  let v : Value := .object [("Note", .list []), ("HostId", .text r.hostId), ("Code", .text r.code)]
  have json : IsJsonOf r v.printChars := by
    have taken := readTree_iff.1 (readTree_print v [])
    rw [List.append_nil] at taken
    refine ⟨[("Note", none), ("HostId", some r.hostId), ("Code", some r.code)],
      objectText_iff.2 ⟨[("Note", _), ("HostId", _), ("Code", _)], [], taken, rfl, ?_⟩,
      ⟨by decide, by decide⟩, by decide⟩
    exact .cons ⟨rfl, by simp⟩ (.cons ⟨rfl, by simp⟩ (.cons ⟨rfl, by simp⟩ .nil))
  have nothing : IsBlanks [] := List.forall_mem_nil _
  have line : IsBlanks ['\n'] := List.forall_mem_singleton.2 rfl
  have space : IsBlanks [' '] := List.forall_mem_singleton.2 rfl
  have host : ElementText "HostId" (some r.hostId) _ := .full nothing nothing (escaped_escape _)
  have request : ElementText "RequestId" (some "") _ := .empty nothing rfl
  have code : ElementText "Code" (some r.code) _ := .full nothing nothing (escaped_escape _)
  have bold : ContentText ['<', 'b', '/', '>'] :=
    @ContentText.empty ['b'] [] [] (by decide +kernel) nothing .nil
  have tagged : ∀ c ∈ ['<', 'b', '/', '>'].head?, c = '<' := fun _ hc => (Option.mem_some.1 hc).symm
  have note : ElementText "Note" none _ := .other nothing nothing .nil bold tagged
  have start : PrologText _ :=
    .declaration (show '>' ∉ " version=\"1.0\"".toList by decide +kernel) line
  have document : DocumentText "Error" _ _ := .mk start nothing nothing line
    (.cons space (by decide +kernel) host (.cons nothing (by decide +kernel) request
      (.cons line (by decide +kernel) note (.cons nothing (by decide +kernel) code
        (.nil nothing)))))
  have xml : IsXmlOf r _ := ⟨_, document, by decide, ⟨by decide, by decide⟩, by decide⟩
  have trimmed : ∀ v ∈ [r.code, r.message, r.requestId, r.hostId], Trimmed v.toList := by
    decide +kernel
  obtain ⟨told, toldJson, toldXml, hc, hm, hh, -, hr⟩ :=
    toError_agree 404 .empty (by decide) trimmed json xml
  have same : told = r := by
    have none : told.requestId = r.requestId := hr rfl
    obtain ⟨c, m, q, o⟩ := told
    cases hc
    cases hm
    cases hh
    cases none
    rfl
  rw [same] at toldJson toldXml
  refine ⟨r, _, _, rfl, ?_, ?_, json, xml, toldJson, toldXml⟩
  · decide +kernel
  · decide +kernel

end ObjectStorage.Refusal
