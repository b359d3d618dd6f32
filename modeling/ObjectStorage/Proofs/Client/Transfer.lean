import ObjectStorage.Proofs.Client.Exchange

/-!
# Transfers with checksums

A client that checks takes a content for good only if the response that it was answered with does
not speak against it, and reports a response that does: `transfer_checked`. What an upload sends,
what it states of it and what it compares belong to one content.
-/
namespace ObjectStorage

namespace Checksum

/-- What is wrong with the text of a checksum that is not ours. -/
def fault (operation text : String) (ours : Nat) : DocumentProblem :=
  match Decimal.word? (Blank.trimChars text.toList) with
  | none => .unreadableChecksum operation text
  | some theirs => .checksumMismatch operation ours theirs

variable {h : Headers} {ours : Nat} {operation text : String}

theorem verify_eq_ok_iff :
    verify h ours operation = .ok () ↔
      ∀ text, h.text? header = some text → ofText? text = some ours := by
  rw [verify]
  rcases h.text? header with - | text
  · simp
  · simp only [Option.some.injEq, forall_eq']
    rcases ofText? text with - | theirs
    · simp
    · by_cases same : theirs = ours
      · simp [same]
      · simp [same]

theorem verify_eq_fault (ht : h.text? header = some text) (hn : ofText? text ≠ some ours) :
    verify h ours operation = .error (.document (fault operation text ours)) := by
  rw [verify, fault, ht, ← ofText?]
  simp only
  rcases hp : ofText? text with - | theirs
  · rfl
  · have differ : theirs ≠ ours := by
      rintro rfl
      exact hn hp
    simp only [if_neg differ]

theorem stated?_of_agree (ha : ∀ text, h.text? header = some text → ofText? text = some ours) :
    stated? h = none ∨ stated? h = some ours := by
  rw [stated?]
  rcases ht : h.text? header with - | text
  · exact Or.inl rfl
  · exact Or.inr (ha text ht)

end Checksum

namespace Response

/-- The first checksum that the response states, if it is text. -/
def States (r : Response) (text : String) : Prop :=
  (r.headers.getAll "x-tos-hash-crc64ecma").head? = some (Utf8.ofString text) ∧
    ∀ c ∈ text.toList, Headers.IsShown c

/-- Nothing that the response says in its checksum speaks against the content. -/
def Vouches (r : Response) (content : Bytes) : Prop :=
  ∀ text, r.States text →
    Decimal.word? (Blank.trimChars text.toList) = some (Crc64.checksum content).toNat

/-- An answer with the text of a checksum that is not the one of the content. -/
structure Disputes (r : Response) (content : Bytes) (text : String) : Prop where
  accepted : r.status < 400
  states : r.States text
  differs : Decimal.word? (Blank.trimChars text.toList) ≠ some (Crc64.checksum content).toNat

/-- A content that was taken for good, with what is told of its checksum. -/
structure Confirms (r : Response) (content : Bytes) (told : Option Nat) : Prop where
  accepted : r.status < 400
  vouches : r.Vouches content
  told_eq : told = none ∨ told = some (Crc64.checksum content).toNat

theorem states_iff {r : Response} {text : String} :
    r.States text ↔ r.headers.text? Checksum.header = some text := by
  rw [States, Headers.text?, Option.bind_eq_some_iff]
  constructor
  · rintro ⟨value, shown⟩
    exact ⟨_, value, Headers.textOf?_of_shown shown⟩
  · rintro ⟨value, found, text⟩
    obtain ⟨rfl, shown⟩ := Headers.textOf?_eq_some_iff.1 text
    exact ⟨found, shown⟩

end Response

namespace Client

variable {c : Client} {ctx : Context} {ms ms' : List Moment} {s s' : Surroundings}
variable {guess : String → Option String} {bucket key operation text : String}
variable {content : Bytes} {response : Response}

theorem verify_eq_ok_iff (on : c.config.checksums = true) :
    c.verify response.headers content operation = .ok () ↔ response.Vouches content := by
  rw [verify, if_pos on, Checksum.verify_eq_ok_iff]
  simp only [← Response.states_iff]
  rfl

theorem verify_eq_fault (on : c.config.checksums = true) (d : response.Disputes content text) :
    c.verify response.headers content operation =
      .error (.document (Checksum.fault operation text (Crc64.checksum content).toNat)) := by
  rw [verify, if_pos on]
  exact Checksum.verify_eq_fault (Response.states_iff.1 d.states) d.differs

theorem confirms_of_verify (on : c.config.checksums = true) (answer : response.isAnswer = true)
    (hv : c.verify response.headers content operation = .ok ()) :
    response.Confirms content (ObjectInfo.ofHeaders response.headers).checksum := by
  have vouches := (verify_eq_ok_iff on).1 hv
  exact ⟨of_decide_eq_true answer, vouches,
    Checksum.stated?_of_agree fun text stated => vouches text (Response.states_iff.2 stated)⟩

def download (c : Client) (r : Response) : Call ObjectAnswer := do
  let content ← r.content
  Call.ofExcept (c.verify r.headers content "GetObject")
  return .ofParts r.headers content

def judged (c : Client) (r : Response) (body : Except Error Bytes) : Except Error ObjectAnswer :=
  body.bind fun content =>
    (c.verify r.headers content "GetObject").map fun _ => .ofParts r.headers content

theorem download_eq (c : Client) (r : Response) :
    c.download r =
      ((Body.read r.body).bind fun body => .done (c.judged r body) :
        Task (Except Error ObjectAnswer)) := by
  refine congrArg (Task.bind (Body.read r.body)) (funext fun body => ?_)
  cases body with
  | error e => rfl
  | ok content =>
    change (Call.ofExcept (c.verify r.headers content "GetObject") >>= fun _ =>
      pure (.ofParts r.headers content) : Call ObjectAnswer) = _
    rw [judged, Except.bind]
    rcases c.verify r.headers content "GetObject" with e | _
    · rfl
    · rfl

theorem judged_eq_ok (on : c.config.checksums = true) (answer : response.isAnswer = true)
    {a : ObjectAnswer} (h : c.judged response (.ok content) = .ok a) :
    response.Confirms a.content a.info.checksum ∧ a.content = content := by
  obtain ⟨⟨⟩, verified, rfl⟩ := map_eq_ok h
  exact ⟨confirms_of_verify on answer verified, rfl⟩

theorem judged_eq_fault (on : c.config.checksums = true) (d : response.Disputes content text) :
    c.judged response (.ok content) =
      .error (.document (Checksum.fault "GetObject" text (Crc64.checksum content).toNat)) :=
  congrArg (Except.map _) (verify_eq_fault on d)

/-- What a download has to do with the responses that it was answered with. -/
structure Judged (c : Client) (s : Surroundings) (result : Except Error ObjectAnswer)
    (s' : Surroundings) : Prop where
  answered : ∀ a, result = .ok a → ∃ response, s.Answered s' response ∧
    response.isAnswer = true ∧ ∃ content, response.body.whole = some (.ok content) ∧
      c.judged response (.ok content) = .ok a
  judged : ∀ response, s.Answered s' response → response.isAnswer = true →
    ∃ body, response.body.whole = some body ∧ c.judged response body = result

theorem ensures_download (c : Client) (caller : CancelToken) {s₀ s : Surroundings}
    {outcome : Except Error Response} (fair : Fair s₀ outcome s) :
    Task.Ensures (α := Except Error ObjectAnswer) caller (c.Judged s₀)
      (ExceptT.bindCont (m := Task) c.download outcome) s := by
  cases outcome with
  | error e =>
    refine ⟨fun a ha => (by cases ha), fun response answered answer => ?_⟩
    cases (fair response).2 ⟨answered, answer⟩
  | ok response =>
    obtain ⟨answered, answer⟩ := (fair response).1 rfl
    change Task.Ensures caller (c.Judged s₀) (c.download response) s
    rw [download_eq]
    refine Task.Ensures.bind (Body.ensures_read fun body whole => ⟨fun a ha => ?_, ?_⟩)
    · rcases body with e | content
      · cases ha
      · exact ⟨response, answered, answer, content, whole, ha⟩
    · intro other answered' answer'
      cases (fair other).2 ⟨answered', answer'⟩
      exact ⟨body, whole, rfl⟩

theorem getObject_judged {result : Except Error ObjectAnswer}
    (hrun : c.getObject ctx ms bucket key s = (some result, s')) :
    result = .error .canceled ∨ result = .error .deadlineExceeded ∨ c.Judged s result s' := by
  cases ms with
  | nil => cases hrun
  | cons m ms =>
    have sent := ensures_send c (objectOperation "GET" bucket key) ctx.token s
    exact Task.runUntil_ensures
      (Task.Ensures.bind (sent.imp fun outcome s₁ fair => ensures_download c ctx.token fair)) hrun

/-- Moments at which the context does not end a run. -/
def Calm (c : Client) (ctx : Context) (ms : List Moment) (s : Surroundings) : Prop :=
  ∀ m ∈ ms.head?, Undisturbed ctx.token
    (ctx.effectiveDeadline m.time (some c.config.requestTimeout)) ms s

/-- A download whose response has come ends with what its body says. -/
theorem getObject_of_execute {body : Except Error Bytes}
    (hrun : c.execute ctx ms (objectOperation "GET" bucket key) s = (some (.ok response), s'))
    (calm : c.Calm ctx (ms ++ ms') s') (whole : response.body.whole = some body)
    (enough : response.body.pauses ≤ ms'.length) :
    c.getObject ctx (ms ++ ms') bucket key s = (some (c.judged response body), s') := by
  cases ms with
  | nil => cases hrun
  | cons m ms =>
    have u := calm m rfl
    obtain ⟨k, hk, later⟩ := Task.runUntil_bind
      (f := ExceptT.bindCont (m := Task) c.download)
      (fun m' hm => u.moments m' (List.mem_append_left ms' hm)) u.silent hrun ms'
    have left : response.body.pauses < ((m :: ms ++ ms').drop k).length := by
      rw [List.length_drop, List.length_append]
      omega
    refine later.trans ?_
    change Task.runUntil ctx.token _ _ (c.download response) s' = _
    rw [download_eq, Body.runUntil_read (u.drop k rfl) whole left]
    have last : ((m :: ms ++ ms').drop k).drop response.body.pauses ≠ [] := by
      rw [Ne, List.drop_eq_nil_iff]
      omega
    obtain ⟨m', rest, hm⟩ := List.exists_cons_of_ne_nil last
    have u' := (u.drop k rfl).drop response.body.pauses rfl
    rw [hm] at u' ⊢
    exact Task.runUntil_ready u' rfl

def stored (c : Client) (content : Bytes) (r : Response) : Except Error ObjectInfo :=
  (c.verify r.headers content "PutObject").map fun _ => .ofHeaders r.headers

theorem stored_eq_ok (on : c.config.checksums = true) (answer : response.isAnswer = true)
    {info : ObjectInfo} (h : c.stored content response = .ok info) :
    response.Confirms content info.checksum := by
  obtain ⟨⟨⟩, verified, rfl⟩ := map_eq_ok h
  exact confirms_of_verify on answer verified

theorem stored_eq_fault (on : c.config.checksums = true) (d : response.Disputes content text) :
    c.stored content response =
      .error (.document (Checksum.fault "PutObject" text (Crc64.checksum content).toNat)) :=
  congrArg (Except.map _) (verify_eq_fault on d)

theorem putObject_of_execute {outcome : Except Error Response}
    (he : c.execute ctx ms (c.putOperation guess bucket key content) s = (some outcome, s')) :
    c.putObject ctx ms guess bucket key content s =
      (some (outcome.bind (c.stored content)), s') := by
  rw [putObject, he]
  rfl

theorem exists_execute {result : Except Error ObjectInfo}
    (hrun : c.putObject ctx ms guess bucket key content s = (some result, s')) :
    ∃ outcome,
      c.execute ctx ms (c.putOperation guess bucket key content) s = (some outcome, s') ∧
        result = outcome.bind (c.stored content) := by
  rcases he : c.execute ctx ms (c.putOperation guess bucket key content) s with
    ⟨- | outcome, after⟩
  · rw [putObject, he] at hrun
    cases hrun
  · rw [putObject_of_execute he] at hrun
    cases hrun
    exact ⟨outcome, rfl, rfl⟩

theorem execute_fair {o : Operation} {outcome : Except Error Response}
    (hrun : c.execute ctx ms o s = (some outcome, s')) :
    outcome = .error .canceled ∨ outcome = .error .deadlineExceeded ∨ Fair s outcome s' := by
  cases ms with
  | nil => cases hrun
  | cons m ms => exact Task.runUntil_ensures (ensures_send c o ctx.token s) hrun

/-- A signer that only attaches the headers of its scheme: what is sent, and what is said of its
checksum, stay as they are. -/
def KeepsPayload (signer : Signer) : Prop :=
  ∀ r k region now r', signer.sign r k region now = .ok r' →
    r'.body = r.body ∧ r'.headers.getAll "x-tos-hash-crc64ecma" =
      r.headers.getAll "x-tos-hash-crc64ecma"

theorem keepsPayload_v4 : KeepsPayload .v4 := by
  intro r k region now r' hs
  obtain ⟨_, _, _, h, -, -, rfl, signed⟩ := V4.signed_of_sign (Signer.signV4_eq_ok.1 hs)
  exact ⟨rfl, (signed.agree Checksum.header (by decide)).symm⟩

def Bears (content : Bytes) (r : Request) : Prop :=
  r.body = some content ∧
    r.headers.getAll "x-tos-hash-crc64ecma" =
      [Utf8.ofString (toString (Crc64.checksum content).toNat)]

theorem Bears.stamp {key : Option Credentials} {base r : Request} {now : Instant}
    (h : Bears content base) (keeps : key = none ∨ KeepsPayload c.signer)
    (hs : c.stamp key base now = .ok r) : Bears content r := by
  cases key with
  | none =>
    cases hs
    exact h
  | some k =>
    obtain ⟨body, headers⟩ := keeps.resolve_left (Option.some_ne_none k) _ _ _ _ _ hs
    exact ⟨body.trans h.1, headers.trans h.2⟩

theorem bears_of_putOperation {base : Request} (on : c.config.checksums = true)
    (hr : (c.putOperation guess bucket key content).request c.config = .ok base) :
    Bears content base := by
  refine Operation.checksum_of_request hr rfl on ?_
  rw [putOperation]
  split
  · change (Headers.lower Operation.contentTypeHeader == Headers.lower Checksum.header ||
      false) = false
    decide
  · rfl

/-- A request of an upload: what the client makes, for a signer of its own, of one that bears the
content. -/
structure Uploads (c : Client) (content : Bytes) (r : Request) : Prop where
  stamped : ∃ base key now, Bears content base ∧ c.stamp key base now = .ok r
  bears : c.provider = none ∨ KeepsPayload c.signer → Bears content r

theorem uploads_of_sent {result : Option (Except Error ObjectInfo)} (on : c.config.checksums = true)
    (hrun : c.putObject ctx ms guess bucket key content s = (result, s')) :
    ∃ sent, s'.sent = s.sent ++ sent ∧ ∀ r ∈ sent, c.Uploads content r := by
  have told := Task.sent_run ctx (some c.config.requestTimeout) ms
    (c.send (c.putOperation guess bucket key content)) s
  have after : s' = (c.execute ctx ms (c.putOperation guess bucket key content) s).2 :=
    congrArg Prod.snd hrun.symm
  rw [after]
  refine ⟨_, told, fun r hr => ?_⟩
  have recorded := Event.mem_filterMap_request.1 hr
  obtain ⟨base, k, now, requested, anonymous, stamped⟩ :=
    (emits_send c (c.putOperation guess bucket key content)).record ctx
      (some c.config.requestTimeout) ms s _ recorded r rfl
  have bears := bears_of_putOperation on requested
  refine ⟨⟨base, k, now, bears, stamped⟩, fun kept => bears.stamp ?_ stamped⟩
  rcases kept with none | keeps
  · exact Or.inl (anonymous.resolve_right fun some => some none)
  · exact Or.inr keeps

/-- A download that was answered in dispute reports it, unless the context ends it first. -/
theorem getObject_disputed (on : c.config.checksums = true) (arrives : response.body.Arrives)
    (d : response.Disputes (Body.chunks response.body).flatten text)
    {result : Except Error ObjectAnswer}
    (hrun : c.getObject ctx ms bucket key s = (some result, s'))
    (answered : s.Answered s' response) :
    result = .error .canceled ∨ result = .error .deadlineExceeded ∨
      result = .error (.document (Checksum.fault "GetObject" text
        (Crc64.checksum (Body.chunks response.body).flatten).toNat)) := by
  refine (getObject_judged hrun).imp_right (Or.imp_right fun judged => ?_)
  obtain ⟨body, whole, rfl⟩ := judged.judged response answered (decide_eq_true d.accepted)
  rw [Body.whole_eq_ok_iff.2 ⟨arrives, rfl⟩] at whole
  cases whole
  exact judged_eq_fault on d

theorem putObject_disputed (on : c.config.checksums = true) (d : response.Disputes content text)
    {result : Except Error ObjectInfo}
    (hrun : c.putObject ctx ms guess bucket key content s = (some result, s'))
    (answered : s.Answered s' response) :
    result = .error .canceled ∨ result = .error .deadlineExceeded ∨
      result = .error (.document (Checksum.fault "PutObject" text
        (Crc64.checksum content).toNat)) := by
  obtain ⟨outcome, executed, rfl⟩ := exists_execute hrun
  rcases execute_fair executed with rfl | rfl | fair
  · exact Or.inl rfl
  · exact Or.inr (Or.inl rfl)
  · have ok := (fair response).2 ⟨answered, decide_eq_true d.accepted⟩
    subst ok
    exact Or.inr (Or.inr (stored_eq_fault on d))

/-- A client that checks succeeds only with a content that was answered for: it arrived in full, or
it is the one that was sent with its checksum, and no legible checksum of the answer is another one.
An answer with such a checksum is an error of its own, whatever else the answer has. -/
theorem transfer_checked (on : c.config.checksums = true) (ctx : Context)
    (guess : String → Option String) (bucket key : String) (content : Bytes)
    (s s' : Surroundings) :
    (∀ ms a, c.getObject ctx ms bucket key s = (some (.ok a), s') →
      ∃ response, s.Answered s' response ∧ response.Confirms a.content a.info.checksum ∧
        response.body.Arrives ∧ a.content = (Body.chunks response.body).flatten) ∧
    (∀ ms info, c.putObject ctx ms guess bucket key content s = (some (.ok info), s') →
      ∃ response, s.Answered s' response ∧ response.Confirms content info.checksum) ∧
    (∀ ms result, c.putObject ctx ms guess bucket key content s = (result, s') →
      ∃ sent, s'.sent = s.sent ++ sent ∧ ∀ r ∈ sent, c.Uploads content r) ∧
    KeepsPayload .v4 ∧
    (∀ response text, response.body.Arrives →
      response.Disputes (Body.chunks response.body).flatten text →
      (∀ ms result, c.getObject ctx ms bucket key s = (some result, s') →
        s.Answered s' response →
        result = .error .canceled ∨ result = .error .deadlineExceeded ∨
          result = .error (.document (Checksum.fault "GetObject" text
            (Crc64.checksum (Body.chunks response.body).flatten).toNat))) ∧
      ∀ ms ms', c.execute ctx ms (objectOperation "GET" bucket key) s = (some (.ok response), s') →
        c.Calm ctx (ms ++ ms') s' → response.body.pauses ≤ ms'.length →
        c.getObject ctx (ms ++ ms') bucket key s =
          (some (.error (.document (Checksum.fault "GetObject" text
            (Crc64.checksum (Body.chunks response.body).flatten).toNat))), s')) ∧
    ∀ response text, response.Disputes content text →
      (∀ ms result, c.putObject ctx ms guess bucket key content s = (some result, s') →
        s.Answered s' response →
        result = .error .canceled ∨ result = .error .deadlineExceeded ∨
          result = .error (.document (Checksum.fault "PutObject" text
            (Crc64.checksum content).toNat))) ∧
      ∀ ms, c.execute ctx ms (c.putOperation guess bucket key content) s =
          (some (.ok response), s') →
        c.putObject ctx ms guess bucket key content s =
          (some (.error (.document (Checksum.fault "PutObject" text
            (Crc64.checksum content).toNat))), s') := by
  refine ⟨fun ms a hrun => ?_, fun ms info hrun => ?_, fun ms result hrun => ?_, keepsPayload_v4,
    fun response text arrives d => ⟨fun ms result hrun answered => ?_,
      fun ms ms' executed calm enough => ?_⟩,
    fun response text d => ⟨fun ms result hrun answered => ?_, fun ms executed => ?_⟩⟩
  · rcases getObject_judged hrun with he | he | judged
    · cases he
    · cases he
    · obtain ⟨response, answered, answer, content, whole, ok⟩ := judged.answered a rfl
      obtain ⟨arrives, hc⟩ := Body.whole_eq_ok_iff.1 whole
      obtain ⟨confirms, same⟩ := judged_eq_ok on answer ok
      exact ⟨response, answered, confirms, arrives, same.trans hc⟩
  · obtain ⟨outcome, executed, ok⟩ := exists_execute hrun
    rcases execute_fair executed with rfl | rfl | fair
    · cases ok
    · cases ok
    · rcases outcome with e | response
      · cases ok
      · obtain ⟨answered, answer⟩ := (fair response).1 rfl
        exact ⟨response, answered, stored_eq_ok on answer ok.symm⟩
  · exact uploads_of_sent on hrun
  · exact getObject_disputed on arrives d hrun answered
  · have whole := Body.whole_eq_ok_iff.2 ⟨arrives, rfl⟩
    rw [getObject_of_execute executed calm whole enough, judged_eq_fault on d]
  · exact putObject_disputed on d hrun answered
  · have fault := stored_eq_fault on d
    rw [putObject_of_execute executed, ← fault]
    rfl

def answering (response : Response) : Surroundings :=
  ⟨⟨[]⟩, .chain [], fun n => .ofSeconds (1704067200 + n), 0,
    fun _ _ => .atOnce (.ok response), [], []⟩

theorem exists_local_client : ∃ c base, (ClientBuilder.new "http://localhost:9000").build = .ok c ∧
    c.provider = none ∧ c.config.checksums = true ∧
    c.config.requestTimeout = Duration.ofSeconds 120 ∧
    (objectOperation "GET" "bkt-one" "a.txt").request c.config = .ok base := by
  have parts : (do
      let c ← (ClientBuilder.new "http://localhost:9000").build
      let base ← (objectOperation "GET" "bkt-one" "a.txt").request c.config
      return (c, base)).toOption.map (fun p : Client × Request =>
        (p.1.config.checksums, p.1.config.requestTimeout)) =
      some (true, Duration.ofSeconds 120) := by
    decide +kernel
  obtain ⟨⟨c, base⟩, built, parts⟩ := exists_of_toOption_map parts
  obtain ⟨c', hb, built⟩ := bind_eq_ok built
  obtain ⟨base', hr, built⟩ := bind_eq_ok built
  cases built
  simp only [Prod.mk.injEq] at parts
  obtain ⟨on, timeout⟩ := parts
  have anonymous : c.provider = none := by
    obtain ⟨endpoint, -, hc⟩ := bind_eq_ok hb
    cases hc
    rfl
  exact ⟨c, base, hb, anonymous, on, timeout, hr⟩

theorem exists_download (response : Response) (answer : response.isAnswer = true) :
    ∃ c s', (ClientBuilder.new "http://localhost:9000").build = .ok c ∧
      c.config.checksums = true ∧
      c.execute ⟨none, 0⟩ [⟨.ofSeconds 0, false⟩] (objectOperation "GET" "bkt-one" "a.txt")
        (answering response) = (some (.ok response), s') ∧
      c.Calm ⟨none, 0⟩ ([⟨.ofSeconds 0, false⟩] ++ [⟨.ofSeconds 1, false⟩]) s' := by
  obtain ⟨c, base, hb, anonymous, on, timeout, hr⟩ := exists_local_client
  have start : Undisturbed 0 (Context.effectiveDeadline ⟨none, 0⟩ (.ofSeconds 0)
      (some c.config.requestTimeout)) [⟨.ofSeconds 0, false⟩] (answering response) := by
    rw [timeout]
    exact ⟨by decide, rfl⟩
  refine ⟨c, _, hb, on, execute_answered hr anonymous start rfl answer, fun m hm => ?_⟩
  cases hm
  rw [timeout]
  exact ⟨by decide, rfl⟩

def disputed : Response :=
  ⟨200, Headers.empty.append Checksum.header (Utf8.ofString "1"),
    [.chunk (Utf8.ofString "he"), .pause, .chunk (Utf8.ofString "llo")]⟩

theorem transfer_checked_of_pieces : ∃ c s',
    (ClientBuilder.new "http://localhost:9000").build = .ok c ∧ c.config.checksums = true ∧
      c.getObject ⟨none, 0⟩ [⟨.ofSeconds 0, false⟩, ⟨.ofSeconds 1, false⟩] "bkt-one" "a.txt"
        (answering disputed) = (some (.error (.document (.checksumMismatch "GetObject"
          (Crc64.checksum (Utf8.ofString "hello")).toNat 1))), s') := by
  obtain ⟨c, s', hb, on, executed, calm⟩ := exists_download disputed (by decide)
  have whole : Body.whole disputed.body =
      some (.ok (Utf8.ofString "he" ++ (Utf8.ofString "llo" ++ []))) := rfl
  have arrives := (Body.whole_eq_ok_iff.1 whole).1
  have disputes : disputed.Disputes (Body.chunks disputed.body).flatten "1" :=
    ⟨by decide, Response.states_iff.2 (by decide +kernel), by decide +kernel⟩
  obtain ⟨-, -, -, -, download, -⟩ :=
    transfer_checked on ⟨none, 0⟩ (fun _ => some "text/plain") "bkt-one" "a.txt" []
      (answering disputed) s'
  exact ⟨c, s', hb, on, (download disputed "1" arrives disputes).2 _ _ executed calm (by decide)⟩

end Client

end ObjectStorage
