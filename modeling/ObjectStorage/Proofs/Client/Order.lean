import ObjectStorage.Client.Service
import ObjectStorage.Proofs.Client.Request
import ObjectStorage.Proofs.Client.Retry
import ObjectStorage.Proofs.Task.Record

/-!
# What comes before a request

An operation is made into a request, the provider is asked, the region is looked at and the request
is signed before anything is sent. `send_in_order` says so of every run: the record of a run is at
most one question and then requests, and each way in which a run can end early leaves no request on
record.
-/
namespace ObjectStorage.Client

variable {α : Type} {c : Client} {key : Option Credentials} {base : Request} {o : Operation}

def Attempted (c : Client) (key : Option Credentials) (base : Request) (e : Event) : Prop :=
  ∃ r now, e = .sent r ∧ c.stamp key base now = .ok r

theorem Attempted.isSent {e : Event} (h : c.Attempted key base e) : e.IsSent := by
  obtain ⟨r, -, he, -⟩ := h
  exact ⟨r, he⟩

theorem emits_sign {P : Event → Prop} {g : Request → Call Response}
    (hg : ∀ now r, c.stamp key base now = .ok r → Task.Emits (α := Except Error Response) P (g r)) :
    Task.Emits (α := Except Error Response) P (c.sign key base >>= g : Call Response) := by
  cases key with
  | none => exact hg (.ofSeconds 0) base rfl
  | some k =>
    refine .readClock fun now => ?_
    change Task.Emits P (Task.bind (Call.ofExcept (c.signer.sign base k c.config.region now))
      (ExceptT.bindCont g))
    rcases hs : c.signer.sign base k c.config.region now with e | r
    · exact .done _
    · exact hg now r hs

theorem emits_verdict {P : Event → Prop} (outcome : Except Error Response) :
    Task.Emits (α := Except Error Response) P (verdict outcome) := by
  cases outcome with
  | ok response => exact (Response.idle_check response).emits
  | error e => exact .done _

theorem emits_attempt (c : Client) (key : Option Credentials) (base : Request) (retries : Nat) :
    Task.Emits (α := Except Error Response) (c.Attempted key base)
      (c.attempt key base retries) := by
  induction retries with
  | zero =>
    rw [attempt_eq]
    exact emits_sign fun now r hr => .exchange ⟨r, now, rfl, hr⟩ emits_verdict
  | succ retries ih =>
    rw [attempt_eq]
    refine emits_sign fun now r hr => .exchange ⟨r, now, rfl, hr⟩ fun outcome => ?_
    rw [follow]
    split
    · exact ih
    · exact emits_verdict outcome

theorem attempt_none (c c' : Client) (base : Request) (retries : Nat) :
    c.attempt none base retries = c'.attempt none base retries := by
  induction retries with
  | zero => rfl
  | succ retries ih =>
    rw [attempt_eq, attempt_eq]
    have same : c.follow none base (retries + 1) = c'.follow none base (retries + 1) := by
      funext outcome
      rw [follow, follow, ih]
    rw [same]
    rfl

theorem send_rejected {e : Error} (hr : o.request c.config = .error e) :
    c.send o = (Task.done (.error e) : Task (Except Error Response)) := by
  rw [send, hr]
  rfl

theorem send_anonymous (hr : o.request c.config = .ok base) (hp : c.provider = none) :
    c.send o = c.attempt none base c.config.maxRetries := by
  rw [send, hr]
  change (c.credentials >>= _ : Call Response) = _
  rw [credentials, hp]
  rfl

def proceed (c : Client) (base : Request) (answer : Except Error Credentials) : Call Response := do
  let k ← Call.ofExcept answer
  c.checkRegion (some k)
  c.attempt (some k) base c.config.maxRetries

theorem send_keyed {p : Provider} (hr : o.request c.config = .ok base)
    (hp : c.provider = some p) :
    c.send o = (Task.askProvider (c.proceed base) : Task (Except Error Response)) := by
  rw [send, hr]
  change (c.credentials >>= _ : Call Response) = _
  rw [credentials, hp]
  refine congrArg Task.askProvider (funext fun answer => ?_)
  cases answer with
  | error e => rfl
  | ok k => rfl

theorem proceed_ok (v4 : c.signer = .v4) (base : Request) (k : Credentials) :
    c.proceed base (.ok k) =
      if c.config.region.isEmpty then
        (Task.done (.error (.argument .missingRegion)) : Task (Except Error Response))
      else c.attempt (some k) base c.config.maxRetries := by
  change (c.checkRegion (some k) >>= _ : Call Response) = _
  rw [checkRegion, v4]
  rcases c.config.region.isEmpty with _ | _
  · rfl
  · rfl

theorem emits_proceed (c : Client) (base : Request) (answer : Except Error Credentials) :
    Task.Emits (α := Except Error Response)
      (fun e => ∃ k, answer = .ok k ∧ c.Attempted (some k) base e) (c.proceed base answer) := by
  cases answer with
  | error e => exact .done _
  | ok k =>
    change Task.Emits _ (c.checkRegion (some k) >>= fun _ =>
      c.attempt (some k) base c.config.maxRetries : Call Response)
    rw [checkRegion]
    split
    · exact .done _
    · exact (emits_attempt c (some k) base _).imp fun e h => ⟨k, rfl, h⟩

/-- A request is what some attempt makes of the operation's own one. Only a client with a provider
has credentials for it. -/
def Stamped (c : Client) (o : Operation) (e : Event) : Prop :=
  ∀ r, e = .sent r → ∃ base key now, o.request c.config = .ok base ∧
    (key = none ∨ c.provider ≠ none) ∧ c.stamp key base now = .ok r

theorem Attempted.stamped {e : Event} (h : c.Attempted key base e)
    (hr : o.request c.config = .ok base) (hk : key = none ∨ c.provider ≠ none) :
    c.Stamped o e := by
  obtain ⟨r, now, rfl, hs⟩ := h
  intro r' he
  cases he
  exact ⟨base, key, now, hr, hk, hs⟩

theorem emits_send (c : Client) (o : Operation) :
    Task.Emits (α := Except Error Response) (c.Stamped o) (c.send o) := by
  rcases hr : o.request c.config with e | base
  · rw [send_rejected hr]
    exact .done _
  · rcases hp : c.provider with - | p
    · rw [send_anonymous hr hp]
      exact (emits_attempt c none base _).imp fun e h => h.stamped hr (Or.inl rfl)
    · rw [send_keyed hr hp]
      refine .askProvider (fun answer r he => by cases he) fun answer => ?_
      have provided : c.provider ≠ none := by
        rw [hp]
        exact Option.some_ne_none p
      refine (emits_proceed c base answer).imp fun e h => ?_
      obtain ⟨k, -, attempted⟩ := h
      exact attempted.stamped hr (Or.inr provided)

variable {token : CancelToken} {deadline : Option Duration} {m : Moment} {ms : List Moment}
variable {s s' : Surroundings} {rest : Response → Call α} {result : Option (Except Error α)}

/-- A run with a provider, from when it was asked: requests are sent only with credentials, for a
region, and signed. -/
structure Keyed (c : Client) (base : Request) (s s' : Surroundings)
    (result : Option (Except Error α)) (sent : List Request) : Prop where
  asked_once : s'.provider = s.ask.2.provider
  unanswered : ∀ e, s.ask.1 = .error e → result = some (.error e) ∧ sent = []
  nowhere : ∀ k, s.ask.1 = .ok k → c.config.region.isEmpty = true →
    result = some (.error (.argument .missingRegion)) ∧ sent = []
  unsigned : ∀ k, s.ask.1 = .ok k → c.config.region.isEmpty = false →
    ∀ now e, c.signer.sign base k c.config.region now = .error e →
      sent = [] ∧ ∃ e, c.signer.sign base k c.config.region (s.clock (s.readings + 2)) = .error e ∧
        result = some (.error e)
  signed : ∀ r ∈ sent, ∃ k now, s.ask.1 = .ok k ∧
    c.signer.sign base k c.config.region now = .ok r

def inRegion (c : Client) (region : String) : Client :=
  { c with config := { c.config with region } }

theorem emits_rest {P : Event → Prop} (idle : ∀ r, Task.Idle (β := Except Error α) (rest r))
    (outcome : Except Error Response) :
    Task.Emits (α := Except Error α) P (ExceptT.bindCont (m := Task) rest outcome) := by
  cases outcome with
  | ok r => exact (idle r).emits
  | error e => exact .done _

theorem signing_fails (v4 : c.signer = .v4) {k : Credentials} {now : Instant} {e : Error}
    (he : c.signer.sign base k c.config.region now = .error e) (now' : Instant) :
    ∃ e, c.signer.sign base k c.config.region now' = .error e := by
  rcases hs : c.signer.sign base k c.config.region now' with e' | r
  · exact ⟨e', rfl⟩
  · -- whether a request can be signed does not depend on the time
    have stamped : c.stamp (some k) base now' = .ok r := hs
    obtain ⟨g, hg⟩ := exists_stamp (Or.inl v4) stamped
    have signed : c.signer.sign base k c.config.region now = .ok (g now) := hg now
    rw [signed] at he
    cases he

theorem run_ended (awake : Awake token m s) {call : Call Response} {e : Error}
    (h : call = (Task.done (.error e) : Task (Except Error Response))) {events : List Event}
    (hrun : Task.runUntil token deadline (m :: ms) (Task.bind call (ExceptT.bindCont rest)) s =
      (result, s'))
    (hrec : Task.events token deadline (m :: ms) (Task.bind call (ExceptT.bindCont rest)) s =
      events) : result = some (.error e) ∧ events = [] ∧ s' = s := by
  subst h
  have ran := hrun.symm.trans (Task.runUntil_done awake (.error e))
  cases ran
  exact ⟨rfl, hrec.symm.trans (Task.events_done awake (.error e)), rfl⟩

theorem run_unsigned (v4 : c.signer = .v4) (awake : Awake token m s)
    (idle : ∀ r, Task.Idle (β := Except Error α) (rest r)) {k : Credentials} {now : Instant}
    {e : Error} (he : c.signer.sign base k c.config.region now = .error e) (retries : Nat) :
    (∃ e, c.signer.sign base k c.config.region (s.clock s.readings) = .error e ∧
        Task.runUntil token deadline (m :: ms)
          (Task.bind (c.attempt (some k) base retries) (ExceptT.bindCont rest)) s =
            (some (.error e), s.tick.2)) ∧
      Task.events token deadline (m :: ms)
        (Task.bind (c.attempt (some k) base retries) (ExceptT.bindCont rest)) s = [] := by
  obtain ⟨e', he'⟩ := signing_fails v4 he (s.clock s.readings)
  have stamped : c.stamp (some k) base (s.clock s.readings) = .error e' := he'
  have awake' : Awake token m s.tick.2 := awake
  refine ⟨⟨e', he', ?_⟩, ?_⟩
  · rw [attempt_eq, Task.runUntil_congr awake awake' (poll_sign_error stamped _)]
    exact Task.runUntil_done awake' (.error e')
  · -- an event would be a request that could be signed
    refine List.eq_nil_iff_forall_not_mem.2 fun event member => ?_
    have emits := (emits_attempt c (some k) base retries).bind (emits_rest idle)
    obtain ⟨r, later, -, stamped⟩ := emits.events token deadline (m :: ms) s event member
    obtain ⟨e'', he''⟩ := signing_fails v4 he later
    rw [stamp, he''] at stamped
    cases stamped

theorem keyed_of_proceed (v4 : c.signer = .v4) (awake : Awake token m s.ask.2)
    (idle : ∀ r, Task.Idle (β := Except Error α) (rest r)) {sent : List Request}
    (hrun : Task.runUntil token deadline (m :: ms)
      (Task.bind (c.proceed base s.ask.1) (ExceptT.bindCont rest)) s.ask.2 = (result, s'))
    (hrec : Task.events token deadline (m :: ms)
      (Task.bind (c.proceed base s.ask.1) (ExceptT.bindCont rest)) s.ask.2 = sent.map .sent) :
    c.Keyed base s s' result sent := by
  have emits := (emits_proceed c base s.ask.1).bind (emits_rest idle)
  have requests := emits.imp fun _ ⟨_, _, h⟩ => Attempted.isSent h
  refine ⟨?_, fun e answer => ?_, fun k answer region => ?_, fun k answer region now e he => ?_,
    fun r hr => ?_⟩
  · have kept := requests.provider_runUntil token deadline (m :: ms) s.ask.2
    rw [hrun] at kept
    exact kept
  · have closed : c.proceed base s.ask.1 =
        (Task.done (.error e) : Task (Except Error Response)) := by
      rw [answer]
      rfl
    obtain ⟨ended, none, -⟩ := run_ended awake closed hrun hrec
    exact ⟨ended, List.map_eq_nil_iff.1 none⟩
  · have closed : c.proceed base s.ask.1 =
        (Task.done (.error (.argument .missingRegion)) : Task (Except Error Response)) := by
      rw [answer, proceed_ok v4, if_pos region]
    obtain ⟨ended, none, -⟩ := run_ended awake closed hrun hrec
    exact ⟨ended, List.map_eq_nil_iff.1 none⟩
  · rw [answer, proceed_ok v4, if_neg (by rw [region]; decide)] at hrun hrec
    obtain ⟨⟨e', failed, ran⟩, recorded⟩ := run_unsigned v4 awake idle he c.config.maxRetries
    rw [ran] at hrun
    rw [recorded] at hrec
    cases hrun
    exact ⟨List.map_eq_nil_iff.1 hrec.symm, e', failed, rfl⟩
  · have member : Event.sent r ∈ sent.map Event.sent := List.mem_map_of_mem hr
    rw [← hrec] at member
    obtain ⟨k, answer, r', now, he, stamped⟩ :=
      emits.events token deadline (m :: ms) s.ask.2 _ member
    cases he
    exact ⟨k, now, answer, stamped⟩

theorem keyed_run (v4 : c.signer = .v4) (awake : Awake token m s)
    (idle : ∀ r, Task.Idle (β := Except Error α) (rest r)) {p : Provider}
    (hr : o.request c.config = .ok base) (hp : c.provider = some p)
    (hrun : Task.runUntil token deadline (m :: ms)
      (Task.bind (c.send o) (ExceptT.bindCont rest)) s = (result, s')) :
    ∃ sent : List Request, Task.events token deadline (m :: ms)
        (Task.bind (c.send o) (ExceptT.bindCont rest)) s =
          .asked s.ask.1 :: sent.map .sent ∧
      c.Keyed base s s' result sent := by
  rw [send_keyed hr hp] at hrun ⊢
  obtain ⟨ran, recorded⟩ := Task.runUntil_askProvider
    (fun answer => Task.bind (c.proceed base answer) (ExceptT.bindCont rest)) deadline ms awake
  have awake' : Awake token m s.ask.2 := awake
  have requests := ((emits_proceed c base s.ask.1).bind (emits_rest idle)).imp
    fun _ ⟨_, _, h⟩ => Attempted.isSent h
  obtain ⟨sent, hsent⟩ :=
    Event.exists_requests (requests.events token deadline (m :: ms) s.ask.2)
  exact ⟨sent, recorded.trans (congrArg _ hsent),
    keyed_of_proceed v4 awake' idle (ran.symm.trans hrun) hsent⟩

/-- A run without a provider: its requests are the operation's own, which says nothing of who sends
them unless the operation does. -/
structure Anonymous (o : Operation) (base : Request) (s s' : Surroundings) (sent : List Request) :
    Prop where
  unasked : s'.provider = s.provider
  same : ∀ r ∈ sent, r = base
  given : ∀ r ∈ sent, ∀ name ∈ [V4.authorizationHeader, V4.dateHeader, V4.tokenHeader],
    ∀ value ∈ r.headers.getAll name, o.Gives name value

theorem anonymous_run (idle : ∀ r, Task.Idle (β := Except Error α) (rest r))
    (hr : o.request c.config = .ok base) (hp : c.provider = none)
    (hrun : Task.runUntil token deadline (m :: ms)
      (Task.bind (c.send o) (ExceptT.bindCont rest)) s = (result, s')) :
    ∃ sent : List Request, Task.events token deadline (m :: ms)
        (Task.bind (c.send o) (ExceptT.bindCont rest)) s = sent.map .sent ∧
      Anonymous o base s s' sent := by
  rw [send_anonymous hr hp] at hrun ⊢
  have emits := (emits_attempt c none base c.config.maxRetries).bind (emits_rest idle)
  have requests := emits.imp fun _ => Attempted.isSent
  obtain ⟨sent, hsent⟩ := Event.exists_requests (requests.events token deadline (m :: ms) s)
  have same : ∀ r ∈ sent, r = base := by
    intro r member
    have recorded : Event.sent r ∈ sent.map Event.sent := List.mem_map_of_mem member
    rw [← hsent] at recorded
    obtain ⟨r', now, he, stamped⟩ := emits.events token deadline (m :: ms) s _ recorded
    cases he
    exact (Except.ok.inj stamped).symm
  refine ⟨sent, hsent, ?_, same, fun r member name hn value hv => ?_⟩
  · have kept := requests.provider_runUntil token deadline (m :: ms) s
    rw [hrun] at kept
    exact kept
  · rw [same r member] at hv
    have free : ∀ name ∈ [V4.authorizationHeader, V4.dateHeader, V4.tokenHeader],
        name ∉ Operation.setHeaders := by decide
    exact Operation.gives_of_request hr (free name hn) hv

theorem run_inRegion (hp : c.provider = none) (o : Operation) (rest : Response → Call α)
    (region : String) (ctx : Context) (ms : List Moment) (s : Surroundings) :
    (c.inRegion region).run ctx ms ((c.inRegion region).send o >>= rest) s =
      c.run ctx ms (c.send o >>= rest) s := by
  have same : (c.inRegion region).send o = c.send o := by
    rcases hr : o.request c.config with e | base
    · rw [send_rejected hr]
      exact send_rejected hr
    · have there : (c.inRegion region).send o =
          (c.inRegion region).attempt none base c.config.maxRetries := send_anonymous hr hp
      rw [there, send_anonymous hr hp, attempt_none (c.inRegion region) c]
  rw [same]
  rfl

def record (c : Client) (ctx : Context) (ms : List Moment) (call : Call α) (s : Surroundings) :
    List Event :=
  Task.record ctx (some c.config.requestTimeout) ms call s

/-- An operation without a request ends with nothing done. Any other one begins with one question,
if there is a provider, and sends requests only when all is well. `rest` is what is made of the
answer: nothing where an operation is executed, the content where an object is loaded. -/
theorem send_in_order (v4 : c.signer = .v4) {ctx : Context} (awake : Awake ctx.token m s)
    (idle : ∀ r, Task.Idle (β := Except Error α) (rest r))
    (hrun : c.run ctx (m :: ms) (c.send o >>= rest) s = (result, s')) {events : List Event}
    (hrec : c.record ctx (m :: ms) (c.send o >>= rest) s = events) :
    s'.sent = s.sent ++ events.filterMap Event.request? ∧
      (¬ o.Sayable → ∃ e, o.request c.config = .error e) ∧
      (∀ e, o.request c.config = .error e → result = some (.error e) ∧ events = [] ∧ s' = s) ∧
      ∀ base, o.request c.config = .ok base →
        (∀ p, c.provider = some p → ∃ sent : List Request,
          events = .asked s.ask.1 :: sent.map .sent ∧ c.Keyed base s s' result sent) ∧
        (c.provider = none →
          (∃ sent : List Request, events = sent.map .sent ∧ Anonymous o base s s' sent) ∧
          ∀ region, (c.inRegion region).run ctx (m :: ms) ((c.inRegion region).send o >>= rest) s =
            (result, s')) := by
  refine ⟨?_, fun hn => Operation.rejected_of_not_sayable hn c.config, fun e hr => ?_,
    fun base hr => ⟨fun p hp => ?_, fun hp => ⟨?_, fun region => ?_⟩⟩⟩
  · have sent := Task.sent_run ctx (some c.config.requestTimeout) (m :: ms)
      (c.send o >>= rest : Call α) s
    rw [← hrec]
    exact (congrArg (fun outcome => outcome.2.sent) hrun).symm.trans sent
  · exact run_ended awake (send_rejected hr) hrun hrec
  · obtain ⟨sent, recorded, keyed⟩ := keyed_run v4 awake idle hr hp hrun
    exact ⟨sent, hrec.symm.trans recorded, keyed⟩
  · obtain ⟨sent, recorded, anonymous⟩ := anonymous_run idle hr hp hrun
    exact ⟨sent, hrec.symm.trans recorded, anonymous⟩
  · rw [run_inRegion hp]
    exact hrun

theorem send_in_order_without_region : ∃ c base s result s',
    ((ClientBuilder.new "http://localhost:9000").apply
        (.credentials (.fixed (.new "AKTEST" "secret")))).build = .ok c ∧
      ((Operation.new "GET").withBucket "bkt-one").request c.config = .ok base ∧
      c.signer = .v4 ∧ Awake 0 ⟨.ofSeconds 0, false⟩ s ∧
      (∀ r : Response, Task.Idle (β := Except Error Bytes) r.content) ∧
      c.run ⟨none, 0⟩ [⟨.ofSeconds 0, false⟩]
        (c.send ((Operation.new "GET").withBucket "bkt-one") >>= Response.content) s =
          (result, s') ∧
      c.record ⟨none, 0⟩ [⟨.ofSeconds 0, false⟩]
        (c.send ((Operation.new "GET").withBucket "bkt-one") >>= Response.content) s =
          [.asked (.ok (.new "AKTEST" "secret"))] ∧
      result = some (.error (.argument .missingRegion)) ∧ s'.sent = [] := by
  have parts : (do
      let c ← ((ClientBuilder.new "http://localhost:9000").apply
        (.credentials (.fixed (.new "AKTEST" "secret")))).build
      let base ← ((Operation.new "GET").withBucket "bkt-one").request c.config
      return (c, base)).toOption.map (fun p : Client × Request => p.1.config.region) =
      some "" := by
    decide +kernel
  obtain ⟨⟨c, base⟩, built, region⟩ := exists_of_toOption_map parts
  obtain ⟨c', hb, built⟩ := bind_eq_ok built
  obtain ⟨base', hr, built⟩ := bind_eq_ok built
  cases built
  have settings : c.provider = some (.fixed (.new "AKTEST" "secret")) ∧ c.signer = .v4 := by
    obtain ⟨endpoint, -, hc⟩ := bind_eq_ok hb
    cases hc
    exact ⟨rfl, rfl⟩
  let s : Surroundings := ⟨⟨[]⟩, .fixed (.new "AKTEST" "secret"),
    fun n => .ofSeconds (1704067200 + n), 0, fun _ _ => ⟨none, .error .canceled, false⟩, [], []⟩
  have answer : s.ask.1 = .ok (.new "AKTEST" "secret") := by
    rw [Surroundings.ask, Provider.ask_fixed]
  have awake : Awake 0 ⟨.ofSeconds 0, false⟩ s := ⟨rfl, rfl⟩
  have idle (r : Response) : Task.Idle (β := Except Error Bytes) r.content := Body.idle_read r.body
  cases hrun : c.run ⟨none, 0⟩ [⟨.ofSeconds 0, false⟩]
      (c.send ((Operation.new "GET").withBucket "bkt-one") >>= Response.content) s with
  | mk result s' =>
    obtain ⟨tied, -, -, requested⟩ := send_in_order settings.2 awake idle hrun rfl
    obtain ⟨sent, recorded, keyed⟩ := (requested base hr).1 _ settings.1
    obtain ⟨ended, none⟩ := keyed.nowhere _ answer (by rw [region]; rfl)
    rw [answer, none] at recorded
    rw [recorded] at tied
    exact ⟨c, base, s, result, s', hb, hr, settings.2, awake, idle, hrun, recorded, ended, tied⟩

end ObjectStorage.Client
