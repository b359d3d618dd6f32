import ObjectStorage.Proofs.Signature.Verification
import ObjectStorage.Proofs.Task.Undisturbed

/-!
# Attempts

A client that is built tries an operation once, and again only while the network fails before
anything was sent. `send_bounded` says how often that is, what comes out of it, and that the requests
of all attempts are one request, signed anew each time.
-/
namespace ObjectStorage

/-- What becomes of the requests to come, and after how many polls. -/
structure Script where
  delay : Nat → Nat
  outcome : Nat → Except Error Response

def isRefused : Except Error Response → Bool
  | .ok _ => false
  | .error e => e.isBeforeSending

namespace Script

def rest (script : Script) : Script :=
  ⟨fun i => script.delay (i + 1), fun i => script.outcome (i + 1)⟩

def wait (script : Script) : Nat → Nat
  | 0 => script.delay 0
  | last + 1 => script.delay 0 + script.rest.wait last

/-- The first request that is not refused has the index `last`, unless there are too many before. -/
def EndsAt (script : Script) (retries last : Nat) : Prop :=
  (∃ k, (∀ i < k, isRefused (script.outcome i) = true) ∧ isRefused (script.outcome k) = false ∧
      last = min k retries) ∨
    ((∀ i, isRefused (script.outcome i) = true) ∧ last = retries)

variable {script : Script} {retries last : Nat}

theorem EndsAt.refused (h : script.EndsAt retries last) :
    ∀ i < last, isRefused (script.outcome i) = true := by
  intro i hi
  rcases h with ⟨k, before, -, rfl⟩ | ⟨all, -⟩
  · exact before i (Nat.lt_of_lt_of_le hi (Nat.min_le_left _ _))
  · exact all i

theorem EndsAt.le (h : script.EndsAt retries last) : last ≤ retries := by
  rcases h with ⟨k, -, -, rfl⟩ | ⟨-, rfl⟩
  · exact Nat.min_le_right _ _
  · exact Nat.le_refl _

theorem EndsAt.stops (h : script.EndsAt retries last) :
    last = retries ∨ isRefused (script.outcome last) = false := by
  rcases h with ⟨k, -, accepted, rfl⟩ | ⟨-, rfl⟩
  · rcases Nat.le_total k retries with hk | hk
    · rw [Nat.min_eq_left hk]
      exact Or.inr accepted
    · exact Or.inl (Nat.min_eq_right hk)
  · exact Or.inl rfl

end Script

/-- The network answers the requests from now on as the script says, whatever is in them. -/
def Surroundings.Follows (s : Surroundings) (script : Script) : Prop :=
  ∀ i r, s.network (s.sent.length + i) r = ⟨some (script.delay i), script.outcome i, false⟩

def Script.network (script : Script) (i : Nat) (_ : Request) : Reply :=
  ⟨some (script.delay i), script.outcome i, false⟩

theorem Surroundings.Follows.rest {s s' : Surroundings} {script : Script} (h : s.Follows script)
    {r : Request} (hn : s'.network = s.network) (hs : s'.sent = s.sent ++ [r]) :
    s'.Follows script.rest := by
  intro i r'
  have hi : s'.sent.length + i = s.sent.length + (i + 1) := by
    rw [hs, List.length_append, List.length_singleton]
    omega
  rw [hn, hi, h (i + 1) r']
  rfl

/-- The surroundings after attempts that sent `requests`, each with a reading of the clock if it was
signed. -/
def Surroundings.after (s : Surroundings) (key : Option Credentials) (requests : List Request) :
    Surroundings :=
  { s with
    readings := s.readings + (if key.isSome then requests.length else 0)
    sent := s.sent ++ requests }

theorem Surroundings.after_cons (s : Surroundings) (key : Option Credentials) (r : Request)
    (requests : List Request) :
    (s.after key [r]).after key requests = s.after key (r :: requests) := by
  cases key with
  | none => simp [after]
  | some k => simp [after, Nat.add_assoc, Nat.add_comm 1]

namespace Client

variable {α : Type} {c : Client} {key : Option Credentials} {base : Request}

def stamp (c : Client) (key : Option Credentials) (base : Request) (now : Instant) :
    Except Error Request :=
  match key with
  | none => .ok base
  | some k => c.signer.sign base k c.config.region now

def verdict : Except Error Response → Call Response
  | .ok response => response.check
  | .error e => throw e

def follow (c : Client) (key : Option Credentials) (base : Request) :
    Nat → Except Error Response → Call Response
  | 0, outcome => verdict outcome
  | retries + 1, outcome =>
    if isRefused outcome then c.attempt key base retries else verdict outcome

theorem follow_of_accepted {outcome : Except Error Response} (h : isRefused outcome = false)
    (retries : Nat) : c.follow key base retries outcome = verdict outcome := by
  cases retries with
  | zero => rfl
  | succ retries =>
    rw [follow, h]
    rfl

theorem attempt_eq (c : Client) (key : Option Credentials) (base : Request) (retries : Nat) :
    c.attempt key base retries = (do
      let signed ← c.sign key base
      ExceptT.mk (Task.exchange signed (c.follow key base retries))) := by
  cases retries with
  | zero =>
    have hf : c.follow key base 0 = ExceptT.bindCont (m := Task) Response.check := by
      funext outcome
      cases outcome <;> rfl
    rw [hf]
    rfl
  | succ retries =>
    have hf : c.follow key base (retries + 1) = fun outcome =>
        match outcome with
        | .ok response => response.check
        | .error e =>
          if e.isBeforeSending then c.attempt key base retries else Task.done (.error e) := by
      funext outcome
      cases outcome <;> rfl
    rw [hf]
    rfl

variable {f : Except Error Response → Task (Except Error α)} {token : CancelToken}
variable {deadline : Option Duration} {ms : List Moment} {s s₀ : Surroundings}

theorem poll_sign_ok {signed : Request}
    (hs : c.stamp key base (s.clock s.readings) = .ok signed) (g : Request → Call Response) :
    (Task.bind (c.sign key base >>= g : Call Response) f).poll token s =
      (Task.bind (g signed) f).poll token (match key with
        | none => s
        | some _ => s.tick.2) := by
  cases key with
  | none =>
    cases hs
    rfl
  | some k =>
    have hk : c.signer.sign base k c.config.region (s.clock s.readings) = .ok signed := hs
    change (Task.bind (Call.ofExcept (c.signer.sign base k c.config.region (s.clock s.readings)) >>=
      g : Call Response) f).poll token s.tick.2 = _
    rw [hk]
    rfl

theorem poll_sign_error {e : Error} (hs : c.stamp key base (s.clock s.readings) = .error e)
    (g : Request → Call Response) :
    (Task.bind (c.sign key base >>= g : Call Response) f).poll token s =
      (f (.error e)).poll token s.tick.2 := by
  cases key with
  | none => cases hs
  | some k =>
    have hk : c.signer.sign base k c.config.region (s.clock s.readings) = .error e := hs
    change (Task.bind (Call.ofExcept (c.signer.sign base k c.config.region (s.clock s.readings)) >>=
      g : Call Response) f).poll token s.tick.2 = _
    rw [hk]
    rfl

theorem runUntil_attempt {signed : Request} {d : Nat} {outcome : Except Error Response}
    (u : Undisturbed token deadline ms s)
    (hs : c.stamp key base (s.clock s.readings) = .ok signed)
    (hr : s.network s.sent.length signed = ⟨some d, outcome, false⟩) (hd : d < ms.length)
    (retries : Nat) :
    (Task.bind (c.attempt key base retries) f).runUntil token deadline ms s =
      (Task.bind (c.follow key base retries outcome) f).runUntil token deadline (ms.drop d)
        (s.after key [signed]) := by
  have hms : ms ≠ [] := List.ne_nil_of_length_pos (Nat.zero_lt_of_lt hd)
  rw [attempt_eq]
  cases key with
  | none =>
    rw [Task.runUntil_of_poll u hms (by rfl) (poll_sign_ok hs _)]
    exact Task.runUntil_exchange u hr hd
  | some k =>
    rw [Task.runUntil_of_poll u hms (by rfl) (poll_sign_ok hs _)]
    exact Task.runUntil_exchange (u.carry rfl) hr hd

/-- The requests of `count` attempts whose first one reads the clock next. -/
def requests (g : Instant → Request) (s : Surroundings) (count : Nat) : List Request :=
  (List.range count).map fun i => g (s.clock (s.readings + i))

theorem requests_succ {g : Instant → Request} (hg : ∀ t, c.stamp key base t = .ok (g t))
    (s : Surroundings) (r : Request) (count : Nat) :
    requests g s (count + 1) =
      g (s.clock s.readings) :: requests g (s.after key [r]) count := by
  rw [requests, List.range_succ_eq_map, List.map_cons, List.map_map]
  refine congrArg _ (List.map_congr_left fun i _ => ?_)
  cases key with
  | none =>
    -- an anonymous request is the same at any time
    have same (t : Instant) : g t = base := (Except.ok.inj (hg t)).symm
    rw [same, Function.comp_apply, same]
  | some k =>
    have hi : (s.after (some k) [r]).readings + i = s.readings + i.succ := by
      simp only [Surroundings.after, Option.isSome_some, if_true, List.length_singleton]
      omega
    rw [Function.comp_apply, hi]
    rfl

/-- As long as attempts are refused there is another one, signed anew. -/
theorem runUntil_attempts {g : Instant → Request} (hg : ∀ t, c.stamp key base t = .ok (g t))
    {script : Script} {retries last : Nat} (hf : s.Follows script)
    (u : Undisturbed token deadline ms s)
    (refused : ∀ i < last, isRefused (script.outcome i) = true) (hle : last ≤ retries)
    (stops : last = retries ∨ isRefused (script.outcome last) = false)
    (hw : script.wait last < ms.length) :
    (Task.bind (c.attempt key base retries) f).runUntil token deadline ms s =
      (Task.bind (verdict (script.outcome last)) f).runUntil token deadline
        (ms.drop (script.wait last)) (s.after key (requests g s (last + 1))) := by
  induction last generalizing script ms s retries with
  | zero =>
    rw [runUntil_attempt u (hg _) (hf 0 _) hw]
    rcases stops with rfl | accepted
    · rfl
    · rw [follow_of_accepted accepted]
      rfl
  | succ last ih =>
    obtain ⟨n, rfl⟩ := Nat.exists_eq_add_of_lt hle
    have hd : script.delay 0 < ms.length :=
      Nat.lt_of_le_of_lt (Nat.le_add_right _ _) hw
    have again : c.follow key base (last + n + 1) (script.outcome 0) =
        c.attempt key base (last + n) := by
      rw [follow, refused 0 (Nat.zero_lt_succ last)]
      rfl
    have later : s.Follows script → (s.after key [g (s.clock s.readings)]).Follows script.rest :=
      fun h => h.rest rfl rfl
    rw [runUntil_attempt u (hg _) (hf 0 _) hd, again,
      ih (later hf) (u.drop _ rfl) (fun i hi => refused (i + 1) (Nat.succ_lt_succ hi)) (by omega)
        (stops.imp (by omega) id) ?_]
    · rw [requests_succ hg s (g (s.clock s.readings)) (last + 1), Surroundings.after_cons,
        List.drop_drop]
      rfl
    · rw [List.length_drop]
      have hw : script.delay 0 + script.rest.wait last < ms.length := hw
      omega

/-- What is sent at times `time 0`, `time 1` and so on for one request. -/
structure Sends (c : Client) (key : Option Credentials) (base : Request) (time : Nat → Instant)
    (sent : List Request) : Prop where
  target : ∀ r ∈ sent, r.method = base.method ∧ r.url = base.url ∧ r.body = base.body
  headers : ∀ r ∈ sent, ∀ r' ∈ sent,
    Headers.AgreeOutside [V4.dateHeader, V4.authorizationHeader] r.headers r'.headers
  anonymous : key = none → ∀ r ∈ sent, r = base
  signed : ∀ k, key = some k → ∀ i r, sent[i]? = some r →
    c.signer.sign base k c.config.region (time i) = .ok r ∧
      r.headers.getAll V4.dateHeader = [Utf8.ofString (time i).stamp] ∧
      Receiver.Accepts r k.secretKey c.config.region

theorem sends_anonymous {g : Instant → Request} (hg : ∀ t, c.stamp none base t = .ok (g t))
    (s : Surroundings) (count : Nat) :
    c.Sends none base (fun i => s.clock (s.readings + i)) (requests g s count) := by
  have same : ∀ r ∈ requests g s count, r = base := by
    intro r hr
    obtain ⟨i, -, rfl⟩ := List.mem_map.1 hr
    exact (Except.ok.inj (hg _)).symm
  refine ⟨fun r hr => ?_, fun r hr r' hr' => ?_, fun _ => same, fun k hk => by cases hk⟩
  · rw [same r hr]
    exact ⟨rfl, rfl, rfl⟩
  · rw [same r hr, same r' hr']
    exact .refl _ _

theorem sends_signed {k : Credentials} {g : Instant → Request} (v4 : c.signer = .v4)
    (hg : ∀ t, c.stamp (some k) base t = .ok (g t)) (s : Surroundings) (count : Nat) :
    c.Sends (some k) base (fun i => s.clock (s.readings + i)) (requests g s count) := by
  have hsign (t : Instant) : V4.sign base k c.config.region t = (g t, .ok ()) := by
    have ht := hg t
    rw [stamp, v4] at ht
    exact Signer.signV4_eq_ok.1 ht
  have hmem : ∀ r ∈ requests g s count, ∃ t, r = g t := by
    intro r hr
    obtain ⟨i, -, rfl⟩ := List.mem_map.1 hr
    exact ⟨_, rfl⟩
  refine ⟨fun r hr => ?_, fun r hr r' hr' => ?_, fun h => (by cases h), fun k' hk i r hr => ?_⟩
  · obtain ⟨t, rfl⟩ := hmem r hr
    obtain ⟨_, _, _, h, -, -, hr, -⟩ := V4.signed_of_sign (hsign t)
    rw [hr]
    exact ⟨rfl, rfl, rfl⟩
  · obtain ⟨t, rfl⟩ := hmem r hr
    obtain ⟨t', rfl⟩ := hmem r' hr'
    exact V4.alike_of_sign (hsign t) (hsign t')
  · cases hk
    rw [requests, List.getElem?_map, Option.map_eq_some_iff] at hr
    obtain ⟨j, hj, rfl⟩ := hr
    obtain ⟨-, rfl⟩ := List.getElem?_eq_some_iff.1 hj
    rw [List.getElem_range]
    obtain ⟨_, _, _, h, -, -, hr, signed⟩ := V4.signed_of_sign (hsign (s.clock (s.readings + i)))
    refine ⟨hg _, ?_, ?_⟩
    · rw [hr]
      exact signed.date_eq
    · rw [hr]
      exact signed.accepts

theorem sends_requests {g : Instant → Request} (signer : c.signer = .v4 ∨ key = none)
    (hg : ∀ t, c.stamp key base t = .ok (g t)) (s : Surroundings) (count : Nat) :
    c.Sends key base (fun i => s.clock (s.readings + i)) (requests g s count) := by
  cases key with
  | none => exact sends_anonymous hg s count
  | some k => exact sends_signed (signer.resolve_right (Option.some_ne_none k)) hg s count

/-- A client that reaches its first attempt with `key`, and then meets `s₀`. -/
inductive Enters (c : Client) (s : Surroundings) : Option Credentials → Surroundings → Prop
  | anonymous (hp : c.provider = none) : Enters c s none s
  | keyed {p : Provider} {k : Credentials} {s₀ : Surroundings} (hp : c.provider = some p)
      (ask : s.ask = (.ok k, s₀))
      (region : c.signer.requiresRegion = true → c.config.region.isEmpty = false) :
      Enters c s (some k) s₀

theorem Enters.frame (he : c.Enters s key s₀) :
    s₀.fired = s.fired ∧ s₀.network = s.network ∧ s₀.sent = s.sent := by
  cases he with
  | anonymous hp => exact ⟨rfl, rfl, rfl⟩
  | keyed hp ask region =>
    obtain rfl : s.ask.2 = s₀ := congrArg Prod.snd ask
    exact ⟨rfl, rfl, rfl⟩

theorem poll_send {o : Operation} (hr : o.request c.config = .ok base)
    (he : c.Enters s key s₀) :
    (Task.bind (c.send o) f).poll token s =
      (Task.bind (c.attempt key base c.config.maxRetries) f).poll token s₀ := by
  have hs : c.send o = (do
      let k ← c.credentials
      c.checkRegion k
      c.attempt k base c.config.maxRetries) := by
    rw [send, hr]
    rfl
  rw [hs]
  cases he with
  | anonymous hp =>
    rw [credentials, hp]
    rfl
  | @keyed p k s₀ hp ask region =>
    have checked : c.checkRegion (some k) = pure () := by
      rw [checkRegion, if_neg]
      simp only [Option.isSome_some, Bool.true_and, Bool.and_eq_true, not_and]
      intro hregion hsigner
      rw [region hsigner] at hregion
      cases hregion
    have answered : (Task.bind (c.credentials >>= fun k => do
        c.checkRegion k
        c.attempt k base c.config.maxRetries : Call Response) f).poll token s =
          (Task.bind (c.checkRegion (some k) >>= fun _ =>
            c.attempt (some k) base c.config.maxRetries : Call Response) f).poll token s₀ := by
      rw [credentials, hp]
      change (Task.askProvider _).poll token s = _
      rw [Task.poll, ask]
      rfl
    rw [answered, checked]
    rfl

/-- A request that can be signed once can be signed at any time. -/
theorem exists_stamp (signer : c.signer = .v4 ∨ key = none) {t : Instant} {r : Request}
    (h : c.stamp key base t = .ok r) :
    ∃ g : Instant → Request, ∀ t, c.stamp key base t = .ok (g t) := by
  cases key with
  | none => exact ⟨fun _ => base, fun _ => rfl⟩
  | some k =>
    have v4 : c.signer = .v4 := signer.resolve_right (Option.some_ne_none k)
    simp only [stamp, v4] at h ⊢
    have signable := (V4.sign_ok_iff t).1 ⟨r, Signer.signV4_eq_ok.1 h⟩
    have any (t : Instant) : ∃ r', Signer.v4.sign base k c.config.region t = .ok r' := by
      obtain ⟨r', hr'⟩ := (V4.sign_ok_iff t).2 signable
      exact ⟨r', Signer.signV4_eq_ok.2 hr'⟩
    exact ⟨fun t => (any t).choose, fun t => (any t).choose_spec⟩

theorem runUntil_verdict (u : Undisturbed token deadline ms s) (hms : ms ≠ [])
    (outcome : Except Error Response) :
    (Task.bind (verdict outcome) .done).runUntil token deadline ms s =
      (match outcome with
        | .ok response => (Task.runUntil token deadline ms response.check s).1
        | .error e => some (.error e), s) := by
  rw [Task.bind_done]
  cases outcome with
  | ok response =>
    exact Prod.ext rfl ((Response.idle_check response).runUntil token deadline ms s)
  | error e =>
    obtain ⟨m, ms, rfl⟩ := List.exists_cons_of_ne_nil hms
    exact Task.runUntil_ready u rfl

theorem run_send {o : Operation} (hr : o.request c.config = .ok base) (he : c.Enters s key s₀)
    {ctx : Context} {m : Moment} {ms : List Moment}
    (u : Undisturbed ctx.token (ctx.effectiveDeadline m.time (some c.config.requestTimeout))
      (m :: ms) s) :
    c.run ctx (m :: ms) (c.send o) s =
      Task.runUntil ctx.token (ctx.effectiveDeadline m.time (some c.config.requestTimeout))
        (m :: ms) (Task.bind (c.attempt key base c.config.maxRetries) .done) s₀ := by
  have hp : (Task.bind (c.send o) .done).poll ctx.token s = _ := poll_send hr he
  rw [Task.bind_done] at hp
  exact Task.runUntil_of_poll u (List.cons_ne_nil m ms) he.frame.1.symm hp

variable {b : ClientBuilder} {o : Operation} {script : Script} {ctx : Context} {m : Moment}
variable {last : Nat} {result : Option (Except Error Response)} {s' : Surroundings}

/-- A client sends an operation that reaches its first attempt once more than the network refuses
it, and never more than five times more. The last outcome is the result, and the requests are the
same but for the time and the signature. If the first attempt cannot be signed nothing is sent. -/
theorem send_bounded (hb : b.build = .ok c) (hr : o.request c.config = .ok base)
    (he : c.Enters s key s₀) (signer : c.signer = .v4 ∨ key = none) (hf : s.Follows script)
    (u : Undisturbed ctx.token (ctx.effectiveDeadline m.time (some c.config.requestTimeout))
      (m :: ms) s)
    (hl : script.EndsAt c.config.maxRetries last) (hw : script.wait last < (m :: ms).length)
    (hrun : c.run ctx (m :: ms) (c.send o) s = (result, s')) :
    c.config.maxRetries = min b.choices.maxRetries 5 ∧
      (∀ e, c.stamp key base (s₀.clock s₀.readings) = .error e →
        result = some (.error e) ∧ s'.sent = s.sent) ∧
      (∀ r, c.stamp key base (s₀.clock s₀.readings) = .ok r →
        ∃ sent, s'.sent = s.sent ++ sent ∧ sent.length = last + 1 ∧
          c.Sends key base (fun i => s₀.clock (s₀.readings + i)) sent ∧
          result = match script.outcome last with
            | .ok response => (Task.runUntil ctx.token
                (ctx.effectiveDeadline m.time (some c.config.requestTimeout))
                ((m :: ms).drop (script.wait last)) response.check s').1
            | .error e => some (.error e)) := by
  rw [run_send hr he u] at hrun
  obtain ⟨fired, network, hsent⟩ := he.frame
  have u₀ := u.carry fired.symm
  refine ⟨?_, fun e hs => ?_, fun r hs => ?_⟩
  · obtain ⟨endpoint, -, hc⟩ := bind_eq_ok hb
    cases hc
    rfl
  · rw [attempt_eq] at hrun
    rw [Task.runUntil_ready u₀ (poll_sign_error hs _)] at hrun
    cases hrun
    exact ⟨rfl, hsent⟩
  · obtain ⟨g, hg⟩ := exists_stamp signer hs
    have follows : s₀.Follows script := by
      intro i r
      rw [network, hsent]
      exact hf i r
    have hms : (m :: ms).drop (script.wait last) ≠ [] := by
      rw [Ne, List.drop_eq_nil_iff]
      omega
    rw [runUntil_attempts hg follows u₀ hl.refused hl.le hl.stops hw,
      runUntil_verdict (u₀.drop _ (by rfl)) hms] at hrun
    cases hrun
    refine ⟨requests g s₀ (last + 1), ?_, ?_, sends_requests signer hg s₀ _, rfl⟩
    · rw [Surroundings.after, hsent]
    · rw [requests, List.length_map, List.length_range]

def refusalThenBusy : Script where
  delay i := i
  outcome
    | 0 => .error (.network "error sending request" true)
    | _ => .ok ⟨503, .empty, []⟩

theorem send_bounded_of_refusal : ∃ c base s result s',
    ((ClientBuilder.new "http://localhost:9000").applyAll
        [.region "cn-beijing", .credentials (.fixed (.new "AKTEST" "secret")), .maxRetries 9]).build
          = .ok c ∧
      ((Operation.new "GET").withBucket "bkt-one").request c.config = .ok base ∧
      s.sent = [] ∧ s.Follows refusalThenBusy ∧
      c.run ⟨none, 0⟩ [⟨.ofSeconds 0, false⟩, ⟨.ofSeconds 1, false⟩]
        (c.send ((Operation.new "GET").withBucket "bkt-one")) s = (result, s') ∧
      c.config.maxRetries = 5 ∧ s'.sent.length = 2 ∧
      ∀ r ∈ s'.sent, r.url = base.url ∧ Receiver.Accepts r "secret" "cn-beijing" := by
  have parts : (do
      let c ← ((ClientBuilder.new "http://localhost:9000").applyAll
        [.region "cn-beijing", .credentials (.fixed (.new "AKTEST" "secret")), .maxRetries 9]).build
      let base ← ((Operation.new "GET").withBucket "bkt-one").request c.config
      return (c, base)).toOption.map (fun p : Client × Request => (p.1.config.region,
        p.1.config.requestTimeout, p.1.config.maxRetries, p.2.url.authority?,
        p.2.headers.areText)) =
      some ("cn-beijing", Duration.ofSeconds 120, 5, some "localhost:9000", true) := by
    decide +kernel
  obtain ⟨⟨c, base⟩, built, parts⟩ := exists_of_toOption_map parts
  obtain ⟨c', hb, built⟩ := bind_eq_ok built
  obtain ⟨base', hr, built⟩ := bind_eq_ok built
  cases built
  simp only [Prod.mk.injEq] at parts
  obtain ⟨region, timeout, retries, authority, texts⟩ := parts
  have settings : c.provider = some (.fixed (.new "AKTEST" "secret")) ∧ c.signer = .v4 := by
    obtain ⟨endpoint, -, hc⟩ := bind_eq_ok hb
    cases hc
    exact ⟨rfl, rfl⟩
  let s : Surroundings := ⟨⟨[]⟩, .fixed (.new "AKTEST" "secret"),
    fun n => .ofSeconds (1704067200 + n), 0, refusalThenBusy.network, [], []⟩
  have enters : c.Enters s (some (.new "AKTEST" "secret")) { s with readings := 2 } := by
    refine .keyed settings.1 ?_ ?_
    · rw [Surroundings.ask, Provider.ask_fixed]
    · intro _
      rw [region]
      decide
  have follows : s.Follows refusalThenBusy := by
    intro i r
    exact congrArg (refusalThenBusy.network · r) (Nat.zero_add i)
  have calm : Undisturbed 0 (Context.effectiveDeadline ⟨none, 0⟩ (.ofSeconds 0)
      (some c.config.requestTimeout)) [⟨.ofSeconds 0, false⟩, ⟨.ofSeconds 1, false⟩] s := by
    rw [timeout]
    exact ⟨by decide, rfl⟩
  have ends : refusalThenBusy.EndsAt c.config.maxRetries 1 := by
    rw [retries]
    exact Or.inl ⟨1, by decide, rfl, rfl⟩
  have signs : ∃ signed, V4.sign base (.new "AKTEST" "secret") c.config.region (s.clock 2) =
      (signed, .ok ()) :=
    V4.sign_succeeds (by rw [V4.hostOf, authority]) (by decide) (by decide)
      (fun t ht => by cases ht) (by rw [region]; decide)
      (fun name _ => Headers.isText_of_areText texts name) (s.clock 2)
  obtain ⟨signed, hsigned⟩ := signs
  have stamped : c.stamp (some (.new "AKTEST" "secret")) base (s.clock 2) = .ok signed := by
    rw [stamp, settings.2]
    exact Signer.signV4_eq_ok.2 hsigned
  cases hrun : c.run ⟨none, 0⟩ [⟨.ofSeconds 0, false⟩, ⟨.ofSeconds 1, false⟩]
      (c.send ((Operation.new "GET").withBucket "bkt-one")) s with
  | mk result s' =>
    obtain ⟨-, -, attempts⟩ := send_bounded hb hr enters (Or.inl settings.2) follows calm ends
      (by decide) hrun
    obtain ⟨sent, hsent, count, sends, -⟩ := attempts signed stamped
    rw [List.nil_append] at hsent
    rw [← hsent] at count sends
    refine ⟨c, base, s, result, s', hb, hr, rfl, follows, hrun, retries, count, fun r hm => ?_⟩
    obtain ⟨i, hi⟩ := List.getElem?_of_mem hm
    rw [← region]
    exact ⟨(sends.target r hm).2.1, (sends.signed _ rfl i r hi).2.2⟩

end Client

end ObjectStorage
