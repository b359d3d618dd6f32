import ObjectStorage.Proofs.Client.Transfer
import ObjectStorage.Proofs.Task.Decision

/-!
# Reading within a context

A reader that waits for more of a body waits within the run of its operation, if the operation reads
the body itself: a download, the policy of a bucket, and whatever is refused. There it ends at the
first moment at which the token has fired or the deadline has passed. The body that `fetch` reads of
an answer comes after the run, and nothing ends that: `reading_interrupted`.
-/
namespace ObjectStorage

variable {α β : Type} {token : CancelToken} {deadline : Option Duration}
variable {m arrival : Moment} {ms past before since later : List Moment}
variable {s s' s₁ : Surroundings}

namespace Task

inductive Stalls : Nat → Task α → Prop
  | zero (t : Task α) : Stalls 0 t
  | wait {n : Nat} {rest : Task α} (later : Stalls n rest) : Stalls (n + 1) (.wait rest)
  | never (n : Nat) : Stalls n .never

theorem Stalls.bind {n : Nat} {t : Task α} (h : Stalls n t) (f : α → Task β) :
    Stalls n (t.bind f) := by
  induction h with
  | zero t => exact .zero _
  | wait _ ih => exact .wait ih
  | never n => exact .never n

theorem Stalls.poll {n : Nat} {t : Task α} (h : Stalls (n + 1) t) (token : CancelToken)
    (s : Surroundings) : ∃ rest, t.poll token s = (.waiting rest, s) ∧ Stalls n rest := by
  cases h with
  | wait later => exact ⟨_, rfl, later⟩
  | never => exact ⟨_, rfl, .never n⟩

theorem Stalls.finish {n : Nat} {t : Task (Except Error α)} (h : Stalls n t)
    (token : CancelToken) (s : Surroundings) : t.finish token n s = (none, s) := by
  induction n generalizing t with
  | zero => rfl
  | succ n ih =>
    obtain ⟨rest, hp, later⟩ := h.poll token s
    rw [Task.finish, hp]
    exact ih later

theorem Stalls.waits {n : Nat} {t : Task (Except Error α)} (h : Stalls (ms.length + n) t)
    (calm : ∀ m ∈ ms, Awake token m s ∧ m.isLate deadline = false) :
    ∃ t', Waits token deadline ms t s t' s ∧ Stalls n t' := by
  induction ms generalizing t with
  | nil => exact ⟨t, .nil t s, by rwa [List.length_nil, Nat.zero_add] at h⟩
  | cons m ms ih =>
    rw [List.length_cons, Nat.add_right_comm] at h
    obtain ⟨⟨awake, early⟩, calm⟩ := List.forall_mem_cons.1 calm
    obtain ⟨rest, hp, later⟩ := h.poll token s
    obtain ⟨t', waits, stalls⟩ := ih later calm
    exact ⟨t', .cons ⟨awake, hp, early⟩ waits, stalls⟩

theorem Waits.trans {t t' t'' : Task (Except Error α)} (h : Waits token deadline past t s t' s₁)
    (h' : Waits token deadline ms t' s₁ t'' s') : Waits token deadline (past ++ ms) t s t'' s' := by
  induction h with
  | nil t s => exact h'
  | cons now _ ih => exact .cons now (ih h')

theorem Waits.bind {t t' : Task (Except Error α)} (h : Waits token deadline ms t s t' s')
    (f : Except Error α → Task (Except Error β)) :
    Waits token deadline ms (t.bind f) s (t'.bind f) s' := by
  induction h with
  | nil t s => exact .nil _ s
  | cons now _ ih =>
    refine .cons ⟨now.awake, ?_, now.early⟩ ih
    rw [poll_bind, now.waiting]

end Task

namespace Body

variable {b : Body} {look : Nat}

/-- A reader that found nothing more at each look before finds nothing more at this one: looks are
counted from the first one. -/
def IsPending (b : Body) (look : Nat) : Prop := b.whole = none ∨ look < b.pauses

theorem isPending_chunk {data : Bytes} : IsPending (.chunk data :: b) look ↔ b.IsPending look := by
  rw [IsPending, IsPending, whole, pauses, Option.map_eq_none_iff]

theorem stalls_read (h : b.IsPending look) : (read b).Stalls (look + 1) := by
  induction b generalizing look with
  | nil => rcases h with h | h <;> cases h
  | cons e b ih =>
    cases e with
    | chunk data => exact (ih (isPending_chunk.1 h)).bind _
    | failure e => rcases h with h | h <;> cases h
    | pause =>
      refine .wait ?_
      cases look with
      | zero => exact .zero _
      | succ look => exact ih (h.imp_right Nat.lt_of_succ_lt_succ)
    | silence => exact .never _

theorem finish_read {content : Except Error Bytes} {looks : Nat} (hw : b.whole = some content)
    (hp : b.pauses < looks) (f : Except Error Bytes → Task (Except Error α)) (token : CancelToken)
    (s : Surroundings) :
    ((read b).bind f).finish token looks s = (f content).finish token (looks - b.pauses) s := by
  induction b generalizing looks content f with
  | nil =>
    cases hw
    rfl
  | cons e b ih =>
    cases e with
    | chunk data =>
      obtain ⟨rest, hr, rfl⟩ := Option.map_eq_some_iff.1 hw
      rw [read, Task.bind_bind]
      exact ih hr hp _
    | failure e =>
      cases hw
      rfl
    | pause =>
      cases looks with
      | zero => cases hp
      | succ looks =>
        have later : ((read (.pause :: b)).bind f).finish token (looks + 1) s =
          ((read b).bind f).finish token looks s := rfl
        rw [later, ih hw (Nat.lt_of_succ_lt_succ hp), pauses, Nat.add_sub_add_right]
    | silence => cases hw

theorem finish_whole {content : Except Error Bytes} {looks : Nat} (hw : b.whole = some content)
    (hp : b.pauses < looks) (token : CancelToken) (s : Surroundings) :
    (read b).finish token looks s = (some content, s) := by
  have last := finish_read hw hp .done token s
  rw [Task.bind_done] at last
  rw [last]
  cases hl : looks - b.pauses with
  | zero => omega
  | succ n => rfl

end Body

namespace Client

variable {c : Client} {ctx : Context} {o : Operation} {response : Response}

/-- The response to a request, with its body unread; what it is makes no difference here. -/
def attemptReply (c : Client) (key : Option Credentials) (base : Request) : Nat → Call Response
  | 0 => do
    let signed ← c.sign key base
    ExceptT.mk (Task.exchange signed .done)
  | retries + 1 => do
    let signed ← c.sign key base
    ExceptT.mk (Task.exchange signed fun outcome =>
      if isRefused outcome then c.attemptReply key base retries else .done outcome)

def reply (c : Client) (o : Operation) : Call Response := do
  let r ← Call.ofExcept (o.request c.config)
  let k ← c.credentials
  c.checkRegion k
  c.attemptReply k r c.config.maxRetries

theorem bind_verdict (call : Call α) (f : α → Call Response) :
    (Task.bind (call >>= f : Call Response) verdict : Task (Except Error Response)) =
      (call >>= fun a => Task.bind (f a) verdict : Call Response) := by
  refine (Task.bind_bind call _ verdict).trans (congrArg (Task.bind call) (funext fun a => ?_))
  cases a with
  | error e => rfl
  | ok a => rfl

theorem attempt_eq_reply (c : Client) (key : Option Credentials) (base : Request) (retries : Nat) :
    c.attempt key base retries = Task.bind (c.attemptReply key base retries) verdict := by
  induction retries with
  | zero =>
    rw [attempt_eq, attemptReply, bind_verdict]
    rfl
  | succ retries ih =>
    rw [attempt_eq, attemptReply, bind_verdict]
    have same : c.follow key base (retries + 1) = fun outcome => Task.bind
        (if isRefused outcome then c.attemptReply key base retries else .done outcome) verdict := by
      funext outcome
      rw [follow, ih]
      split
      · rfl
      · rfl
    rw [same]
    rfl

theorem send_eq_reply (c : Client) (o : Operation) :
    c.send o = Task.bind (c.reply o) verdict := by
  rw [send, reply, bind_verdict]
  simp only [bind_verdict, attempt_eq_reply]

def objectCall (c : Client) (bucket key : String) : Call ObjectAnswer :=
  c.send (objectOperation "GET" bucket key) >>= c.download

def readPolicy (r : Response) : Call PolicyAnswer := do
  let body ← r.content
  let rules ← Call.ofExcept (Rules.decode body)
  return ⟨r.headers.requestId, rules⟩

def policyCall (c : Client) (bucket : String) : Call PolicyAnswer :=
  c.send (policyOperation "GET" bucket) >>= readPolicy

/-- A call that first reads what came back, whatever it makes of it. -/
def Reads (response : Response) (t : Task (Except Error α)) : Prop :=
  ∃ f, t = (Body.read response.body).bind f

theorem reads_refusal (refused : response.isAnswer = false) :
    Reads response (verdict (.ok response)) := by
  refine ⟨_, if_neg ?_⟩
  rw [refused]
  exact Bool.false_ne_true

theorem Reads.bind {t : Task (Except Error α)} (h : Reads response t)
    (f : Except Error α → Task (Except Error β)) : Reads response (t.bind f) := by
  obtain ⟨g, rfl⟩ := h
  exact ⟨_, Task.bind_bind _ g f⟩

theorem reads_bind {f : Response → Call α} (h : Reads response (f response)) :
    Reads response (Task.bind (verdict (.ok response)) (ExceptT.bindCont (m := Task) f)) := by
  rcases answer : response.isAnswer with _ | _
  · exact (reads_refusal answer).bind _
  · have same : (verdict (.ok response) : Task (Except Error Response)) = .done (.ok response) :=
      Response.check_answer answer
    rw [same]
    exact h

def deadline? (c : Client) (ctx : Context) : List Moment → Option Duration
  | [] => none
  | m :: _ => ctx.effectiveDeadline m.time (some c.config.requestTimeout)

theorem run_eq (c : Client) (ctx : Context) (ms : List Moment) (call : Call α) (s : Surroundings) :
    c.run ctx ms call s = Task.runUntil ctx.token (c.deadline? ctx ms) ms call s := by
  cases ms with
  | nil => rfl
  | cons m ms => rfl

theorem deadline?_append (c : Client) (ctx : Context) (before : List Moment) (m : Moment)
    (later : List Moment) :
    c.deadline? ctx (before ++ m :: later) = c.deadline? ctx (before ++ [m]) := by
  cases before with
  | nil => rfl
  | cons first before => rfl

def polls (c : Client) (ctx : Context) (ms : List Moment) (call : Call α) (s : Surroundings) :
    Nat :=
  (Task.runCounted ctx.token (c.deadline? ctx ms) ms call s).polls

structure Replied (c : Client) (ctx : Context) (o : Operation) (before : List Moment)
    (arrival : Moment) (s : Surroundings) (response : Response) (s' : Surroundings) : Prop where
  awaited : (c.run ctx before (c.reply o) s).1 = none
  replied : c.run ctx (before ++ [arrival]) (c.reply o) s = (some (.ok response), s')

/-- The first moment at which a body is under way and the token has fired or the deadline has
passed, after the moments before it, and what an operation is told then. When it arrives a response
can only be late. -/
inductive Interrupted (token : CancelToken) (deadline : Option Duration) (before : List Moment)
    (arrival : Moment) (body : Body) (s : Surroundings) : List Moment → Moment → Error → Prop
  | late_reply (pending : body.IsPending 0) (late : arrival.isLate deadline = true) :
      Interrupted token deadline before arrival body s before arrival .deadlineExceeded
  | canceled {since : List Moment} {m : Moment} (early : arrival.isLate deadline = false)
      (calm : ∀ m ∈ since, Awake token m s ∧ m.isLate deadline = false)
      (pending : body.IsPending since.length) (fired : ¬ Awake token m s) :
      Interrupted token deadline before arrival body s (before ++ arrival :: since) m .canceled
  | expired {since : List Moment} {m : Moment} (early : arrival.isLate deadline = false)
      (calm : ∀ m ∈ since, Awake token m s ∧ m.isLate deadline = false)
      (pending : body.IsPending (since.length + 1)) (awake : Awake token m s)
      (late : m.isLate deadline = true) :
      Interrupted token deadline before arrival body s (before ++ arrival :: since) m
        .deadlineExceeded

/-- An operation is under way until the moment `m` and ends there with an error: it is polled no
more, whatever moments follow. -/
structure Stops (op : List Moment → Outcome α) (polls : List Moment → Nat) (past : List Moment)
    (m : Moment) (e : Error) (s : Surroundings) : Prop where
  under_way : (op past).1 = none
  ends : ∀ later, op (past ++ m :: later) = (some (.error e), s)
  unread : ∃ n ≤ past.length + 1, ∀ later, polls (past ++ m :: later) = n

theorem run_of_append (c : Client) (ctx : Context) (past : List Moment) (m : Moment) (call : Call α)
    (s : Surroundings) :
    c.run ctx past call s =
      Task.runUntil ctx.token (c.deadline? ctx (past ++ [m])) past call s := by
  cases past with
  | nil => rfl
  | cons first past => rfl

theorem stops_of_decides {call : Call α} {t : Task (Except Error α)} {e : Error} {n : Nat}
    (hd : c.deadline? ctx (past ++ [m]) = deadline)
    (waits : Task.Waits ctx.token deadline past call s t s₁)
    (decides : Task.Decides ctx.token deadline m t s₁ (.error e) s' n) :
    Stops (fun ms => c.run ctx ms call s) (fun ms => c.polls ctx ms call s) past m e s' := by
  have counted : ∀ later, Task.runCounted ctx.token (c.deadline? ctx (past ++ m :: later))
      (past ++ m :: later) call s = ⟨(some (.error e), s'), past.length + n⟩ := by
    intro later
    rw [deadline?_append, hd, waits.runCounted, decides.runCounted]
  constructor
  case under_way =>
    have run := waits.runUntil []
    rw [List.append_nil] at run
    rw [run_of_append c ctx past m, hd, run]
    rfl
  case ends =>
    intro later
    rw [run_eq, ← Task.runCounted_value, counted]
  case unread =>
    refine ⟨past.length + n, Nat.add_le_add_left ?_ _, fun later => ?_⟩
    case refine_2 => exact congrArg Counted.polls (counted later)
    cases decides with
    | canceled => exact Nat.zero_le 1
    | completed => exact Nat.le_refl 1
    | expired => exact Nat.le_refl 1

section

variable (h : c.Replied ctx o before arrival s response s')
variable {f : Except Error Response → Task (Except Error α)} {e : Error}

include h

theorem Replied.exists_waits : ∃ t s₁,
    Task.Waits ctx.token (c.deadline? ctx (before ++ [arrival])) before (c.reply o) s t s₁ ∧
      Awake ctx.token arrival s₁ ∧ t.poll ctx.token s₁ = (.ready (.ok response), s') := by
  obtain ⟨awaited, replied⟩ := h
  rw [run_of_append c ctx before arrival, ← Task.runCounted_value] at awaited
  rw [run_eq] at replied
  rcases Task.runCounted_decided ctx.token (c.deadline? ctx (before ++ [arrival])) before
    (c.reply o) s with ⟨t, s₁, waits, -⟩ | ended
  · refine ⟨t, s₁, waits, ?_⟩
    rw [waits.runUntil] at replied
    rcases Task.decides_or_passes ctx.token (c.deadline? ctx (before ++ [arrival])) arrival t s₁
      with ⟨result, after, n, decides⟩ | ⟨rest, after, passes⟩
    · rw [decides.runUntil] at replied
      cases replied
      cases decides with
      | completed awake ready => exact ⟨awake, ready⟩
    · have run := (Task.Waits.cons passes (.nil rest after)).runUntil []
      rw [List.append_nil] at run
      rw [run] at replied
      cases replied
  · obtain ⟨_, _, _, _, _, _, _, _, -, -, -, same⟩ := ended
    rw [same] at awaited
    cases awaited

theorem Replied.exists_poll : ∃ t s₁,
    Task.Waits ctx.token (c.deadline? ctx (before ++ [arrival])) before
      (Task.bind (c.reply o) f) s t s₁ ∧
      Awake ctx.token arrival s₁ ∧
      t.poll ctx.token s₁ = (f (.ok response)).poll ctx.token s' := by
  obtain ⟨t, s₁, waits, awake, ready⟩ := h.exists_waits
  refine ⟨t.bind f, s₁, waits.bind f, awake, ?_⟩
  rw [Task.poll_bind, ready]

theorem Replied.stops {call : Call α} (hc : call = Task.bind (c.reply o) f)
    (reads : Reads response (f (.ok response)))
    (hi : Interrupted ctx.token (c.deadline? ctx (before ++ [arrival])) before arrival
      response.body s' past m e) :
    Stops (fun ms => c.run ctx ms call s) (fun ms => c.polls ctx ms call s) past m e s' := by
  subst hc
  obtain ⟨g, hg⟩ := reads
  obtain ⟨t, s₁, waits, awake, look⟩ := h.exists_poll (f := f)
  rw [hg] at look
  -- a reader that finds something missing at these looks waits at the polls they belong to
  have looks : ∀ n, response.body.IsPending n → ∃ rest,
      t.poll ctx.token s₁ = (.waiting rest, s') ∧ Task.Stalls n rest := by
    intro n pending
    rw [look]
    exact ((Body.stalls_read pending).bind g).poll ctx.token s'
  have deadline : ∀ since m, c.deadline? ctx (before ++ arrival :: since ++ [m]) =
      c.deadline? ctx (before ++ [arrival]) := by
    intro since m
    rw [List.append_assoc, List.cons_append, deadline?_append]
  cases hi with
  | late_reply pending late =>
    obtain ⟨rest, hp, -⟩ := looks 0 pending
    exact stops_of_decides rfl waits (.expired awake hp late)
  | @canceled since m early calm pending fired =>
    obtain ⟨rest, hp, stalls⟩ := looks since.length pending
    obtain ⟨t', later, -⟩ := Task.Stalls.waits (n := 0) stalls calm
    exact stops_of_decides (deadline since m) (waits.trans (.cons ⟨awake, hp, early⟩ later))
      (.canceled fired)
  | @expired since m early calm pending awake' late =>
    obtain ⟨rest, hp, stalls⟩ := looks (since.length + 1) pending
    obtain ⟨t', later, stalls⟩ := stalls.waits calm
    obtain ⟨rest', hp', -⟩ := stalls.poll ctx.token s'
    exact stops_of_decides (deadline since m) (waits.trans (.cons ⟨awake, hp, early⟩ later))
      (.expired awake' hp' late)

theorem Replied.execute (answer : response.isAnswer = true) (later : List Moment) :
    c.execute ctx (before ++ arrival :: later) o s = (some (.ok response), s') := by
  obtain ⟨t, s₁, waits, awake, look⟩ := h.exists_poll (f := verdict)
  have ready : t.poll ctx.token s₁ = (.ready (.ok response), s') := by
    rw [look, verdict, Response.check_answer answer]
    rfl
  rw [Client.execute, run_eq, send_eq_reply, deadline?_append, waits.runUntil]
  exact (Task.Decides.completed awake ready).runUntil later

theorem Replied.fetch (answer : response.isAnswer = true) (later : List Moment) (looks : Nat) :
    c.fetch ctx (before ++ arrival :: later) looks o s =
      Task.finish ctx.token looks (Body.read response.body) s' := by
  rw [Client.fetch, h.execute answer later]
  rfl

end

theorem exists_first (hm : m ∈ since) (hit : ¬ Awake token m s ∨ m.isLate deadline = true) :
    ∃ waited m later, since = waited ++ m :: later ∧
      (∀ m ∈ waited, Awake token m s ∧ m.isLate deadline = false) ∧
      (¬ Awake token m s ∨ m.isLate deadline = true) := by
  induction since with
  | nil => cases hm
  | cons first since ih =>
    by_cases now : ¬ Awake token first s ∨ first.isLate deadline = true
    · exact ⟨[], first, since, rfl, fun _ hm => absurd hm List.not_mem_nil, now⟩
    · have calm : Awake token first s ∧ first.isLate deadline = false :=
        ⟨Classical.not_not.1 fun h => now (Or.inl h), Bool.eq_false_iff.2 fun h => now (Or.inr h)⟩
      rcases List.mem_cons.1 hm with rfl | hm
      · exact absurd hit now
      · obtain ⟨waited, m, later, rfl, waiting, hit⟩ := ih hm
        exact ⟨first :: waited, m, later, rfl, List.forall_mem_cons.2 ⟨calm, waiting⟩, hit⟩

theorem Stops.conclude {op : List Moment → Outcome α} {polls : List Moment → Nat} {e : Error}
    (h : Stops op polls past m e s) {op' : List Moment → Outcome β}
    (waiting : ∀ ms, (op ms).1 = none → (op' ms).1 = none)
    (failed : ∀ ms, op ms = (some (.error e), s) → op' ms = (some (.error e), s)) :
    Stops op' polls past m e s :=
  ⟨waiting past h.under_way, fun later => failed _ (h.ends later), h.unread⟩

theorem Replied.stops_send_bind {f : Response → Call α} {e : Error}
    (h : c.Replied ctx o before arrival s response s') (reads : Reads response (f response))
    (hi : Interrupted ctx.token (c.deadline? ctx (before ++ [arrival])) before arrival
      response.body s' past m e) :
    Stops (fun ms => c.run ctx ms (c.send o >>= f) s)
      (fun ms => c.polls ctx ms (c.send o >>= f) s) past m e s' := by
  have call : (c.send o >>= f : Call α) = Task.bind (c.reply o)
      fun outcome => Task.bind (verdict outcome) (ExceptT.bindCont (m := Task) f) := by
    rw [send_eq_reply]
    exact Task.bind_bind _ _ _
  exact h.stops call (reads_bind reads) hi

theorem Replied.stops_fetch {e : Error} (h : c.Replied ctx o before arrival s response s')
    (refused : response.isAnswer = false)
    (hi : Interrupted ctx.token (c.deadline? ctx (before ++ [arrival])) before arrival
      response.body s' past m e) (looks : Nat) :
    Stops (fun ms => c.fetch ctx ms looks o s) (fun ms => c.polls ctx ms (c.send o) s) past m e
      s' := by
  refine (h.stops (c.send_eq_reply o) (reads_refusal refused) hi).conclude (fun ms waiting => ?_)
    fun ms failed => ?_
  · have run : c.execute ctx ms o s = (none, (c.execute ctx ms o s).2) := Prod.ext waiting rfl
    rw [Client.fetch, run]
  · have run : c.execute ctx ms o s = _ := failed
    rw [Client.fetch, run]

theorem exists_interrupted {body : Body} (pending : body.IsPending since.length)
    (hit : arrival.isLate deadline = true ∨
      ∃ m ∈ since, ¬ Awake token m s ∨ m.isLate deadline = true) :
    ∃ past m later e, before ++ arrival :: since = past ++ m :: later ∧
      Interrupted token deadline before arrival body s past m e := by
  have earlier : ∀ {look}, look ≤ since.length → body.IsPending look := fun le =>
    pending.imp_right (Nat.lt_of_le_of_lt le)
  rcases late : arrival.isLate deadline with _ | _
  · rw [late] at hit
    obtain ⟨m, hm, hit⟩ := hit.resolve_left Bool.false_ne_true
    obtain ⟨waited, m, later, rfl, calm, hit⟩ := exists_first hm hit
    by_cases awake : Awake token m s
    · refine ⟨before ++ arrival :: waited, m, later, .deadlineExceeded, by simp, ?_⟩
      refine .expired late calm (earlier ?_) awake (hit.resolve_left (not_not_intro awake))
      simp
    · refine ⟨before ++ arrival :: waited, m, later, .canceled, by simp, ?_⟩
      refine .canceled late calm (earlier ?_) awake
      simp
  · exact ⟨before, arrival, since, .deadlineExceeded, rfl,
      .late_reply (earlier (Nat.zero_le _)) late⟩

/-- Which operations end at the first moment at which they wait for a body although the token has
fired or the deadline has passed: those that read it themselves, and each one that is refused. What
is read of an answer after the run ends only with the body. -/
theorem reading_interrupted (h : c.Replied ctx o before arrival s response s')
    (pending : response.body.IsPending since.length)
    (hit : arrival.isLate (c.deadline? ctx (before ++ [arrival])) = true ∨ ∃ m ∈ since,
      ¬ Awake ctx.token m s' ∨ m.isLate (c.deadline? ctx (before ++ [arrival])) = true) :
    (∃ past m later e, before ++ arrival :: since = past ++ m :: later ∧
      Interrupted ctx.token (c.deadline? ctx (before ++ [arrival])) before arrival response.body s'
        past m e ∧
      (∀ bucket key, o = objectOperation "GET" bucket key →
        Stops (fun ms => c.getObject ctx ms bucket key s)
          (fun ms => c.polls ctx ms (c.objectCall bucket key) s) past m e s') ∧
      (∀ bucket, o = policyOperation "GET" bucket →
        Stops (fun ms => c.getBucketPolicy ctx ms bucket s)
          (fun ms => c.polls ctx ms (c.policyCall bucket) s) past m e s') ∧
      (response.isAnswer = false → ∀ looks, Stops (fun ms => c.fetch ctx ms looks o s)
        (fun ms => c.polls ctx ms (c.send o) s) past m e s')) ∧
    (response.isAnswer = true → ∀ later looks,
      (looks ≤ since.length + 1 →
        c.fetch ctx (before ++ arrival :: later) looks o s = (none, s')) ∧
      ∀ content, response.body.whole = some content → response.body.pauses < looks →
        c.fetch ctx (before ++ arrival :: later) looks o s = (some content, s')) := by
  constructor
  · obtain ⟨past, m, later, e, split, hi⟩ := exists_interrupted pending hit
    refine ⟨past, m, later, e, split, hi, ?_, ?_, ?_⟩
    · rintro bucket key rfl
      exact h.stops_send_bind ⟨_, c.download_eq response⟩ hi
    · rintro bucket rfl
      exact h.stops_send_bind (f := readPolicy) ⟨_, rfl⟩ hi
    · exact fun refused looks => h.stops_fetch refused hi looks
  · intro answer later looks
    rw [h.fetch answer]
    refine ⟨fun few => ?_, fun content whole enough => Body.finish_whole whole enough ctx.token s'⟩
    cases looks with
    | zero => rfl
    | succ look =>
      have still : response.body.IsPending look :=
        pending.imp_right (Nat.lt_of_le_of_lt (Nat.le_of_succ_le_succ few))
      exact (Body.stalls_read still).finish ctx.token s'

/-- A service that answers every request at once with this body; its caller gives up meanwhile. -/
def abandoning (body : Body) : Surroundings :=
  { answering ⟨200, .empty, body⟩ with
    network := fun _ _ => ⟨some 0, .ok ⟨200, .empty, body⟩, true⟩ }

theorem replied_at_once {base : Request} {cancels : Bool}
    (hr : o.request c.config = .ok base) (hp : c.provider = none)
    (awake : Awake ctx.token arrival s)
    (hn : s.network s.sent.length base = ⟨some 0, .ok response, cancels⟩) :
    c.Replied ctx o [] arrival s response (s.send ctx.token base).2 := by
  have call : c.reply o = c.attemptReply none base c.config.maxRetries := by
    rw [reply, hr]
    change (c.credentials >>= _ : Call Response) = _
    rw [credentials, hp]
    rfl
  have ready : Task.poll ctx.token (c.reply o) s =
      (.ready (.ok response), (s.send ctx.token base).2) := by
    have sent : s.send ctx.token base =
        (⟨some 0, .ok response, cancels⟩, (s.send ctx.token base).2) := Prod.ext hn rfl
    rw [call]
    cases c.config.maxRetries with
    | zero =>
      change (Task.exchange base .done).poll ctx.token s = _
      rw [Task.poll, sent]
      rfl
    | succ retries =>
      change (Task.exchange base _).poll ctx.token s = _
      rw [Task.poll, sent]
      rfl
  exact ⟨rfl, (Task.Decides.completed awake ready).runUntil []⟩

theorem exists_abandoned : ∃ c, (ClientBuilder.new "http://localhost:9000").build = .ok c ∧
    c.deadline? ⟨none, 0⟩ [⟨.ofSeconds 0, false⟩] = some (.ofSeconds 120) ∧ ∀ body, ∃ s',
      c.Replied ⟨none, 0⟩ (objectOperation "GET" "bkt-one" "a.txt") [] ⟨.ofSeconds 0, false⟩
        (abandoning body) ⟨200, .empty, body⟩ s' ∧ s'.fired = [0] := by
  obtain ⟨c, base, hb, anonymous, -, timeout, hr⟩ := exists_local_client
  refine ⟨c, hb, ?_, fun body => ⟨_, replied_at_once hr anonymous ⟨rfl, rfl⟩ rfl, rfl⟩⟩
  rw [deadline?, timeout]
  rfl

theorem not_awake_of_fired (fired : s.fired = [0]) (m : Moment) : ¬ Awake 0 m s := by
  rintro ⟨-, silent⟩
  rw [fired] at silent
  cases silent

theorem reading_interrupted_of_token : ∃ c s',
    (ClientBuilder.new "http://localhost:9000").build = .ok c ∧
      Stops (fun ms => c.getObject ⟨none, 0⟩ ms "bkt-one" "a.txt"
          (abandoning [.chunk (Utf8.ofString "a"), .pause, .pause, .chunk (Utf8.ofString "b")]))
        (fun ms => c.polls ⟨none, 0⟩ ms (c.objectCall "bkt-one" "a.txt")
          (abandoning [.chunk (Utf8.ofString "a"), .pause, .pause, .chunk (Utf8.ofString "b")]))
        [⟨.ofSeconds 0, false⟩] ⟨.ofSeconds 1, false⟩ .canceled s' := by
  obtain ⟨c, hb, deadline, replied⟩ := exists_abandoned
  obtain ⟨s', h, fired⟩ := replied
    [.chunk (Utf8.ofString "a"), .pause, .pause, .chunk (Utf8.ofString "b")]
  have pending : Body.IsPending
      [.chunk (Utf8.ofString "a"), .pause, .pause, .chunk (Utf8.ofString "b")]
      [(⟨.ofSeconds 1, false⟩ : Moment)].length := Or.inr (by decide)
  obtain ⟨⟨past, m, later, e, split, hi, download, -⟩, -⟩ :=
    reading_interrupted h pending
      (Or.inr ⟨_, List.mem_cons_self, Or.inl (not_awake_of_fired fired _)⟩)
  have stops := download "bkt-one" "a.txt" rfl
  refine ⟨c, s', hb, ?_⟩
  rw [List.nil_append, deadline] at hi
  cases hi with
  | late_reply pending late => exact absurd late (by decide)
  | expired early calm pending awake late => exact absurd awake (not_awake_of_fired fired m)
  | @canceled since _ early calm =>
    cases since with
    | nil =>
      cases split
      exact stops
    | cons first since =>
      exact absurd (calm first List.mem_cons_self).1 (not_awake_of_fired fired first)

/-- A body that `fetch` reads after the token has fired: one that comes late is returned all the
same, and one that does not come is waited for without end. -/
theorem fetch_outlives_token : ∃ c, (ClientBuilder.new "http://localhost:9000").build = .ok c ∧
    (∃ body s', Body.IsPending body 1 ∧
      c.Replied ⟨none, 0⟩ (objectOperation "GET" "bkt-one" "a.txt") [] ⟨.ofSeconds 0, false⟩
        (abandoning body) ⟨200, .empty, body⟩ s' ∧
      ¬ Awake 0 ⟨.ofSeconds 1, false⟩ s' ∧
      c.fetch ⟨none, 0⟩ [⟨.ofSeconds 0, false⟩, ⟨.ofSeconds 1, false⟩] 3
        (objectOperation "GET" "bkt-one" "a.txt") (abandoning body) =
          (some (.ok (Utf8.ofString "ab")), s')) ∧
    ∃ body s', (∀ look, Body.IsPending body look) ∧
      c.Replied ⟨none, 0⟩ (objectOperation "GET" "bkt-one" "a.txt") [] ⟨.ofSeconds 0, false⟩
        (abandoning body) ⟨200, .empty, body⟩ s' ∧
      ¬ Awake 0 ⟨.ofSeconds 1, false⟩ s' ∧
      ∀ looks, c.fetch ⟨none, 0⟩ [⟨.ofSeconds 0, false⟩, ⟨.ofSeconds 1, false⟩] looks
        (objectOperation "GET" "bkt-one" "a.txt") (abandoning body) = (none, s') := by
  obtain ⟨c, hb, -, replied⟩ := exists_abandoned
  refine ⟨c, hb, ?_, ?_⟩
  · obtain ⟨s', h, fired⟩ := replied
      [.chunk (Utf8.ofString "a"), .pause, .pause, .chunk (Utf8.ofString "b")]
    refine ⟨_, s', Or.inr (by decide), h, not_awake_of_fired fired _, ?_⟩
    exact h.fetch rfl [⟨.ofSeconds 1, false⟩] 3
  · obtain ⟨s', h, fired⟩ := replied [.chunk (Utf8.ofString "a"), .silence]
    have pending : ∀ look, Body.IsPending [.chunk (Utf8.ofString "a"), .silence] look :=
      fun look => Or.inl rfl
    refine ⟨_, s', pending, h, not_awake_of_fired fired _, fun looks => ?_⟩
    refine (h.fetch rfl [⟨.ofSeconds 1, false⟩] looks).trans ?_
    cases looks with
    | zero => rfl
    | succ look => exact (Body.stalls_read (pending look)).finish 0 s'

end Client

end ObjectStorage
