import ObjectStorage.Proofs.Task.Undisturbed

/-!
# What a run asks and sends

`Task.events` is the record of a run: the questions to the provider with their answers and the
requests, in order. It takes the branches of the run itself, and `sent_runUntil` says that the
requests in it are those that the run adds to the surroundings. What every event of a task has in
common, `Emits`, is read off the task and then holds of every run of it, to its end or not.
-/
namespace ObjectStorage

inductive Event where
  | asked (answer : Except Error Credentials)
  | sent (request : Request)

def Event.request? : Event → Option Request
  | asked _ => none
  | sent r => some r

def Event.IsSent (e : Event) : Prop := ∃ r, e = sent r

theorem Event.exists_requests {events : List Event} (h : ∀ e ∈ events, e.IsSent) :
    ∃ requests : List Request, events = requests.map Event.sent := by
  induction events with
  | nil => exact ⟨[], rfl⟩
  | cons e events ih =>
    obtain ⟨⟨r, rfl⟩, later⟩ := List.forall_mem_cons.1 h
    obtain ⟨requests, rfl⟩ := ih later
    exact ⟨r :: requests, rfl⟩

theorem Event.mem_filterMap_request {events : List Event} {r : Request} :
    r ∈ events.filterMap Event.request? ↔ Event.sent r ∈ events := by
  rw [List.mem_filterMap]
  constructor
  · rintro ⟨e, he, hr⟩
    cases e with
    | asked answer => cases hr
    | sent r' =>
      cases hr
      exact he
  · exact fun he => ⟨.sent r, he, rfl⟩

/-- The token is silent when a run looks at its task. -/
def Awake (token : CancelToken) (m : Moment) (s : Surroundings) : Prop :=
  m.canceled = false ∧ s.fired.contains token = false

theorem Awake.not_given_up {token : CancelToken} {m : Moment} {s : Surroundings}
    (h : Awake token m s) : (m.canceled || s.fired.contains token) = false := by
  rw [h.1, h.2]
  rfl

namespace Task

variable {α β : Type}

def pollEvents (token : CancelToken) : Task α → Surroundings → List Event
  | done _, _ | wait _, _ | never, _ => []
  | readClock next, s => (next s.tick.1).pollEvents token s.tick.2
  | askProvider next, s => .asked s.ask.1 :: (next s.ask.1).pollEvents token s.ask.2
  | exchange r next, s =>
    .sent r :: match (s.send token r).1.delay with
      | some 0 => (next (s.send token r).1.outcome).pollEvents token (s.send token r).2
      | _ => []

def events (token : CancelToken) (deadline : Option Duration) :
    List Moment → Task (Except Error α) → Surroundings → List Event
  | [], _, _ => []
  | m :: ms, t, s =>
    if m.canceled || s.fired.contains token then []
    else
      t.pollEvents token s ++
        match t.poll token s with
        | (.ready _, _) => []
        | (.waiting rest, s) =>
          if m.isLate deadline then [] else events token deadline ms rest s

def record (c : Context) (timeout : Option Duration) (ms : List Moment)
    (t : Task (Except Error α)) (s : Surroundings) : List Event :=
  match ms with
  | [] => []
  | m :: _ => t.events c.token (c.effectiveDeadline m.time timeout) ms s

theorem sent_poll (token : CancelToken) (t : Task α) (s : Surroundings) :
    (t.poll token s).2.sent = s.sent ++ (t.pollEvents token s).filterMap Event.request? := by
  induction t generalizing s with
  | done a => exact (List.append_nil _).symm
  | wait rest ih => exact (List.append_nil _).symm
  | never => exact (List.append_nil _).symm
  | readClock next ih => exact ih s.tick.1 s.tick.2
  | askProvider next ih => exact ih s.ask.1 s.ask.2
  | exchange r next ih =>
    -- a request is on record when it is sent, whether or not its answer comes in this poll
    have one : (s.send token r).2.sent = s.sent ++ [r] := rfl
    rw [poll, pollEvents]
    generalize s.send token r = answered at one ⊢
    obtain ⟨⟨delay, outcome, cancels⟩, after⟩ := answered
    rcases delay with - | - | n
    · exact one
    · refine (ih outcome after).trans ?_
      rw [one, List.append_assoc]
      rfl
    · exact one

theorem sent_runUntil (token : CancelToken) (deadline : Option Duration) (ms : List Moment)
    (t : Task (Except Error α)) (s : Surroundings) :
    (t.runUntil token deadline ms s).2.sent =
      s.sent ++ (t.events token deadline ms s).filterMap Event.request? := by
  induction ms generalizing t s with
  | nil => exact (List.append_nil _).symm
  | cons m ms ih =>
    have now := sent_poll token t s
    rw [runUntil, events]
    split
    · exact (List.append_nil _).symm
    · rw [List.filterMap_append, ← List.append_assoc, ← now]
      rcases t.poll token s with ⟨result | rest, after⟩
      · exact (List.append_nil _).symm
      · simp only
        split
        · exact (List.append_nil _).symm
        · exact ih rest after

theorem sent_run (c : Context) (timeout : Option Duration) (ms : List Moment)
    (t : Task (Except Error α)) (s : Surroundings) :
    (t.run c timeout ms s).2.sent =
      s.sent ++ (t.record c timeout ms s).filterMap Event.request? := by
  cases ms with
  | nil => exact (List.append_nil _).symm
  | cons m ms => exact sent_runUntil c.token _ (m :: ms) t s

/-- Whatever a task asks or sends, on any of its ways, has the property. -/
inductive Emits (P : Event → Prop) : Task α → Prop
  | done (a : α) : Emits P (.done a)
  | wait {rest : Task α} (h : Emits P rest) : Emits P (.wait rest)
  | never : Emits P .never
  | readClock {next : Instant → Task α} (h : ∀ now, Emits P (next now)) : Emits P (.readClock next)
  | askProvider {next : Except Error Credentials → Task α} (event : ∀ answer, P (.asked answer))
      (h : ∀ answer, Emits P (next answer)) : Emits P (.askProvider next)
  | exchange {r : Request} {next : Except Error Response → Task α} (event : P (.sent r))
      (h : ∀ outcome, Emits P (next outcome)) : Emits P (.exchange r next)

variable {P : Event → Prop}

theorem Emits.imp {Q : Event → Prop} {t : Task α} (h : Emits P t) (hq : ∀ e, P e → Q e) :
    Emits Q t := by
  induction h with
  | done a => exact .done a
  | wait _ ih => exact ih.wait
  | never => exact .never
  | readClock _ ih => exact .readClock ih
  | askProvider event _ ih => exact .askProvider (fun answer => hq _ (event answer)) ih
  | exchange event _ ih => exact .exchange (hq _ event) ih

theorem Emits.bind {t : Task α} {f : α → Task β} (h : Emits P t) (hf : ∀ a, Emits P (f a)) :
    Emits P (t.bind f) := by
  induction h with
  | done a => exact hf a
  | wait _ ih => exact ih.wait
  | never => exact .never
  | readClock _ ih => exact .readClock ih
  | askProvider event _ ih => exact .askProvider event ih
  | exchange event _ ih => exact .exchange event ih

theorem Emits.delayed {t : Task α} (h : Emits P t) (n : Nat) : Emits P (t.delayed n) := by
  induction n with
  | zero => exact h
  | succ n ih => exact ih.wait

theorem Emits.poll {t : Task α} (h : Emits P t) (token : CancelToken) (s : Surroundings) :
    (∀ e ∈ t.pollEvents token s, P e) ∧
      ∀ rest, (t.poll token s).1 = .waiting rest → Emits P rest := by
  induction h generalizing s with
  | done a => exact ⟨List.forall_mem_nil _, fun rest hr => by cases hr⟩
  | wait h => exact ⟨List.forall_mem_nil _, fun rest hr => by cases hr; exact h⟩
  | never => exact ⟨List.forall_mem_nil _, fun rest hr => by cases hr; exact .never⟩
  | readClock _ ih => exact ih s.tick.1 s.tick.2
  | askProvider event _ ih =>
    obtain ⟨now, later⟩ := ih s.ask.1 s.ask.2
    exact ⟨List.forall_mem_cons.2 ⟨event _, now⟩, later⟩
  | @exchange r next event h ih =>
    rw [Task.poll, pollEvents, List.forall_mem_cons]
    generalize s.send token r = answered
    obtain ⟨⟨delay, outcome, cancels⟩, after⟩ := answered
    rcases delay with - | - | n
    · exact ⟨⟨event, List.forall_mem_nil _⟩, fun rest hr => by cases hr; exact .never⟩
    · obtain ⟨now, later⟩ := ih outcome after
      exact ⟨⟨event, now⟩, later⟩
    · refine ⟨⟨event, List.forall_mem_nil _⟩, fun rest hr => ?_⟩
      cases hr
      exact (h outcome).delayed n

theorem Emits.events {t : Task (Except Error α)} (h : Emits P t) (token : CancelToken)
    (deadline : Option Duration) (ms : List Moment) (s : Surroundings) :
    ∀ e ∈ t.events token deadline ms s, P e := by
  induction ms generalizing t s with
  | nil => exact List.forall_mem_nil _
  | cons m ms ih =>
    obtain ⟨now, later⟩ := h.poll token s
    rw [Task.events]
    split
    · exact List.forall_mem_nil _
    · rw [List.forall_mem_append]
      refine ⟨now, ?_⟩
      rcases hp : t.poll token s with ⟨result | rest, after⟩
      · exact List.forall_mem_nil _
      · rw [hp] at later
        simp only
        split
        · exact List.forall_mem_nil _
        · exact ih (later rest rfl) after

theorem Emits.record {t : Task (Except Error α)} (h : Emits P t) (c : Context)
    (timeout : Option Duration) (ms : List Moment) (s : Surroundings) :
    ∀ e ∈ t.record c timeout ms s, P e := by
  cases ms with
  | nil => exact List.forall_mem_nil _
  | cons m ms => exact h.events c.token _ (m :: ms) s

theorem Idle.emits {t : Task α} (h : Idle t) : Emits P t := by
  induction h with
  | done a => exact .done a
  | wait _ ih => exact ih.wait
  | never => exact .never

theorem Emits.provider_poll {t : Task α} (h : Emits Event.IsSent t) (token : CancelToken)
    (s : Surroundings) : (t.poll token s).2.provider = s.provider := by
  induction h generalizing s with
  | done a => rfl
  | wait h => rfl
  | never => rfl
  | readClock _ ih => exact ih s.tick.1 s.tick.2
  | askProvider event _ ih =>
    -- a question is no request, whatever its answer
    obtain ⟨r, hr⟩ := event (.error .canceled)
    cases hr
  | @exchange r next event h ih =>
    have same : (s.send token r).2.provider = s.provider := rfl
    rw [Task.poll]
    generalize s.send token r = answered at same ⊢
    obtain ⟨⟨delay, outcome, cancels⟩, after⟩ := answered
    rcases delay with - | - | n
    · exact same
    · exact (ih outcome after).trans same
    · exact same

theorem Emits.provider_runUntil {t : Task (Except Error α)} (h : Emits Event.IsSent t)
    (token : CancelToken) (deadline : Option Duration) (ms : List Moment) (s : Surroundings) :
    (t.runUntil token deadline ms s).2.provider = s.provider := by
  induction ms generalizing t s with
  | nil => rfl
  | cons m ms ih =>
    have same := h.provider_poll token s
    have later := (h.poll token s).2
    rw [runUntil]
    split
    · rfl
    · rcases hp : t.poll token s with ⟨result | rest, after⟩
      · rw [hp] at same
        exact same
      · rw [hp] at same later
        simp only
        split
        · exact same
        · exact (ih (later rest rfl) after).trans same

variable {token : CancelToken} {deadline : Option Duration} {m : Moment} {ms : List Moment}
variable {s s' : Surroundings} {t t' : Task (Except Error α)}

/-- Tasks that are alike at a poll which finds the token silent are alike to the end. -/
theorem runUntil_congr (awake : Awake token m s) (awake' : Awake token m s')
    (hp : t.poll token s = t'.poll token s') :
    t.runUntil token deadline (m :: ms) s = t'.runUntil token deadline (m :: ms) s' := by
  rw [runUntil, runUntil, awake.not_given_up, awake'.not_given_up, hp]
  simp only [Bool.false_eq_true, if_false]

theorem events_congr (awake : Awake token m s) (awake' : Awake token m s')
    (hp : t.poll token s = t'.poll token s') {first : List Event}
    (he : t.pollEvents token s = first ++ t'.pollEvents token s') :
    t.events token deadline (m :: ms) s = first ++ t'.events token deadline (m :: ms) s' := by
  rw [events, events, awake.not_given_up, awake'.not_given_up, hp, he]
  simp only [Bool.false_eq_true, if_false, List.append_assoc]

theorem runUntil_askProvider (next : Except Error Credentials → Task (Except Error α))
    (deadline : Option Duration) (ms : List Moment) (awake : Awake token m s) :
    (askProvider next).runUntil token deadline (m :: ms) s =
        (next s.ask.1).runUntil token deadline (m :: ms) s.ask.2 ∧
      (askProvider next).events token deadline (m :: ms) s =
        .asked s.ask.1 :: (next s.ask.1).events token deadline (m :: ms) s.ask.2 := by
  have awake' : Awake token m s.ask.2 := awake
  refine ⟨runUntil_congr awake awake' rfl, ?_⟩
  change _ = [Event.asked s.ask.1] ++ _
  exact events_congr awake awake' rfl rfl

theorem runUntil_done (awake : Awake token m s) (result : Except Error α) :
    (done result).runUntil token deadline (m :: ms) s = (some result, s) := by
  rw [runUntil, awake.not_given_up]
  rfl

theorem events_done (awake : Awake token m s) (result : Except Error α) :
    (done result).events token deadline (m :: ms) s = [] := by
  rw [events, awake.not_given_up]
  rfl

end Task

end ObjectStorage
