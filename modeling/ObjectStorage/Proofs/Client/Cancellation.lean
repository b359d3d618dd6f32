import ObjectStorage.Client.Service
import ObjectStorage.Proofs.Task.Decision

/-!
# Operations that are given up

The deadline that counts is the context's own, else the start and the client's timeout together if
the clock can tell that time. `run_decided` says at which poll a run ends and how; an operation
whose token has fired before asks for no credentials and sends nothing.
-/
namespace ObjectStorage

namespace Duration

theorem eq_of_totalNanos {a b : Duration} (h : a.totalNanos = b.totalNanos) : a = b := by
  obtain ⟨seconds, nanos, small⟩ := a
  obtain ⟨seconds', nanos', small'⟩ := b
  simp only [totalNanos] at h
  obtain rfl : seconds = seconds' := by omega
  obtain rfl : nanos = nanos' := by omega
  rfl

end Duration

namespace Context

/-- The time `t` lies `d` after `now`, and the clock can tell it. -/
structure IsAfter (now d t : Duration) : Prop where
  total : t.totalNanos = now.totalNanos + d.totalNanos
  representable : isRepresentable t = true

theorem after?_eq_some_iff {now d t : Duration} : after? now d = some t ↔ IsAfter now d t := by
  have total := Duration.totalNanos_add now d
  constructor
  · intro h
    rw [after?] at h
    split at h
    · next told =>
      cases h
      exact ⟨total, told⟩
    · cases h
  · rintro ⟨ht, told⟩
    obtain rfl : now.add d = t := Duration.eq_of_totalNanos (total.trans ht.symm)
    exact if_pos told

theorem effectiveDeadline_eq_some_iff {c : Context} {now t : Duration} {timeout : Option Duration} :
    c.effectiveDeadline now timeout = some t ↔
      c.deadline = some t ∨ c.deadline = none ∧ ∃ d, timeout = some d ∧ IsAfter now d t := by
  rw [effectiveDeadline]
  rcases c.deadline with - | own
  · rcases timeout with - | d
    · simp
    · simp [after?_eq_some_iff]
  · simp

end Context

namespace Client

/-- Whatever is asked of the client ends as canceled, and leaves everything as it is. -/
structure GivesUp (c : Client) (ctx : Context) (ms : List Moment) (s : Surroundings) : Prop where
  execute : ∀ o, c.execute ctx ms o s = (some (.error .canceled), s)
  headBucket : ∀ bucket, c.headBucket ctx ms bucket s = (some (.error .canceled), s)
  putBucketPolicy : ∀ bucket rules,
    c.putBucketPolicy ctx ms bucket rules s = (some (.error .canceled), s)
  getBucketPolicy : ∀ bucket, c.getBucketPolicy ctx ms bucket s = (some (.error .canceled), s)
  deleteBucketPolicy : ∀ bucket, c.deleteBucketPolicy ctx ms bucket s = (some (.error .canceled), s)
  putObject : ∀ guess bucket key content,
    c.putObject ctx ms guess bucket key content s = (some (.error .canceled), s)
  getObject : ∀ bucket key, c.getObject ctx ms bucket key s = (some (.error .canceled), s)
  fetch : ∀ polls o, c.fetch ctx ms polls o s = (some (.error .canceled), s)

variable {ctx : Context} {m : Moment} {s : Surroundings}

theorem run_of_fired {α : Type} (c : Client) (ms : List Moment) (call : Call α)
    (fired : ¬ Awake ctx.token m s) :
    c.run ctx (m :: ms) call s = (some (.error .canceled), s) :=
  (Task.Decides.canceled fired).runUntil ms

theorem givesUp_of_fired (c : Client) (ms : List Moment) (fired : ¬ Awake ctx.token m s) :
    c.GivesUp ctx (m :: ms) s := by
  have executed : ∀ o, c.execute ctx (m :: ms) o s = (some (.error .canceled), s) := fun o =>
    c.run_of_fired ms (c.send o) fired
  constructor
  case execute => exact executed
  case headBucket =>
    intro bucket
    rw [headBucket, executed]
    rfl
  case putBucketPolicy =>
    intro bucket rules
    rw [putBucketPolicy, executed]
    rfl
  case getBucketPolicy => exact fun bucket => c.run_of_fired ms _ fired
  case deleteBucketPolicy =>
    intro bucket
    rw [deleteBucketPolicy, executed]
    rfl
  case putObject =>
    intro guess bucket key content
    rw [putObject, executed]
    rfl
  case getObject => exact fun bucket key => c.run_of_fired ms _ fired
  case fetch =>
    intro polls o
    rw [fetch, executed]

/-- What a run in a context comes to, and when. The deadline that counts is told first, then the
poll that decides, what follows without a deadline and with a token that has fired, and last what
becomes of the operations of a client then. -/
theorem run_decided (ctx : Context) (timeout : Option Duration) :
    (∀ now t, ctx.effectiveDeadline now timeout = some t ↔
      ctx.deadline = some t ∨
        ctx.deadline = none ∧ ∃ d, timeout = some d ∧ Context.IsAfter now d t) ∧
    (∀ now d t, (Context.withTimeout ctx.token now d).deadline = some t ↔
      Context.IsAfter now d t) ∧
    (∀ {α : Type} (m : Moment) (ms : List Moment) (t : Task (Except Error α)) (s : Surroundings),
      let deadline := ctx.effectiveDeadline m.time timeout
      let counted := t.runCounted ctx.token deadline (m :: ms) s
      t.run ctx timeout (m :: ms) s = counted.value ∧
      Task.DecidedFirst ctx.token deadline (m :: ms) t s counted ∧
      (ctx.deadline.isSome = true → ∀ timeout',
        t.run ctx timeout' (m :: ms) s = t.run ctx timeout (m :: ms) s) ∧
      (deadline = none → counted.value.1 = some (.error .deadlineExceeded) →
        ∃ past m' later t' s' after, m :: ms = past ++ m' :: later ∧
          Task.Waits ctx.token none past t s t' s' ∧
          t'.poll ctx.token s' = (.ready (.error .deadlineExceeded), after)) ∧
      (¬ Awake ctx.token m s → counted = ⟨(some (.error .canceled), s), 0⟩)) ∧
    ∀ (c : Client) (m : Moment) (ms : List Moment) (s : Surroundings),
      ¬ Awake ctx.token m s → c.GivesUp ctx (m :: ms) s := by
  refine ⟨fun now t => Context.effectiveDeadline_eq_some_iff,
    fun now d t => Context.after?_eq_some_iff, fun m ms t s => ?_,
    fun c m ms s fired => c.givesUp_of_fired ms fired⟩
  intro deadline counted
  have decided := Task.runCounted_decided ctx.token deadline (m :: ms) t s
  refine ⟨(Task.runCounted_value ctx.token deadline (m :: ms) t s).symm, decided, ?_, ?_, ?_⟩
  · intro own timeout'
    obtain ⟨d, own⟩ := Option.isSome_iff_exists.1 own
    rw [Task.run, Task.run, Context.effectiveDeadline_of_deadline own,
      Context.effectiveDeadline_of_deadline own]
  · intro unbounded late
    rw [unbounded] at decided
    rcases decided with ⟨t', s', -, same⟩ | ended
    · rw [show counted = _ from unbounded ▸ same] at late
      cases late
    · obtain ⟨past, m', later, t', s', result, after, n, split, waits, decides, same⟩ := ended
      rw [show counted = _ from unbounded ▸ same] at late
      cases late
      exact ⟨past, m', later, t', s', after, split, waits, decides.ready_of_no_deadline⟩
  · exact fun fired => (Task.Decides.canceled fired).runCounted ms

def secluded : Surroundings :=
  ⟨⟨[]⟩, .chain [], fun _ => .ofSeconds 0, 0, fun _ _ => ⟨none, .error .canceled, false⟩, [], []⟩

/-- A task that is ready when it is polled succeeds although it is late, and one whose token has
fired is not polled. -/
theorem run_decided_of_late_answer :
    ((Task.done (.ok 7)).delayed 2 : Task (Except Error Nat)).run ⟨some (.ofSeconds 1), 0⟩ none
      [⟨.ofSeconds 0, false⟩, ⟨.ofSeconds 0, false⟩, ⟨.ofSeconds 2, false⟩] secluded =
        (some (.ok 7), secluded) ∧
    ((Task.done (.ok 7)).delayed 2 : Task (Except Error Nat)).run ⟨some (.ofSeconds 1), 0⟩ none
      [⟨.ofSeconds 0, true⟩] secluded = (some (.error .canceled), secluded) := by
  obtain ⟨-, -, decided, -⟩ := run_decided ⟨some (.ofSeconds 1), 0⟩ none
  have fired : ¬ Awake 0 ⟨.ofSeconds 0, true⟩ secluded := fun awake => Bool.noConfusion awake.1
  constructor
  · exact (decided ⟨.ofSeconds 0, false⟩ _ _ _).1.trans rfl
  · obtain ⟨run, -, -, -, canceled⟩ :=
      decided ⟨.ofSeconds 0, true⟩ [] ((Task.done (.ok 7)).delayed 2) secluded
    rw [run, canceled fired]

end Client

end ObjectStorage
