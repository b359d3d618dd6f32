import ObjectStorage.Proofs.Task.Record

/-!
# The poll that decides

Three things end a run: the token has fired, the task is ready, or the deadline has passed. A run is
decided at the first poll at which one of them holds, by the first of them that does, and the task
is not polled after it: `runCounted_decided`. `runCounted` is a run that counts its polls.
-/
namespace ObjectStorage

theorem fired_of_not_awake {token : CancelToken} {m : Moment} {s : Surroundings}
    (h : ¬ Awake token m s) : (m.canceled || s.fired.contains token) = true :=
  Bool.of_not_eq_false fun silent => h (Bool.or_eq_false_iff.1 silent)

structure Counted (α : Type) where
  value : α
  polls : Nat

namespace Task

variable {α : Type} {token : CancelToken} {deadline : Option Duration}
variable {m : Moment} {ms past later : List Moment} {s s' after : Surroundings}
variable {t t' rest : Task (Except Error α)} {result : Except Error α} {n : Nat}

/-- How a poll ends a run, with how often it polls the task for that. -/
inductive Decides (token : CancelToken) (deadline : Option Duration) (m : Moment)
    (t : Task (Except Error α)) (s : Surroundings) : Except Error α → Surroundings → Nat → Prop
  | canceled (fired : ¬ Awake token m s) : Decides token deadline m t s (.error .canceled) s 0
  | completed {result : Except Error α} {after : Surroundings} (awake : Awake token m s)
      (ready : t.poll token s = (.ready result, after)) :
      Decides token deadline m t s result after 1
  | expired {rest : Task (Except Error α)} {after : Surroundings} (awake : Awake token m s)
      (waiting : t.poll token s = (.waiting rest, after)) (late : m.isLate deadline = true) :
      Decides token deadline m t s (.error .deadlineExceeded) after 1

structure Passes (token : CancelToken) (deadline : Option Duration) (m : Moment)
    (t : Task (Except Error α)) (s : Surroundings) (rest : Task (Except Error α))
    (after : Surroundings) : Prop where
  awake : Awake token m s
  waiting : t.poll token s = (.waiting rest, after)
  early : m.isLate deadline = false

theorem decides_or_passes (token : CancelToken) (deadline : Option Duration) (m : Moment)
    (t : Task (Except Error α)) (s : Surroundings) :
    (∃ result after n, Decides token deadline m t s result after n) ∨
      ∃ rest after, Passes token deadline m t s rest after := by
  by_cases awake : Awake token m s
  · rcases hp : t.poll token s with ⟨result | rest, after⟩
    · exact Or.inl ⟨result, after, 1, .completed awake hp⟩
    · rcases late : m.isLate deadline with _ | _
      · exact Or.inr ⟨rest, after, awake, hp, late⟩
      · exact Or.inl ⟨_, after, 1, .expired awake hp late⟩
  · exact Or.inl ⟨_, s, 0, .canceled awake⟩

inductive Waits (token : CancelToken) (deadline : Option Duration) :
    List Moment → Task (Except Error α) → Surroundings → Task (Except Error α) → Surroundings → Prop
  | nil (t : Task (Except Error α)) (s : Surroundings) : Waits token deadline [] t s t s
  | cons {m : Moment} {ms : List Moment} {t rest t' : Task (Except Error α)}
      {s after s' : Surroundings} (now : Passes token deadline m t s rest after)
      (later : Waits token deadline ms rest after t' s') : Waits token deadline (m :: ms) t s t' s'

def runCounted (token : CancelToken) (deadline : Option Duration) :
    List Moment → Task (Except Error α) → Surroundings → Counted (Outcome α)
  | [], _, s => ⟨(none, s), 0⟩
  | m :: ms, t, s =>
    if m.canceled || s.fired.contains token then ⟨(some (.error .canceled), s), 0⟩
    else
      match t.poll token s with
      | (.ready result, s) => ⟨(some result, s), 1⟩
      | (.waiting rest, s) =>
        if m.isLate deadline then ⟨(some (.error .deadlineExceeded), s), 1⟩
        else
          let others := runCounted token deadline ms rest s
          ⟨others.value, 1 + others.polls⟩

theorem runCounted_value (token : CancelToken) (deadline : Option Duration) (ms : List Moment)
    (t : Task (Except Error α)) (s : Surroundings) :
    (t.runCounted token deadline ms s).value = t.runUntil token deadline ms s := by
  induction ms generalizing t s with
  | nil => rfl
  | cons m ms ih =>
    rw [runCounted, runUntil]
    split
    · rfl
    · rcases t.poll token s with ⟨result | rest, after⟩
      · rfl
      · simp only
        split
        · rfl
        · exact ih rest after

theorem Decides.runCounted (h : Decides token deadline m t s result after n)
    (later : List Moment) :
    t.runCounted token deadline (m :: later) s = ⟨(some result, after), n⟩ := by
  rw [Task.runCounted]
  cases h with
  | canceled fired => rw [fired_of_not_awake fired, if_pos rfl]
  | completed awake ready =>
    rw [awake.not_given_up, ready]
    rfl
  | expired awake waiting late =>
    rw [awake.not_given_up, waiting]
    simp only [Bool.false_eq_true, if_false, late, if_true]

theorem Passes.runCounted (h : Passes token deadline m t s rest after) (later : List Moment) :
    t.runCounted token deadline (m :: later) s =
      ⟨(rest.runCounted token deadline later after).value,
        1 + (rest.runCounted token deadline later after).polls⟩ := by
  rw [Task.runCounted, h.awake.not_given_up, h.waiting]
  simp only [Bool.false_eq_true, if_false, h.early]

theorem Waits.runCounted (h : Waits token deadline past t s t' s') (ms : List Moment) :
    t.runCounted token deadline (past ++ ms) s =
      ⟨(t'.runCounted token deadline ms s').value,
        past.length + (t'.runCounted token deadline ms s').polls⟩ := by
  induction h with
  | nil t s => simp only [List.nil_append, List.length_nil, Nat.zero_add]
  | cons now later ih =>
    rw [List.cons_append, now.runCounted, ih, List.length_cons]
    simp only [Nat.add_assoc, Nat.add_comm 1]

theorem Waits.runUntil (h : Waits token deadline past t s t' s') (ms : List Moment) :
    t.runUntil token deadline (past ++ ms) s = t'.runUntil token deadline ms s' := by
  have counted := congrArg Counted.value (h.runCounted ms)
  rwa [runCounted_value, runCounted_value] at counted

theorem Decides.runUntil (h : Decides token deadline m t s result after n)
    (later : List Moment) :
    t.runUntil token deadline (m :: later) s = (some result, after) := by
  rw [← runCounted_value, h.runCounted]

/-- No poll decides, or the first one that does ends the run: there is no poll of the task after
it, and the polls to come do not matter. -/
def DecidedFirst (token : CancelToken) (deadline : Option Duration) (ms : List Moment)
    (t : Task (Except Error α)) (s : Surroundings) (run : Counted (Outcome α)) : Prop :=
  (∃ t' s', Waits token deadline ms t s t' s' ∧ run = ⟨(none, s'), ms.length⟩) ∨
    ∃ past m later t' s' result after n, ms = past ++ m :: later ∧
      Waits token deadline past t s t' s' ∧ Decides token deadline m t' s' result after n ∧
      run = ⟨(some result, after), past.length + n⟩

theorem runCounted_decided (token : CancelToken) (deadline : Option Duration) (ms : List Moment)
    (t : Task (Except Error α)) (s : Surroundings) :
    DecidedFirst token deadline ms t s (t.runCounted token deadline ms s) := by
  induction ms generalizing t s with
  | nil => exact Or.inl ⟨t, s, .nil t s, rfl⟩
  | cons m ms ih =>
    rcases decides_or_passes token deadline m t s with ⟨result, after, n, decides⟩ | passes
    · refine Or.inr ⟨[], m, ms, t, s, result, after, n, rfl, .nil t s, decides, ?_⟩
      rw [decides.runCounted, List.length_nil, Nat.zero_add]
    · obtain ⟨rest, after, now⟩ := passes
      rw [now.runCounted]
      rcases ih rest after with ⟨t', s', waits, same⟩ | decided
      · refine Or.inl ⟨t', s', .cons now waits, ?_⟩
        rw [same, List.length_cons, Nat.add_comm]
      · obtain ⟨past, m', later, t', s', result, last, n, rfl, waits, decides, same⟩ := decided
        refine Or.inr ⟨m :: past, m', later, t', s', result, last, n, rfl, .cons now waits,
          decides, ?_⟩
        rw [same, List.length_cons]
        simp only [Nat.add_comm 1, Nat.add_right_comm]

/-- Without a deadline a run does not end late: what says so is the task's own result. -/
theorem Decides.ready_of_no_deadline
    (h : Decides token none m t s (.error .deadlineExceeded) after n) :
    t.poll token s = (.ready (.error .deadlineExceeded), after) := by
  cases h with
  | completed awake ready => exact ready
  | expired awake waiting late => cases late

end Task

end ObjectStorage
