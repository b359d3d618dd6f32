import ObjectStorage.Proofs.Task.Record

/-!
# One task after another

`Ensures` says what holds when a task is done, whatever it met on its way; a run that the context
does not end comes out so: `runUntil_ensures`. A run of two tasks, one after the other, is a run of
the first and then one of the second: `runUntil_bind`.
-/
namespace ObjectStorage.Task

variable {α β : Type} {caller token : CancelToken}

/-- If the task comes to an end in these surroundings, its result and the surroundings then are as
they should be. -/
def Ensures (caller : CancelToken) (Q : α → Surroundings → Prop) : Task α → Surroundings → Prop
  | done a, s => Q a s
  | wait rest, s => Ensures caller Q rest s
  | never, _ => True
  | readClock next, s => Ensures caller Q (next s.tick.1) s.tick.2
  | askProvider next, s => Ensures caller Q (next s.ask.1) s.ask.2
  | exchange r next, s =>
    Ensures caller Q (next (s.send caller r).1.outcome) (s.send caller r).2

def EnsuresAfter (caller : CancelToken) (Q : α → Surroundings → Prop) :
    Polled α → Surroundings → Prop
  | .ready a, s => Q a s
  | .waiting rest, s => Task.Ensures caller Q rest s

variable {Q : α → Surroundings → Prop} {R : β → Surroundings → Prop}

theorem Ensures.delayed {t : Task α} {s : Surroundings} (h : t.Ensures caller Q s) (n : Nat) :
    (t.delayed n).Ensures caller Q s := by
  induction n with
  | zero => exact h
  | succ n ih => exact ih

theorem Ensures.imp {Q' : α → Surroundings → Prop} {t : Task α} {s : Surroundings}
    (h : t.Ensures caller Q s) (hq : ∀ a s, Q a s → Q' a s) : t.Ensures caller Q' s := by
  induction t generalizing s with
  | done a => exact hq a s h
  | wait rest ih => exact ih h
  | never => trivial
  | readClock next ih => exact ih _ h
  | askProvider next ih => exact ih _ h
  | exchange r next ih => exact ih _ h

theorem Ensures.bind {t : Task α} {f : α → Task β} {s : Surroundings}
    (h : t.Ensures caller (fun a s => (f a).Ensures caller R s) s) :
    (t.bind f).Ensures caller R s := by
  induction t generalizing s with
  | done a => exact h
  | wait rest ih => exact ih h
  | never => trivial
  | readClock next ih => exact ih _ h
  | askProvider next ih => exact ih _ h
  | exchange r next ih => exact ih _ h

theorem Ensures.poll {t : Task α} {s : Surroundings} (h : t.Ensures caller Q s) :
    EnsuresAfter caller Q (t.poll caller s).1 (t.poll caller s).2 := by
  induction t generalizing s with
  | done a => exact h
  | wait rest ih => exact h
  | never => exact h
  | readClock next ih => exact ih _ h
  | askProvider next ih => exact ih _ h
  | exchange r next ih =>
    rw [Task.poll]
    rw [Ensures] at h
    generalize s.send caller r = answered at h ⊢
    obtain ⟨⟨delay, outcome, cancels⟩, after⟩ := answered
    rcases delay with - | - | n
    · trivial
    · exact ih _ h
    · exact h.delayed n

theorem runUntil_ensures {Q : Except Error α → Surroundings → Prop} {t : Task (Except Error α)}
    {deadline : Option Duration} {ms : List Moment} {s s' : Surroundings} {result : Except Error α}
    (h : t.Ensures token Q s) (hrun : t.runUntil token deadline ms s = (some result, s')) :
    result = .error .canceled ∨ result = .error .deadlineExceeded ∨ Q result s' := by
  induction ms generalizing t s with
  | nil => cases hrun
  | cons m ms ih =>
    rw [runUntil] at hrun
    split at hrun
    · cases hrun
      exact Or.inl rfl
    · have step := h.poll
      rcases hp : t.poll token s with ⟨answer | rest, after⟩
      · rw [hp] at hrun step
        cases hrun
        exact Or.inr (Or.inr step)
      · rw [hp] at hrun step
        simp only at hrun
        split at hrun
        · cases hrun
          exact Or.inr (Or.inl rfl)
        · exact ih step hrun

theorem bind_delayed (t : Task α) (f : α → Task β) (n : Nat) :
    (t.delayed n).bind f = (t.bind f).delayed n := by
  induction n with
  | zero => rfl
  | succ n ih =>
    rw [delayed, bind, ih]
    rfl

theorem poll_bind (caller : CancelToken) (t : Task α) (f : α → Task β) (s : Surroundings) :
    (t.bind f).poll caller s =
      match t.poll caller s with
      | (.ready a, s) => (f a).poll caller s
      | (.waiting rest, s) => (.waiting (rest.bind f), s) := by
  induction t generalizing s with
  | done a => rfl
  | wait rest ih => rfl
  | never => rfl
  | readClock next ih => exact ih _ s.tick.2
  | askProvider next ih => exact ih _ s.ask.2
  | exchange r next ih =>
    rw [bind, poll, poll]
    generalize s.send caller r = answered
    obtain ⟨⟨delay, outcome, cancels⟩, after⟩ := answered
    rcases delay with - | - | n
    · rfl
    · exact ih outcome after
    · simp only [bind_delayed]

variable {deadline : Option Duration} {ms ms' : List Moment} {s s' : Surroundings}
variable {t : Task (Except Error α)} {f : Except Error α → Task (Except Error β)}
variable {result : Except Error α}

theorem silent_of_runUntil (hrun : t.runUntil token deadline ms s = (some result, s'))
    (silent : s'.fired.contains token = false) : s.fired.contains token = false := by
  cases ms with
  | nil => cases hrun
  | cons m ms =>
    rcases fired : s.fired.contains token with _ | _
    · rfl
    · rw [runUntil_canceled token deadline m ms t s fired] at hrun
      cases hrun
      rw [fired] at silent
      cases silent

/-- The second task goes on where the first one ended, at the same moment. -/
theorem runUntil_bind (calm : ∀ m ∈ ms, m.canceled = false ∧ m.isLate deadline = false)
    (silent : s'.fired.contains token = false)
    (hrun : t.runUntil token deadline ms s = (some result, s')) (ms' : List Moment) :
    ∃ k < ms.length, (t.bind f).runUntil token deadline (ms ++ ms') s =
      (f result).runUntil token deadline ((ms ++ ms').drop k) s' := by
  induction ms generalizing t s with
  | nil => cases hrun
  | cons m ms ih =>
    obtain ⟨⟨awake, early⟩, calm⟩ := List.forall_mem_cons.1 calm
    -- had the token fired by now, the first task would have been canceled
    have now : Awake token m s := ⟨awake, silent_of_runUntil hrun silent⟩
    have step := poll_bind token t f s
    rw [runUntil, now.not_given_up] at hrun
    rcases hp : t.poll token s with ⟨answer | rest, after⟩
    · rw [hp] at hrun step
      cases hrun
      exact ⟨0, Nat.zero_lt_succ _, runUntil_congr now ⟨awake, silent⟩ step⟩
    · rw [hp] at hrun step
      simp only [Bool.false_eq_true, if_false, early] at hrun
      obtain ⟨k, hk, later⟩ := ih calm hrun
      refine ⟨k + 1, Nat.succ_lt_succ hk, ?_⟩
      rw [List.cons_append, List.drop_succ_cons, ← later, runUntil, now.not_given_up, step]
      simp only [Bool.false_eq_true, if_false, early]

end ObjectStorage.Task
