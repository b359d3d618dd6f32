import ObjectStorage.Client.Call

/-!
# Runs that nothing disturbs

While the token is silent and the deadline ahead, a run takes the steps of its task one after the
other: a reading of the clock and a question to the provider take no time, and the answer to a
request comes after as many polls as the network says.
-/
namespace ObjectStorage

/-- Moments at which neither the token nor the deadline ends a run. -/
structure Undisturbed (token : CancelToken) (deadline : Option Duration) (ms : List Moment)
    (s : Surroundings) : Prop where
  moments : ∀ m ∈ ms, m.canceled = false ∧ m.isLate deadline = false
  silent : s.fired.contains token = false

variable {token : CancelToken} {deadline : Option Duration} {ms : List Moment}
variable {s s' : Surroundings}

theorem Undisturbed.carry (u : Undisturbed token deadline ms s) (hf : s.fired = s'.fired) :
    Undisturbed token deadline ms s' := by
  refine ⟨u.moments, ?_⟩
  rw [← hf]
  exact u.silent

theorem Undisturbed.drop (u : Undisturbed token deadline ms s) (n : Nat)
    (hf : s.fired = s'.fired) : Undisturbed token deadline (ms.drop n) s' :=
  ⟨fun m hm => u.moments m (List.mem_of_mem_drop hm), (u.carry hf).silent⟩

namespace Task

variable {α β : Type} {t t' : Task (Except Error α)}
  {next : Except Error Response → Task (Except Error α)}

theorem runUntil_ready {m : Moment} {result : Except Error α}
    (u : Undisturbed token deadline (m :: ms) s) (hp : t.poll token s = (.ready result, s')) :
    t.runUntil token deadline (m :: ms) s = (some result, s') := by
  have hc : (m.canceled || s.fired.contains token) = false := by
    rw [(u.moments m List.mem_cons_self).1, u.silent]
    rfl
  rw [runUntil, hc, hp]
  rfl

theorem runUntil_waiting {m : Moment} (u : Undisturbed token deadline (m :: ms) s)
    (hp : t.poll token s = (.waiting t', s')) :
    t.runUntil token deadline (m :: ms) s = t'.runUntil token deadline ms s' := by
  have hc : (m.canceled || s.fired.contains token) = false := by
    rw [(u.moments m List.mem_cons_self).1, u.silent]
    rfl
  rw [runUntil, hc, hp]
  simp only [Bool.false_eq_true, if_false, (u.moments m List.mem_cons_self).2]

theorem runUntil_of_poll (u : Undisturbed token deadline ms s) (hms : ms ≠ [])
    (hf : s.fired = s'.fired) (hp : t.poll token s = t'.poll token s') :
    t.runUntil token deadline ms s = t'.runUntil token deadline ms s' := by
  obtain ⟨m, ms, rfl⟩ := List.exists_cons_of_ne_nil hms
  have u' : Undisturbed token deadline (m :: ms) s' := u.carry hf
  rcases hq : t'.poll token s' with ⟨result | rest, after⟩
  · rw [runUntil_ready u (hp.trans hq), runUntil_ready u' hq]
  · rw [runUntil_waiting u (hp.trans hq), runUntil_waiting u' hq]

theorem runUntil_delayed {d : Nat} (u : Undisturbed token deadline ms s) (hd : d < ms.length) :
    (t.delayed d).runUntil token deadline ms s = t.runUntil token deadline (ms.drop d) s := by
  induction d generalizing ms with
  | zero => rfl
  | succ d ih =>
    cases ms with
    | nil => cases hd
    | cons m ms =>
      rw [runUntil_waiting u (poll_delayed_succ token t d s), List.drop_succ_cons]
      exact ih (u.drop 1 rfl) (Nat.lt_of_succ_lt_succ hd)

theorem runUntil_exchange {d : Nat} {outcome : Except Error Response} {r : Request}
    (u : Undisturbed token deadline ms s)
    (hr : s.network s.sent.length r = ⟨some d, outcome, false⟩) (hd : d < ms.length) :
    (exchange r next).runUntil token deadline ms s =
      (next outcome).runUntil token deadline (ms.drop d) { s with sent := s.sent ++ [r] } := by
  have hs : s.send token r = (⟨some d, outcome, false⟩, { s with sent := s.sent ++ [r] }) := by
    rw [Surroundings.send, hr]
    rfl
  have hms : ms ≠ [] := List.ne_nil_of_length_pos (Nat.zero_lt_of_lt hd)
  cases d with
  | zero =>
    have hp : (exchange r next).poll token s =
        (next outcome).poll token { s with sent := s.sent ++ [r] } := by
      rw [poll, hs]
    exact runUntil_of_poll u hms (by rfl) hp
  | succ d =>
    have hp : (exchange r next).poll token s =
        ((next outcome).delayed (d + 1)).poll token { s with sent := s.sent ++ [r] } := by
      rw [poll, hs, poll_delayed_succ]
    rw [runUntil_of_poll u hms (by rfl) hp]
    exact runUntil_delayed (u.carry rfl) hd

inductive Idle : Task β → Prop
  | done (b : β) : Idle (.done b)
  | wait {rest : Task β} (h : Idle rest) : Idle (.wait rest)
  | never : Idle .never

theorem Idle.bind {t : Task α} {f : α → Task β} (h : Idle t) (hf : ∀ a, Idle (f a)) :
    Idle (t.bind f) := by
  induction h with
  | done a => exact hf a
  | wait _ ih => exact ih.wait
  | never => exact .never

theorem Idle.poll {t : Task α} (h : Idle t) (token : CancelToken) (s : Surroundings) :
    (t.poll token s).2 = s ∧ ∀ rest, (t.poll token s).1 = .waiting rest → Idle rest := by
  cases h with
  | done a => exact ⟨rfl, fun _ h => by cases h⟩
  | wait h => exact ⟨rfl, fun _ he => by cases he; exact h⟩
  | never => exact ⟨rfl, fun _ he => by cases he; exact .never⟩

theorem Idle.runUntil (h : Idle t) (token : CancelToken) (deadline : Option Duration)
    (ms : List Moment) (s : Surroundings) : (t.runUntil token deadline ms s).2 = s := by
  induction ms generalizing t with
  | nil => rfl
  | cons m ms ih =>
    obtain ⟨hs, hrest⟩ := h.poll token s
    rw [Task.runUntil]
    split
    · rfl
    · rcases hp : t.poll token s with ⟨result | rest, after⟩
      · rw [hp] at hs
        exact hs
      · rw [hp] at hs hrest
        cases hs
        simp only
        split
        · rfl
        · exact ih (hrest rest rfl)

end Task

theorem Body.idle_read (b : Body) : (Body.read b).Idle := by
  induction b with
  | nil => exact .done _
  | cons e b ih =>
    cases e with
    | chunk data => exact ih.bind fun _ => .done _
    | failure e => exact .done _
    | pause => exact ih.wait
    | silence => exact .never

theorem Response.check_answer {r : Response} (h : r.isAnswer = true) :
    r.check = Task.done (.ok r) :=
  if_pos h

theorem Response.idle_check (r : Response) : Task.Idle (β := Except Error Response) r.check := by
  by_cases h : r.isAnswer = true
  · rw [check_answer h]
    exact .done _
  · have hc : r.check = (Body.read r.body).bind _ := if_neg h
    rw [hc]
    exact (Body.idle_read r.body).bind fun _ => .done _

end ObjectStorage
