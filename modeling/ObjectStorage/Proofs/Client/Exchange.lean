import ObjectStorage.Proofs.Client.Order
import ObjectStorage.Proofs.Task.Composition

/-!
# The answer to an operation

What a reader gets of a body, and which response an operation was answered with: the one that the
network gave to its last request. An operation that is sent succeeds with a response exactly when it
was answered with it: `ensures_send`.
-/
namespace ObjectStorage

namespace Body

def whole : Body → Option (Except Error Bytes)
  | [] => some (.ok [])
  | .chunk data :: r => (whole r).map fun rest => rest.map (data ++ ·)
  | .failure e :: _ => some (.error e)
  | .pause :: r => whole r
  | .silence :: _ => none

def pauses : Body → Nat
  | [] | .failure _ :: _ | .silence :: _ => 0
  | .chunk _ :: r => pauses r
  | .pause :: r => pauses r + 1

def Arrives (b : Body) : Prop := ∀ e ∈ b, e = .pause ∨ ∃ data, e = .chunk data

def chunks (b : Body) : List Bytes :=
  b.filterMap fun
    | .chunk data => some data
    | _ => none

theorem whole_eq_ok_iff {b : Body} {content : Bytes} :
    b.whole = some (.ok content) ↔ b.Arrives ∧ content = b.chunks.flatten := by
  induction b generalizing content with
  | nil => simp [whole, Arrives, chunks, eq_comm]
  | cons e b ih =>
    have later : Arrives (e :: b) ↔ (e = .pause ∨ ∃ data, e = .chunk data) ∧ Arrives b :=
      List.forall_mem_cons
    rw [later]
    cases e with
    | failure e => simp [whole]
    | silence => simp [whole]
    | pause =>
      rw [whole, ih]
      simp [chunks]
    | chunk data =>
      have split : (whole (.chunk data :: b) = some (.ok content)) ↔
          ∃ rest, whole b = some (.ok rest) ∧ data ++ rest = content := by
        rw [whole, Option.map_eq_some_iff]
        constructor
        · rintro ⟨e | rest, hw, he⟩
          · cases he
          · exact ⟨rest, hw, Except.ok.inj he⟩
        · rintro ⟨rest, hw, rfl⟩
          exact ⟨.ok rest, hw, rfl⟩
      rw [split]
      constructor
      · rintro ⟨rest, hw, rfl⟩
        obtain ⟨arrives, rfl⟩ := ih.1 hw
        exact ⟨⟨Or.inr ⟨data, rfl⟩, arrives⟩, rfl⟩
      · rintro ⟨⟨-, arrives⟩, rfl⟩
        exact ⟨(chunks b).flatten, ih.2 ⟨arrives, rfl⟩, rfl⟩

variable {α : Type} {caller token : CancelToken} {deadline : Option Duration} {ms : List Moment}
variable {s : Surroundings} {b : Body} {content : Except Error Bytes}

theorem ensures_read {Q : Except Error Bytes → Surroundings → Prop}
    (h : ∀ x, b.whole = some x → Q x s) : (read b).Ensures caller Q s := by
  induction b generalizing Q with
  | nil => exact h _ rfl
  | cons e b ih =>
    cases e with
    | chunk data => exact Task.Ensures.bind (ih fun x hx => h _ (congrArg _ hx))
    | failure e => exact h _ rfl
    | pause => exact ih h
    | silence => trivial

theorem runUntil_read (u : Undisturbed token deadline ms s) (hw : b.whole = some content)
    (hp : b.pauses < ms.length) (f : Except Error Bytes → Task (Except Error α)) :
    Task.runUntil token deadline ms ((read b).bind f) s =
      Task.runUntil token deadline (ms.drop b.pauses) (f content) s := by
  induction b generalizing ms content f with
  | nil =>
    cases hw
    rfl
  | cons e b ih =>
    cases e with
    | chunk data =>
      obtain ⟨rest, hr, rfl⟩ := Option.map_eq_some_iff.1 hw
      rw [read, Task.bind_bind]
      exact ih u hr hp _
    | failure e =>
      cases hw
      rfl
    | pause =>
      cases ms with
      | nil => cases hp
      | cons m ms =>
        rw [Task.runUntil_waiting u (show ((read (.pause :: b)).bind f).poll token s =
          (.waiting ((read b).bind f), s) from rfl)]
        exact ih (u.drop 1 rfl) hw (Nat.lt_of_succ_lt_succ hp) f
    | silence => cases hw

end Body

/-- The last request that was sent since then was answered with this response. -/
def Surroundings.Answered (s s' : Surroundings) (response : Response) : Prop :=
  ∃ before r, s'.sent = s.sent ++ before ++ [r] ∧
    (s.network (s.sent ++ before).length r).outcome = .ok response

/-- Nothing has been answered with a response since then. -/
structure Surroundings.Open (s₀ s : Surroundings) : Prop where
  network_eq : s.network = s₀.network
  sent_eq : ∃ before, s.sent = s₀.sent ++ before
  unanswered : ∀ response, ¬ s₀.Answered s response

namespace Surroundings

variable {s₀ s s' : Surroundings} {r : Request} {response : Response} {caller : CancelToken}

theorem Open.refl (s : Surroundings) : s.Open s := by
  refine ⟨rfl, ⟨[], (List.append_nil _).symm⟩, fun response h => ?_⟩
  obtain ⟨before, r, hs, -⟩ := h
  have hl := congrArg List.length hs
  simp only [List.length_append, List.length_singleton] at hl
  omega

theorem Open.of_same (h : s₀.Open s) (hn : s'.network = s.network) (hs : s'.sent = s.sent) :
    s₀.Open s' := by
  refine ⟨hn.trans h.network_eq, hs ▸ h.sent_eq, fun response answered => ?_⟩
  rw [Answered, hs] at answered
  exact h.unanswered response answered

theorem Open.answered_send (h : s₀.Open s) :
    s₀.Answered (s.send caller r).2 response ↔ (s.send caller r).1.outcome = .ok response := by
  obtain ⟨before, hb⟩ := h.sent_eq
  have sent : (s.send caller r).2.sent = s₀.sent ++ before ++ [r] := congrArg (· ++ [r]) hb
  have reply : (s.send caller r).1 = s₀.network (s₀.sent ++ before).length r := by
    rw [← hb, ← h.network_eq]
    rfl
  rw [reply]
  constructor
  · rintro ⟨before', r', hs, ho⟩
    rw [sent] at hs
    obtain ⟨same, last⟩ := List.append_inj' hs rfl
    cases last
    rw [same]
    exact ho
  · intro ho
    exact ⟨before, r, sent, ho⟩

theorem Open.send {e : Error} (h : s₀.Open s) (he : (s.send caller r).1.outcome = .error e) :
    s₀.Open (s.send caller r).2 := by
  obtain ⟨before, hb⟩ := h.sent_eq
  refine ⟨h.network_eq, ⟨before ++ [r], ?_⟩, fun response answered => ?_⟩
  · have sent : (s.send caller r).2.sent = s₀.sent ++ before ++ [r] := congrArg (· ++ [r]) hb
    rw [sent, List.append_assoc]
  · rw [h.answered_send, he] at answered
    cases answered

end Surroundings

namespace Client

variable {α : Type} {c : Client} {key : Option Credentials} {base : Request} {o : Operation}
variable {s₀ s : Surroundings} {caller : CancelToken}

/-- An operation succeeds with a response exactly when it was answered with it and it is no
refusal. -/
def Fair (s₀ : Surroundings) (result : Except Error Response) (s : Surroundings) : Prop :=
  ∀ response, result = .ok response ↔ s₀.Answered s response ∧ response.isAnswer = true

theorem fair_of_no_answer (h : ∀ r, s₀.Answered s r → r.isAnswer ≠ true) (e : Error) :
    Fair s₀ (.error e) s := by
  intro response
  constructor
  · intro he
    cases he
  · rintro ⟨answered, answer⟩
    exact absurd answer (h response answered)

theorem fair_error (h : s₀.Open s) (e : Error) : Fair s₀ (.error e) s :=
  fair_of_no_answer (fun r answered => absurd answered (h.unanswered r)) e

theorem ensures_check {response : Response} (h : ∀ r, s₀.Answered s r ↔ response = r) :
    Task.Ensures caller (Fair s₀) response.check s := by
  by_cases answer : response.isAnswer = true
  · rw [Response.check_answer answer]
    intro r
    rw [h]
    constructor
    · intro hr
      cases hr
      exact ⟨rfl, answer⟩
    · rintro ⟨rfl, -⟩
      rfl
  · have hc : response.check = (Body.read response.body).bind _ := if_neg answer
    rw [hc]
    refine Task.Ensures.bind (Body.ensures_read fun body _ => fair_of_no_answer (fun r hr => ?_) _)
    rw [← (h r).1 hr]
    exact answer

theorem ensures_sign {g : Request → Call Response} (h : s₀.Open s)
    (hg : ∀ r s, s₀.Open s → Task.Ensures caller (Fair s₀) (g r) s) :
    Task.Ensures caller (Fair s₀) (c.sign key base >>= g : Call Response) s := by
  cases key with
  | none => exact hg base s h
  | some k =>
    have later : s₀.Open s.tick.2 := h.of_same rfl rfl
    change Task.Ensures caller (Fair s₀) (Task.bind
      (Call.ofExcept (c.signer.sign base k c.config.region s.tick.1)) (ExceptT.bindCont g)) s.tick.2
    rcases c.signer.sign base k c.config.region s.tick.1 with e | r
    · exact fair_error later e
    · exact hg r s.tick.2 later

theorem ensures_verdict {outcome : Except Error Response}
    (h : ∀ r, s₀.Answered s r ↔ outcome = .ok r) :
    Task.Ensures caller (Fair s₀) (verdict outcome) s := by
  cases outcome with
  | ok response => exact ensures_check fun r => (h r).trans (by rw [Except.ok.injEq])
  | error e =>
    refine fair_of_no_answer (fun r hr => ?_) e
    cases (h r).1 hr

theorem ensures_attempt (h : s₀.Open s) (retries : Nat) :
    Task.Ensures caller (Fair s₀) (c.attempt key base retries) s := by
  induction retries generalizing s with
  | zero =>
    rw [attempt_eq]
    exact ensures_sign h fun r s hs => ensures_verdict fun _ => hs.answered_send
  | succ retries ih =>
    rw [attempt_eq]
    refine ensures_sign h fun r s hs => ?_
    change Task.Ensures caller (Fair s₀) (c.follow key base (retries + 1) _) _
    rw [follow]
    split
    · next refused =>
      -- a refused request was not answered, so the next attempt finds the answer open again
      rcases ho : (s.send caller r).1.outcome with e | response
      · exact ih (hs.send ho)
      · rw [ho] at refused
        cases refused
    · exact ensures_verdict fun _ => hs.answered_send

theorem ensures_send (c : Client) (o : Operation) (caller : CancelToken) (s : Surroundings) :
    Task.Ensures caller (Fair s) (c.send o) s := by
  rcases hr : o.request c.config with e | base
  · rw [send_rejected hr]
    exact fair_error (.refl s) e
  · rcases hp : c.provider with - | p
    · rw [send_anonymous hr hp]
      exact ensures_attempt (.refl s) _
    · rw [send_keyed hr hp]
      have asked : s.Open s.ask.2 := (Surroundings.Open.refl s).of_same rfl rfl
      change Task.Ensures caller (Fair s) (c.proceed base s.ask.1) s.ask.2
      rcases s.ask.1 with e | k
      · exact fair_error asked e
      · change Task.Ensures caller (Fair s) (c.checkRegion (some k) >>= fun _ =>
          c.attempt (some k) base c.config.maxRetries : Call Response) s.ask.2
        rw [checkRegion]
        split
        · exact fair_error asked _
        · exact ensures_attempt asked _

theorem execute_answered {ctx : Context} {m : Moment} {ms : List Moment} {response : Response}
    (hr : o.request c.config = .ok base) (hp : c.provider = none)
    (u : Undisturbed ctx.token (ctx.effectiveDeadline m.time (some c.config.requestTimeout))
      (m :: ms) s)
    (hn : s.network s.sent.length base = ⟨some 0, .ok response, false⟩)
    (answer : response.isAnswer = true) :
    c.execute ctx (m :: ms) o s = (some (.ok response), { s with sent := s.sent ++ [base] }) := by
  have sent : s.send ctx.token base =
      (⟨some 0, .ok response, false⟩, { s with sent := s.sent ++ [base] }) := by
    rw [Surroundings.send, hn]
    rfl
  refine Task.runUntil_ready u ?_
  rw [send_anonymous hr hp, attempt_eq]
  change (Task.exchange base (c.follow none base _)).poll ctx.token s = _
  rw [Task.poll, sent]
  simp only
  rw [follow_of_accepted rfl, verdict, Response.check_answer answer]
  rfl

end Client

end ObjectStorage
