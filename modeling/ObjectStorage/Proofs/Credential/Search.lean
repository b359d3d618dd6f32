import ObjectStorage.Credential.Provider

/-!
# The search of a chain

A chain asks its members one after the other until one succeeds. `askAt` asks as `ask` does, except
that every provider has its own readings of the clock, and counts who was asked. `chain_search` says
whom a chain asks and what it answers, and that only the single providers in their order matter: a
nested chain with members may be replaced by its members, wherever it stands.
-/
namespace ObjectStorage

/-- What asking gives: the answer, what was asked as it is afterwards, and how many single providers
have been asked so far. -/
structure Asked (α β : Type) where
  answer : α
  after : β
  count : Nat

namespace Provider

section
variable (env : Environment) (clock : Nat → Instant × Instant)

mutual

/-- Asks a provider after `n` single ones have been asked; the next one reads the clock as
`clock n`. -/
def askAt (n : Nat) : Provider → Asked (Except Error Credentials) Provider
  | chain members =>
    let asked := askMembersAt n (.argument .noProviders) members
    ⟨asked.answer, chain asked.after, asked.count⟩
  | p => ⟨(p.ask env (clock n)).1, (p.ask env (clock n)).2, n + 1⟩

/-- Asks members in order until one succeeds; `last` is the failure of the one before. -/
def askMembersAt (n : Nat) (last : Error) :
    List Provider → Asked (Except Error Credentials) (List Provider)
  | [] => ⟨.error last, [], n⟩
  | p :: r =>
    let asked := askAt n p
    match asked.answer with
    | .ok c => ⟨.ok c, asked.after :: r, asked.count⟩
    | .error e =>
      let rest := askMembersAt asked.count e r
      ⟨rest.answer, asked.after :: rest.after, rest.count⟩

end

def askEach (n : Nat) : List Provider → Asked (List (Except Error Credentials)) (List Provider)
  | [] => ⟨[], [], n⟩
  | p :: r =>
    let asked := askAt env clock n p
    let rest := askEach asked.count r
    ⟨asked.answer :: rest.answer, asked.after :: rest.after, rest.count⟩

end

mutual

/-- The single providers of a tree in order. An empty chain is one of them: it has an error of its
own. -/
def leaves : Provider → List Provider
  | chain (p :: r) => p.leaves ++ leavesOf r
  | p => [p]

def leavesOf : List Provider → List Provider
  | [] => []
  | p :: r => p.leaves ++ leavesOf r

end

/-- Some nested chains that have members, at any depth, are replaced by their members. -/
inductive Inlines : List Provider → List Provider → Prop
  | nil : Inlines [] []
  | keep (p : Provider) {r s : List Provider} (tail : Inlines r s) : Inlines (p :: r) (p :: s)
  | inside {ms ns r s : List Provider} (members : Inlines ms ns) (tail : Inlines r s) :
      Inlines (chain ms :: r) (chain ns :: s)
  | inline {ms ns r s : List Provider} (some : ms ≠ []) (members : Inlines ms ns)
      (tail : Inlines r s) : Inlines (chain ms :: r) (ns ++ s)

variable {env : Environment} {clock : Nat → Instant × Instant} {n : Nat} {last : Error}
  {p : Provider} {r s ms ns : List Provider}

mutual

theorem askAt_const (env : Environment) (clock : Instant × Instant) (n : Nat) : (p : Provider) →
    ((p.askAt env (fun _ => clock) n).answer, (p.askAt env (fun _ => clock) n).after) =
      p.ask env clock
  | chain members => by
    rw [ask, ← askMembersAt_const env clock n _ members, askAt]
  | fixed _ | environment | failing _ | refreshing _ => by
    rw [askAt]
    intro _ h
    cases h

theorem askMembersAt_const (env : Environment) (clock : Instant × Instant) (n : Nat)
    (last : Error) : (ms : List Provider) →
    ((askMembersAt env (fun _ => clock) n last ms).answer,
      (askMembersAt env (fun _ => clock) n last ms).after) = askMembers env clock last ms
  | [] => by
    rw [askMembers, askMembersAt]
  | p :: r => by
    have first := askAt_const env clock n p
    rw [askMembers, askMembersAt, ← first]
    cases (p.askAt env (fun _ => clock) n).answer with
    | ok c => rfl
    | error e => simp only [← askMembersAt_const env clock (p.askAt env (fun _ => clock) n).count e r]

end

theorem askMembersAt_ok {c : Credentials} (h : (p.askAt env clock n).answer = .ok c) :
    askMembersAt env clock n last (p :: r) =
      ⟨.ok c, (p.askAt env clock n).after :: r, (p.askAt env clock n).count⟩ := by
  simp only [askMembersAt, h]

theorem askMembersAt_error {e : Error} (h : (p.askAt env clock n).answer = .error e) :
    askMembersAt env clock n last (p :: r) =
      ⟨(askMembersAt env clock (p.askAt env clock n).count e r).answer,
        (p.askAt env clock n).after ::
          (askMembersAt env clock (p.askAt env clock n).count e r).after,
        (askMembersAt env clock (p.askAt env clock n).count e r).count⟩ := by
  simp only [askMembersAt, h]

/-- The failure before counts only where nobody is asked. -/
theorem askMembersAt_of_ne_nil (some : ms ≠ []) (e : Error) :
    askMembersAt env clock n last ms = askMembersAt env clock n e ms := by
  cases ms with
  | nil => exact absurd rfl some
  | cons p r => rw [askMembersAt, askMembersAt]

/-- The first that succeeds answers: those before it are asked once each and fail, and those behind
it are left as they are. -/
def Found (env : Environment) (clock : Nat → Instant × Instant) (n : Nat) (members : List Provider)
    (asked : Asked (Except Error Credentials) (List Provider)) : Prop :=
  ∃ (before : List Provider) (p : Provider) (after : List Provider) (c : Credentials)
      (errors : List Error),
    members = before ++ p :: after ∧
    (askEach env clock n before).answer = errors.map .error ∧
    (p.askAt env clock (askEach env clock n before).count).answer = .ok c ∧
    asked = ⟨.ok c,
      (askEach env clock n before).after ++
        (p.askAt env clock (askEach env clock n before).count).after :: after,
      (p.askAt env clock (askEach env clock n before).count).count⟩

/-- All are asked once and fail, and the last failure is the answer. -/
def Exhausted (env : Environment) (clock : Nat → Instant × Instant) (n : Nat) (last : Error)
    (members : List Provider) (asked : Asked (Except Error Credentials) (List Provider)) : Prop :=
  ∃ errors : List Error,
    (askEach env clock n members).answer = errors.map .error ∧
    asked = ⟨.error (errors.getLast?.getD last), (askEach env clock n members).after,
      (askEach env clock n members).count⟩

theorem found_or_exhausted (env : Environment) (clock : Nat → Instant × Instant) (n : Nat)
    (last : Error) (members : List Provider) :
    Found env clock n members (askMembersAt env clock n last members) ∨
      Exhausted env clock n last members (askMembersAt env clock n last members) := by
  induction members generalizing n last with
  | nil =>
    refine .inr ⟨[], rfl, ?_⟩
    rw [askMembersAt]
    rfl
  | cons q members ih =>
    cases hq : (q.askAt env clock n).answer with
    | ok c => exact .inl ⟨[], q, members, c, [], rfl, rfl, hq, askMembersAt_ok hq⟩
    | error e =>
      rw [askMembersAt_error hq]
      obtain ⟨before, p, after, c, errors, rfl, fail, found, asked⟩ | ⟨errors, fail, asked⟩ :=
        ih (q.askAt env clock n).count e
      · refine .inl ⟨q :: before, p, after, c, e :: errors, rfl, ?_, found, ?_⟩
        · rw [askEach, hq, fail, List.map_cons]
        · rw [asked]
          rfl
      · refine .inr ⟨e :: errors, ?_, ?_⟩
        · rw [askEach, hq, fail, List.map_cons]
        · rw [asked, List.getLast?_cons, Option.getD_some]
          rfl

theorem askMembersAt_append (n : Nat) (last : Error) (r s : List Provider) :
    askMembersAt env clock n last (r ++ s) =
      match (askMembersAt env clock n last r).answer with
      | .ok c => ⟨.ok c, (askMembersAt env clock n last r).after ++ s,
          (askMembersAt env clock n last r).count⟩
      | .error e =>
        ⟨(askMembersAt env clock (askMembersAt env clock n last r).count e s).answer,
          (askMembersAt env clock n last r).after ++
            (askMembersAt env clock (askMembersAt env clock n last r).count e s).after,
          (askMembersAt env clock (askMembersAt env clock n last r).count e s).count⟩ := by
  induction r generalizing n last with
  | nil => simp only [askMembersAt, List.nil_append]
  | cons p r ih =>
    rw [List.cons_append]
    cases hp : (p.askAt env clock n).answer with
    | ok c => rw [askMembersAt_ok hp, askMembersAt_ok hp]; rfl
    | error e =>
      rw [askMembersAt_error hp, askMembersAt_error hp, ih]
      cases (askMembersAt env clock (p.askAt env clock n).count e r).answer <;> rfl

theorem length_after (n : Nat) (last : Error) (ms : List Provider) :
    (askMembersAt env clock n last ms).after.length = ms.length := by
  induction ms generalizing n last with
  | nil =>
    rw [askMembersAt]
  | cons p r ih =>
    cases hp : (p.askAt env clock n).answer with
    | ok c => rw [askMembersAt_ok hp, List.length_cons, List.length_cons]
    | error e => rw [askMembersAt_error hp, List.length_cons, List.length_cons, ih]

theorem after_ne_nil (env : Environment) (clock : Nat → Instant × Instant) (n : Nat) (last : Error)
    (some : ms ≠ []) : (askMembersAt env clock n last ms).after ≠ [] := by
  rw [← List.length_pos_iff, length_after]
  exact List.length_pos_iff.2 some

theorem Inlines.ne_nil (h : Inlines ms ns) : ms ≠ [] → ns ≠ [] := by
  induction h with
  | nil => exact id
  | keep p tail => exact fun _ => List.cons_ne_nil _ _
  | inside members tail => exact fun _ => List.cons_ne_nil _ _
  | inline some members tail ihm =>
    exact fun _ none => ihm some (List.append_eq_nil_iff.1 none).1

theorem Inlines.eq_nil (h : Inlines [] ns) : ns = [] := by
  cases h
  rfl

theorem leaves_chain (some : ms ≠ []) : (chain ms).leaves = leavesOf ms := by
  cases ms with
  | nil => exact absurd rfl some
  | cons p r => rw [leaves, leavesOf]

theorem leavesOf_append (r s : List Provider) : leavesOf (r ++ s) = leavesOf r ++ leavesOf s := by
  induction r with
  | nil => rw [leavesOf, List.nil_append, List.nil_append]
  | cons p r ih => rw [List.cons_append, leavesOf, leavesOf, ih, List.append_assoc]

theorem Inlines.leavesOf_eq (h : Inlines ms ns) : leavesOf ms = leavesOf ns := by
  induction h with
  | nil => rfl
  | keep p tail ih => rw [leavesOf, leavesOf, ih]
  | @inside ms ns r s members tail ihm ih =>
    have nested : (chain ms).leaves = (chain ns).leaves := by
      by_cases none : ms = []
      · subst none
        rw [members.eq_nil]
      · rw [leaves_chain none, leaves_chain (members.ne_nil none), ihm]
    rw [leavesOf, leavesOf, nested, ih]
  | inline some members tail ihm ih =>
    rw [leavesOf, leaves_chain some, leavesOf_append, ihm, ih]

mutual

theorem inlines_leaves : (p : Provider) → ∀ {r s : List Provider}, Inlines r s →
    Inlines (p :: r) (p.leaves ++ s)
  | chain (q :: t), _, _, tail => by
    rw [leaves_chain (List.cons_ne_nil q t)]
    exact .inline (List.cons_ne_nil q t) (inlines_leavesOf (q :: t)) tail
  | chain [], _, _, tail | fixed _, _, _, tail | environment, _, _, tail | failing _, _, _, tail
  | refreshing _, _, _, tail => by
    rw [leaves]
    · exact .keep _ tail
    · intro _ _ h
      cases h

theorem inlines_leavesOf : (ms : List Provider) → Inlines ms (leavesOf ms)
  | [] => by
    rw [leavesOf]
    exact .nil
  | p :: r => by
    rw [leavesOf]
    exact inlines_leaves p (inlines_leavesOf r)

end

/-- The same answer after as many asked, and the same nested chains replaced in what is left. -/
structure Agree (x y : Asked (Except Error Credentials) (List Provider)) : Prop where
  answer : x.answer = y.answer
  after : Inlines x.after y.after
  count : x.count = y.count

theorem agree_cons {q : Provider}
    (answer : (p.askAt env clock n).answer = (q.askAt env clock n).answer)
    (count : (p.askAt env clock n).count = (q.askAt env clock n).count)
    (after : ∀ {r s}, Inlines r s →
      Inlines ((p.askAt env clock n).after :: r) ((q.askAt env clock n).after :: s))
    (tail : Inlines r s)
    (rest : ∀ n last, Agree (askMembersAt env clock n last r) (askMembersAt env clock n last s)) :
    Agree (askMembersAt env clock n last (p :: r)) (askMembersAt env clock n last (q :: s)) := by
  cases hp : (p.askAt env clock n).answer with
  | ok c =>
    rw [askMembersAt_ok hp, askMembersAt_ok (answer ▸ hp)]
    exact ⟨rfl, after tail, count⟩
  | error e =>
    rw [askMembersAt_error hp, askMembersAt_error (answer ▸ hp), ← count]
    have same := rest (p.askAt env clock n).count e
    exact ⟨same.answer, after same.after, same.count⟩

/-- Where nested chains with members are replaced by their members, the same providers are asked with
the same outcome. -/
theorem Inlines.agree (h : Inlines ms ns) (env : Environment) (clock : Nat → Instant × Instant)
    (n : Nat) (last : Error) :
    Agree (askMembersAt env clock n last ms) (askMembersAt env clock n last ns) := by
  induction h generalizing n last with
  | nil =>
    rw [askMembersAt]
    exact ⟨rfl, .nil, rfl⟩
  | keep p tail ih => exact agree_cons rfl rfl (.keep _) tail ih
  | inside members tail ihm ih =>
    have nested := ihm n (.argument .noProviders)
    apply agree_cons _ _ _ tail ih
    · rw [askAt, askAt]
      exact nested.answer
    · rw [askAt, askAt]
      exact nested.count
    · rw [askAt, askAt]
      exact .inside nested.after
  | @inline ms ns r s some members tail ihm ih =>
    have nested := ihm n (.argument .noProviders)
    have first : (chain ms).askAt env clock n =
        ⟨(askMembersAt env clock n (.argument .noProviders) ms).answer,
          chain (askMembersAt env clock n (.argument .noProviders) ms).after,
          (askMembersAt env clock n (.argument .noProviders) ms).count⟩ := by
      rw [askAt]
    have kept := after_ne_nil env clock n (.argument .noProviders) some
    rw [askMembersAt_append, askMembersAt_of_ne_nil (members.ne_nil some) (.argument .noProviders),
      ← nested.answer, ← nested.count]
    cases answer : (askMembersAt env clock n (.argument .noProviders) ms).answer with
    | ok c =>
      rw [askMembersAt_ok (by rw [first]; exact answer), first]
      exact ⟨rfl, .inline kept nested.after tail, rfl⟩
    | error e =>
      rw [askMembersAt_error (by rw [first]; exact answer), first]
      have rest := ih (askMembersAt env clock n (.argument .noProviders) ms).count e
      exact ⟨rest.answer, .inline kept nested.after rest.after, rest.count⟩

/-- The search of a chain. With one reading of the clock for all it is what runs. Either the first
member that succeeds answers or all fail, and the last failure answers, for the empty chain its own.
Nested chains with members may be replaced by their members, some or all of them: then the answer,
how many are asked and every single provider afterwards are the same. -/
theorem chain_search (env : Environment) (members : List Provider) :
    (∀ (readings : Instant × Instant) (n : Nat),
      (((chain members).askAt env (fun _ => readings) n).answer,
        ((chain members).askAt env (fun _ => readings) n).after) =
          (chain members).ask env readings) ∧
    (members = [] → ∀ readings : Instant × Instant,
      (chain members).ask env readings = (.error (.argument .noProviders), chain [])) ∧
    ∀ (clock : Nat → Instant × Instant) (n : Nat),
      ∃ asked : Asked (Except Error Credentials) (List Provider),
        (chain members).askAt env clock n = ⟨asked.answer, chain asked.after, asked.count⟩ ∧
        (Found env clock n members asked ∨
          Exhausted env clock n (.argument .noProviders) members asked) ∧
        Inlines members (leavesOf members) ∧
        ∀ others : List Provider, Inlines members others →
          ∃ same : List Provider,
            (chain others).askAt env clock n = ⟨asked.answer, chain same, asked.count⟩ ∧
            Inlines asked.after same ∧ leavesOf asked.after = leavesOf same := by
  refine ⟨fun readings n => askAt_const env readings n (chain members), ?_, fun clock n => ?_⟩
  · rintro rfl readings
    exact ask_chain_nil env readings
  · refine ⟨askMembersAt env clock n (.argument .noProviders) members, by rw [askAt],
      found_or_exhausted env clock n _ members, inlines_leavesOf members, ?_⟩
    intro others inlined
    have agree := inlined.agree env clock n (.argument .noProviders)
    refine ⟨(askMembersAt env clock n (.argument .noProviders) others).after, ?_, agree.after,
      agree.after.leavesOf_eq⟩
    rw [askAt, agree.answer, agree.count]

/-- A source that never answers in a nested chain, before credentials that are at hand: with the
nested chain or without, the source is asked once and the credentials are found. The empty chain has
only its own failure. -/
theorem chain_search_nested :
    let source := refreshing (.new (fun _ => .error (.argument .expiredToken)) .zero)
    let asked := refreshing ⟨fun _ => .error (.argument .expiredToken), .zero, 1, none⟩
    let atHand := fixed (.new "id" "secret")
    let clock : Nat → Instant × Instant := fun n => (.ofSeconds n, .ofSeconds (n + 1))
    Inlines [chain [source], atHand] [source, atHand] ∧
    (chain [chain [source], atHand]).askAt ⟨[]⟩ clock 0 =
      ⟨.ok (.new "id" "secret"), chain [chain [asked], atHand], 2⟩ ∧
    (∃ after, (chain [source, atHand]).askAt ⟨[]⟩ clock 0 =
        ⟨.ok (.new "id" "secret"), chain after, 2⟩ ∧ leavesOf after = [asked, atHand]) ∧
    (chain []).ask ⟨[]⟩ (clock 0) = (.error (.argument .noProviders), chain []) := by
  intro source asked atHand clock
  have inlined : Inlines [chain [source], atHand] [source, atHand] :=
    .inline (List.cons_ne_nil _ _) (.keep source .nil) (.keep atHand .nil)
  have nested : (chain [chain [source], atHand]).askAt ⟨[]⟩ clock 0 =
      ⟨.ok (.new "id" "secret"), chain [chain [asked], atHand], 2⟩ := by
    simp [askAt, askMembersAt, ask, source, asked, atHand, Cache.ask, Cache.lookup, Cache.new,
      Cache.fetch, Cache.settle]
  obtain ⟨found, given, -, -, replaced⟩ :=
    (chain_search ⟨[]⟩ [chain [source], atHand]).2.2 clock 0
  obtain ⟨after, flat, -, same⟩ := replaced _ inlined
  rw [nested, Asked.mk.injEq, chain.injEq] at given
  obtain ⟨answer, state, count⟩ := given
  refine ⟨inlined, nested, ⟨after, ?_, ?_⟩, (chain_search ⟨[]⟩ []).2.1 rfl (clock 0)⟩
  · rw [flat, answer, count]
  · rw [← same, ← state]
    rfl

end Provider

end ObjectStorage
