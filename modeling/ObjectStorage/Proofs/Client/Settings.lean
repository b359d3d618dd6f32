import Mathlib.Data.List.Basic
import ObjectStorage.Client.Assembly
import ObjectStorage.Proofs.Address.EndpointGrammar
import ObjectStorage.Proofs.Outcome

/-!
# Settings in any order

Of the calls of one setter the last counts, and no setter touches what another one sets. So a builder
is determined by the last call of each setter, and `assemble_spec` says field by field what client
comes of it, with the defaults of the session behind the calls and those of the builder and of the
endpoint behind the session.
-/
namespace ObjectStorage

inductive Setter where
  | region
  | credentials
  | signer
  | requestTimeout
  | checksums
  | userAgent
  | guessContentType
  | maxRetries
  | pathStyle
  | transport
deriving DecidableEq

abbrev Setter.Value (τ : Type) : Setter → Type
  | region => String
  | credentials => Provider
  | signer => Signer
  | requestTimeout => Duration
  | checksums => Bool
  | userAgent => String
  | guessContentType => Bool
  | maxRetries => Nat
  | pathStyle => Bool
  | transport => τ

namespace BuilderCall

variable {τ : Type}

def setter : BuilderCall τ → Setter
  | setting (.region _) => .region
  | setting (.credentials _) => .credentials
  | setting (.signer _) => .signer
  | setting (.requestTimeout _) => .requestTimeout
  | setting (.checksums _) => .checksums
  | setting (.userAgent _) => .userAgent
  | setting (.guessContentType _) => .guessContentType
  | setting (.maxRetries _) => .maxRetries
  | setting (.pathStyle _) => .pathStyle
  | transport _ => .transport

def value : (c : BuilderCall τ) → c.setter.Value τ
  | setting (.region name) => name
  | setting (.credentials p) => p
  | setting (.signer s) => s
  | setting (.requestTimeout t) => t
  | setting (.checksums on) => on
  | setting (.userAgent extra) => extra
  | setting (.guessContentType on) => on
  | setting (.maxRetries count) => count
  | setting (.pathStyle on) => on
  | transport t => t

def value? (k : Setter) (c : BuilderCall τ) : Option (k.Value τ) :=
  if h : c.setter = k then some (h ▸ c.value) else none

def last? (k : Setter) : List (BuilderCall τ) → Option (k.Value τ)
  | [] => none
  | c :: calls => (last? k calls).or (c.value? k)

variable {a b c : BuilderCall τ} {k : Setter} {calls before between rest : List (BuilderCall τ)}

theorem value?_of_ne (h : c.setter ≠ k) : c.value? k = none := dif_neg h

theorem last?_append (r s : List (BuilderCall τ)) :
    last? k (r ++ s) = (last? k s).or (last? k r) := by
  induction r with
  | nil => exact Option.or_none.symm
  | cons c r ih => rw [List.cons_append, last?, ih, last?, Option.or_assoc]

theorem last?_of_ne (h : ∀ c ∈ calls, c.setter ≠ k) : last? k calls = none := by
  induction calls with
  | nil => rfl
  | cons c calls ih =>
    rw [last?, ih fun d hd => h d (List.mem_cons_of_mem c hd),
      value?_of_ne (h c List.mem_cons_self), Option.none_or]

theorem last?_swap (apart : a.setter ≠ b.setter)
    (others : ∀ c ∈ between, c.setter ≠ a.setter ∧ c.setter ≠ b.setter) (k : Setter) :
    last? k (before ++ a :: (between ++ b :: rest)) =
      last? k (before ++ b :: (between ++ a :: rest)) := by
  simp only [last?_append, last?]
  congr 1
  by_cases ha : a.setter = k
  · subst ha
    rw [value?_of_ne (Ne.symm apart), last?_of_ne fun c hc => (others c hc).1]
    simp
  · rw [value?_of_ne ha]
    by_cases hb : b.setter = k
    · subst hb
      rw [last?_of_ne fun c hc => (others c hc).2]
      simp
    · rw [value?_of_ne hb]

end BuilderCall

open BuilderCall

namespace Assembly

variable {τ : Type}

/-- What calls make of a builder: the last value of each setter, and what was there where there is
none. -/
def settled (a : Assembly τ) (calls : List (BuilderCall τ)) : Assembly τ :=
  let given := a.builder.choices
  { builder :=
      { endpoint := a.builder.endpoint
        choices :=
          { region := (last? .region calls).getD given.region
            requestTimeout := (last? .requestTimeout calls).getD given.requestTimeout
            userAgent := (last? .userAgent calls).or given.userAgent
            checksums := (last? .checksums calls).getD given.checksums
            guessContentType := (last? .guessContentType calls).getD given.guessContentType
            maxRetries := (last? .maxRetries calls).getD given.maxRetries
            pathStyle := (last? .pathStyle calls).or given.pathStyle }
        provider := (last? .credentials calls).or a.builder.provider
        signer := (last? .signer calls).getD a.builder.signer }
    transport := (last? .transport calls).or a.transport }

theorem settled_cons (a : Assembly τ) (c : BuilderCall τ) (calls : List (BuilderCall τ)) :
    a.settled (c :: calls) = (a.apply c).settled calls := by
  cases c with
  | transport t => simp [settled, apply, last?, value?, setter, value]
  | setting s =>
    cases s <;> simp [settled, apply, ClientBuilder.apply, last?, value?, setter, value]

theorem applyAll_eq_settled (a : Assembly τ) (calls : List (BuilderCall τ)) :
    a.applyAll calls = a.settled calls := by
  induction calls generalizing a with
  | nil => rfl
  | cons c calls ih =>
    rw [settled_cons, ← ih]
    rfl

end Assembly

/-- The region that was given, without blanks at its ends, or the one that the endpoint names if
nothing is left of it. -/
def IsRegion (given : String) (u : Url) (region : String) : Prop :=
  Blank.trim given ≠ "" ∧ region = Blank.trim given ∨
    Blank.trim given = "" ∧
      (Endpoint.NamesRegion u region ∨ region = "" ∧ ∀ other, ¬ Endpoint.NamesRegion u other)

theorem Choices.regionFor_eq_iff {choices : Choices} {u : Url} {region : String} :
    choices.regionFor u = region ↔ IsRegion choices.region u region := by
  unfold Choices.regionFor IsRegion
  by_cases blank : Blank.trim choices.region = ""
  · simp only [blank, String.isEmpty_iff, if_true, ne_eq, not_true, false_and, true_and, false_or,
      ← Endpoint.region?_eq_some_iff]
    cases Endpoint.region? u with
    | none =>
      simp only [Option.getD_none, reduceCtorEq, not_false_eq_true, implies_true, and_true,
        false_or]
      exact eq_comm
    | some named => simp
  · simp only [String.isEmpty_iff, blank, if_false, ne_eq, not_false_eq_true, true_and, false_and,
      or_false]
    exact eq_comm

theorem Choices.region_resolve_iff (choices : Choices) (u : Url) (region : String) :
    (choices.resolve u).region = region ↔ IsRegion choices.region u region := by
  rw [← Choices.regionFor_eq_iff, Choices.resolve]

theorem Choices.userAgent_resolve (choices : Choices) (u : Url) :
    (choices.resolve u).userAgent =
      let extra := Blank.trim (choices.userAgent.getD "")
      if extra = "" then "tos-rust-sdk/0.1.0" else "tos-rust-sdk/0.1.0" ++ " " ++ extra := by
  rw [Choices.resolve]
  simp only [Choices.userAgentText, String.isEmpty_iff, ClientConfig.product]

theorem Choices.pathStyle_resolve_iff (choices : Choices) (u : Url) :
    (choices.resolve u).pathStyle = true ↔
      choices.pathStyle = some true ∨ choices.pathStyle = none ∧
        ((∃ a, u.host = some (.v4 a)) ∨ (∃ a, u.host = some (.v6 a)) ∨
          u.host = some (.name "localhost")) := by
  rw [← Endpoint.isBare_iff, Choices.resolve]
  cases choices.pathStyle <;> simp

theorem Session.builder_eq (s : Session) (endpoint : String) :
    s.builder endpoint =
      ⟨endpoint, { Choices.usual with region := s.region }, s.provider, .v4⟩ := by
  unfold Session.builder
  cases s.provider <;> rfl

variable {τ : Type}

/-- A client and its transport, told by the last call of each setter. -/
structure Composed (s : Session) (t : τ) (calls : List (BuilderCall τ)) (u : Url) (client : Client)
    (transport : τ) : Prop where
  endpoint : client.config.endpoint = u
  region : IsRegion ((last? .region calls).getD s.region) u client.config.region
  requestTimeout : client.config.requestTimeout =
    (last? .requestTimeout calls).getD (.ofSeconds 120)
  userAgent : client.config.userAgent =
    let extra := Blank.trim ((last? .userAgent calls).getD "")
    if extra = "" then "tos-rust-sdk/0.1.0" else "tos-rust-sdk/0.1.0" ++ " " ++ extra
  checksums : client.config.checksums = (last? .checksums calls).getD true
  guessContentType : client.config.guessContentType = (last? .guessContentType calls).getD true
  maxRetries : client.config.maxRetries = min ((last? .maxRetries calls : Option Nat).getD 0) 5
  pathStyle : client.config.pathStyle = true ↔
    last? .pathStyle calls = some true ∨ last? .pathStyle calls = none ∧
      ((∃ a, u.host = some (.v4 a)) ∨ (∃ a, u.host = some (.v6 a)) ∨
        u.host = some (.name "localhost"))
  provider : client.provider = (last? .credentials calls).or s.provider
  signer : client.signer = (last? .signer calls).getD .v4
  transport : transport = (last? .transport calls).getD t

def Session.choices (s : Session) (calls : List (BuilderCall τ)) : Choices :=
  { region := (last? .region calls).getD s.region
    requestTimeout := (last? .requestTimeout calls).getD (.ofSeconds 120)
    userAgent := last? .userAgent calls
    checksums := (last? .checksums calls).getD true
    guessContentType := (last? .guessContentType calls).getD true
    maxRetries := (last? .maxRetries calls).getD 0
    pathStyle := last? .pathStyle calls }

def Session.clientFor (s : Session) (calls : List (BuilderCall τ)) (u : Url) : Client :=
  ⟨(s.choices calls).resolve u, (last? .credentials calls).or s.provider,
    (last? .signer calls).getD .v4⟩

theorem composed_clientFor (s : Session) (t : τ) (calls : List (BuilderCall τ)) (u : Url) :
    Composed s t calls u (s.clientFor calls u) ((last? .transport calls).getD t) where
  endpoint := rfl
  region := (Choices.region_resolve_iff (s.choices calls) u _).1 rfl
  requestTimeout := rfl
  userAgent := Choices.userAgent_resolve (s.choices calls) u
  checksums := rfl
  guessContentType := rfl
  maxRetries := rfl
  pathStyle := Choices.pathStyle_resolve_iff (s.choices calls) u
  provider := rfl
  signer := rfl
  transport := rfl

theorem IsRegion.unique {given region other : String} {u : Url} (h : IsRegion given u region)
    (h' : IsRegion given u other) : region = other := by
  have found (r : String) (hr : IsRegion given u r) :
      ({ Choices.usual with region := given } : Choices).regionFor u = r :=
    Choices.regionFor_eq_iff.2 hr
  rw [← found region h, found other h']

theorem Composed.unique {s : Session} {t : τ} {calls : List (BuilderCall τ)} {u : Url}
    {c d : Client} {x y : τ} (hc : Composed s t calls u c x) (hd : Composed s t calls u d y) :
    c = d ∧ x = y := by
  refine ⟨?_, hc.transport.trans hd.transport.symm⟩
  have config : c.config = d.config := by
    rw [ClientConfig.mk.injEq]
    refine ⟨hc.endpoint.trans hd.endpoint.symm, hc.region.unique hd.region,
      hc.requestTimeout.trans hd.requestTimeout.symm, hc.userAgent.trans hd.userAgent.symm,
      hc.checksums.trans hd.checksums.symm, hc.guessContentType.trans hd.guessContentType.symm,
      hc.maxRetries.trans hd.maxRetries.symm, ?_⟩
    rw [Bool.eq_iff_iff, hc.pathStyle, hd.pathStyle]
  rw [Client.mk.injEq]
  exact ⟨config, hc.provider.trans hd.provider.symm, hc.signer.trans hd.signer.symm⟩

theorem settled_builder (s : Session) (t : τ) (endpoint : String) (calls : List (BuilderCall τ)) :
    Assembly.settled ⟨s.builder endpoint, some t⟩ calls =
      ⟨⟨endpoint, s.choices calls, (last? .credentials calls).or s.provider,
        (last? .signer calls).getD .v4⟩, some ((last? .transport calls).getD t)⟩ := by
  rw [Session.builder_eq]
  simp [Assembly.settled, Session.choices, Choices.usual, ClientConfig.usualTimeout]

theorem assemble_eq (s : Session) (t : τ) (usual : Except Error τ) (endpoint : String)
    (calls : List (BuilderCall τ)) :
    s.assemble (.ok t) usual endpoint calls = (Endpoint.read endpoint).map fun u =>
      (s.clientFor calls u, (last? .transport calls).getD t) := by
  rw [Session.assemble_of_transport, Assembly.applyAll_eq_settled, settled_builder]
  unfold Assembly.build ClientBuilder.build
  cases Endpoint.read endpoint <;> rfl

theorem assemble_settings (s : Session) (t : τ) (usual : Except Error τ) (endpoint : String)
    (settings : List Setting) :
    s.assemble (.ok t) usual endpoint (settings.map .setting) =
      ((s.builder endpoint).applyAll settings).build.map (·, t) := by
  have apart (b : ClientBuilder) : Assembly.applyAll ⟨b, some t⟩ (settings.map .setting) =
      ⟨b.applyAll settings, some t⟩ := by
    induction settings generalizing b with
    | nil => rfl
    | cons x settings ih => exact ih (b.apply x)
  rw [Session.assemble_of_transport, apart]
  unfold Assembly.build
  cases ((s.builder endpoint).applyAll settings).build <;> rfl

/-- The client of a session that has a transport, after any calls of its builder. It is there exactly
if the endpoint denotes a URL, and then each of its parts is told by the last call of one setter, the
session and the endpoint. So calls of two setters commute. Without a transport among the calls, it is
the client of the session's builder with the settings applied. -/
theorem assemble_spec (s : Session) (t : τ) (usual : Except Error τ) (endpoint : String)
    (calls : List (BuilderCall τ)) :
    ((∃ built, s.assemble (.ok t) usual endpoint calls = .ok built) ↔
      ∃ u, Endpoint.Denotes endpoint u) ∧
    (∀ client transport, s.assemble (.ok t) usual endpoint calls = .ok (client, transport) ↔
      ∃ u, Endpoint.Denotes endpoint u ∧ Composed s t calls u client transport) ∧
    (∀ others, (∀ k, last? k others = last? k calls) →
      s.assemble (.ok t) usual endpoint others = s.assemble (.ok t) usual endpoint calls) ∧
    (∀ before a between b rest, calls = before ++ a :: (between ++ b :: rest) →
      a.setter ≠ b.setter → (∀ c ∈ between, c.setter ≠ a.setter ∧ c.setter ≠ b.setter) →
      s.assemble (.ok t) usual endpoint (before ++ b :: (between ++ a :: rest)) =
        s.assemble (.ok t) usual endpoint calls) ∧
    ∀ settings : List Setting, calls = settings.map .setting →
      s.assemble (.ok t) usual endpoint calls =
        ((s.builder endpoint).applyAll settings).build.map (·, t) := by
  have same {others : List (BuilderCall τ)} (h : ∀ k, last? k others = last? k calls) :
      s.assemble (.ok t) usual endpoint others = s.assemble (.ok t) usual endpoint calls := by
    rw [assemble_eq, assemble_eq]
    unfold Session.clientFor Session.choices
    simp only [h]
  have built (u : Url) (h : Endpoint.Denotes endpoint u) :
      s.assemble (.ok t) usual endpoint calls =
        .ok (s.clientFor calls u, (last? .transport calls).getD t) := by
    rw [assemble_eq, Endpoint.read_eq_ok_iff.2 h]
    rfl
  have denoted {b : Client × τ} (h : s.assemble (.ok t) usual endpoint calls = .ok b) :
      ∃ u, Endpoint.Denotes endpoint u ∧
        (s.clientFor calls u, (last? .transport calls).getD t) = b := by
    rw [assemble_eq] at h
    obtain ⟨u, read, eq⟩ := map_eq_ok h
    exact ⟨u, Endpoint.read_eq_ok_iff.1 read, eq⟩
  refine ⟨⟨?_, ?_⟩, fun client transport => ⟨fun h => ?_, ?_⟩, fun others => same, ?_, ?_⟩
  · rintro ⟨b, h⟩
    obtain ⟨u, denotes, -⟩ := denoted h
    exact ⟨u, denotes⟩
  · rintro ⟨u, denotes⟩
    exact ⟨_, built u denotes⟩
  · obtain ⟨u, denotes, eq⟩ := denoted h
    cases eq
    exact ⟨u, denotes, composed_clientFor s t calls u⟩
  · rintro ⟨u, denotes, composed⟩
    obtain ⟨rfl, rfl⟩ := composed.unique (composed_clientFor s t calls u)
    exact built u denotes
  · rintro before a between b rest rfl apart others
    exact same fun k => (last?_swap apart others k).symm
  · rintro settings rfl
    exact assemble_settings s t usual endpoint settings

/-- A region of blanks gives way to the one of the endpoint, and more than five retries to five. The
retries may be set before or after the region, and as often as one likes. -/
theorem assemble_spec_regional :
    let s : Session := ⟨"cn-north", none⟩
    let endpoint := " tos-s3-cn-beijing.example.com "
    let region : BuilderCall String := .setting (.region "\t")
    let retries : BuilderCall String := .setting (.maxRetries 9)
    let none : Except Error String := .error (.argument .noProviders)
    ∃ client, s.assemble (.ok "shared") none endpoint [region, retries] = .ok (client, "shared") ∧
      s.assemble (.ok "shared") none endpoint [retries, region] = .ok (client, "shared") ∧
      s.assemble (.ok "shared") none endpoint [.setting (.maxRetries 2), region, retries] =
        .ok (client, "shared") ∧
      ((s.builder endpoint).applyAll [.region "\t", .maxRetries 9]).build.map (·, "shared") =
        .ok (client, "shared") ∧
      client.config.region = "cn-beijing" ∧ client.config.maxRetries = 5 ∧
      client.config.pathStyle = false := by
  intro s endpoint region retries none
  have read : (Endpoint.read endpoint).toOption.map Url.host =
      some (some (.name "tos-s3-cn-beijing.example.com")) := by
    decide +kernel
  obtain ⟨u, read, host⟩ := exists_of_toOption_map read
  have denotes := Endpoint.read_eq_ok_iff.1 read
  obtain ⟨success, parts, agree, swap, running⟩ :=
    assemble_spec s "shared" none endpoint [region, retries]
  obtain ⟨⟨client, transport⟩, built⟩ := success.2 ⟨u, denotes⟩
  obtain ⟨v, denotes', composed⟩ := (parts client transport).1 built
  obtain rfl : u = v := Except.ok.inj (denotes.read.symm.trans denotes'.read)
  obtain rfl : transport = "shared" := composed.transport
  have named : Endpoint.NamesRegion u "cn-beijing" :=
    Endpoint.region?_eq_some_iff.1 (by rw [Endpoint.region?, host]; decide)
  refine ⟨client, built, ?_, ?_, ?_, ?_, composed.maxRetries, ?_⟩
  · exact (swap [] region [] retries [] rfl (by decide) (by simp)).trans built
  · refine (agree [.setting (.maxRetries 2), region, retries] fun k => ?_).trans built
    cases k <;> rfl
  · exact (running [.region "\t", .maxRetries 9] rfl).symm.trans built
  · exact composed.region.unique (.inr ⟨by decide, .inl named⟩)
  · rw [← Bool.not_eq_true, composed.pathStyle, host]
    simp [last?, value?, setter, region, retries]

end ObjectStorage
