import Mathlib.Data.List.TakeWhile
import ObjectStorage.Proofs.Address.DomainName
import ObjectStorage.Proofs.Address.Encoding
import ObjectStorage.Proofs.Address.EndpointHost

/-!
# A label in front of a host

A label in front of a domain makes a domain, whose last part is the one of the domain alone. In
front of an address it makes no host: an IPv4 address has no fifth part, and the bracket of an IPv6
address stands in no domain.
-/
namespace ObjectStorage

namespace Ipv4

theorem splitOn_map_toLower {m : List Char} (h : ∀ c ∈ m, c.toNat < 0x80) :
    (m.map Char.toLower).splitOn '.' = (m.splitOn '.').map (·.map Char.toLower) := by
  induction m with
  | nil => rfl
  | cons c m ih =>
    have hdot : (c.toLower == '.') = (c == '.') :=
      forall_char_lt (p := fun c => (c.toLower == '.') = (c == '.')) (by decide)
        (h c List.mem_cons_self)
    rw [List.map_cons, List.splitOn_cons_eq_if_modifyHead, List.splitOn_cons_eq_if_modifyHead,
      hdot, ih fun d hd => h d (List.mem_cons_of_mem c hd)]
    split
    · rfl
    · cases m.splitOn '.' <;> rfl

theorem part?_singleton (c : Char) : part? [c] = ofDigits? 10 [c] := by
  rw [part?.eq_def]
  split <;> simp_all

theorem part?_cons_cons (c d : Char) (r : List Char) :
    part? (c :: d :: r) =
      if c = '0' then if d = 'x' ∨ d = 'X' then ofDigits? 16 r else ofDigits? 8 (d :: r)
      else ofDigits? 10 (c :: d :: r) := by
  rw [part?.eq_def]
  split <;> simp_all

theorem ofDigits?_toLower (radix : Nat) {cs : List Char} (h : ∀ c ∈ cs, c.toNat < 0x80) :
    ofDigits? radix (cs.map Char.toLower) = ofDigits? radix cs := by
  have step : ∀ n, (cs.map Char.toLower).foldlM
      (fun n c => (digit? radix c).map (n * radix + ·)) n =
        cs.foldlM (fun n c => (digit? radix c).map (n * radix + ·)) n := by
    induction cs with
    | nil => intro n; rfl
    | cons c cs ih =>
      intro n
      have hc : Bytes.hexValue? c.toLower = Bytes.hexValue? c :=
        forall_char_lt (p := fun c => Bytes.hexValue? c.toLower = Bytes.hexValue? c) (by decide)
          (h c List.mem_cons_self)
      rw [List.map_cons, List.foldlM_cons, List.foldlM_cons, digit?, digit?, hc]
      exact congrArg _ (funext (ih fun d hd => h d (List.mem_cons_of_mem c hd)))
  exact step 0

theorem part?_toLower {cs : List Char} (h : ∀ c ∈ cs, c.toNat < 0x80) :
    part? (cs.map Char.toLower) = part? cs := by
  match cs, h with
  | [], _ => rfl
  | [c], h =>
    rw [List.map_cons, List.map_nil, part?_singleton, part?_singleton]
    exact ofDigits?_toLower 10 h
  | c :: d :: r, h =>
    have hc : c.toLower = '0' ↔ c = '0' :=
      forall_char_lt (p := fun c => c.toLower = '0' ↔ c = '0') (by decide) (h c List.mem_cons_self)
    have hd : (d.toLower = 'x' ∨ d.toLower = 'X') ↔ (d = 'x' ∨ d = 'X') :=
      forall_char_lt (p := fun d => (d.toLower = 'x' ∨ d.toLower = 'X') ↔ (d = 'x' ∨ d = 'X'))
        (by decide) (h d (List.mem_cons_of_mem c List.mem_cons_self))
    have hr : ∀ x ∈ r, x.toNat < 0x80 := fun x hx =>
      h x (List.mem_cons_of_mem c (List.mem_cons_of_mem d hx))
    have hdr : ∀ x ∈ d :: r, x.toNat < 0x80 := fun x hx => h x (List.mem_cons_of_mem c hx)
    have h₁₀ := ofDigits?_toLower 10 h
    have h₈ := ofDigits?_toLower 8 hdr
    rw [List.map_cons, List.map_cons] at h₁₀
    rw [List.map_cons] at h₈
    rw [List.map_cons, List.map_cons, part?_cons_cons, part?_cons_cons, h₁₀, h₈,
      ofDigits?_toLower 16 hr]
    simp only [hc, hd]

theorem parts_ne_nil {m : List Char} (hm : m ≠ []) : parts m ≠ [] := by
  intro hp
  rw [parts] at hp
  split at hp
  · next hlast =>
    obtain ⟨front, hs⟩ := List.getLast?_eq_some_iff.1 hlast
    rw [hs, List.dropLast_concat] at hp
    have hj : List.intercalate ['.'] (m.splitOn '.') = m := List.intercalate_splitOn '.'
    rw [hs, hp, List.nil_append, List.intercalate_singleton] at hj
    exact hm hj.symm
  · exact List.splitOn_ne_nil '.' m hp

theorem parts_label {label : List Char} (hl : '.' ∉ label) (m : List Char) :
    parts (label ++ '.' :: m) = label :: parts m := by
  have hne := List.splitOn_ne_nil '.' m
  rw [parts, parts, List.splitOn_append_cons_self_of_not_mem hl, List.getLast?_cons_of_ne_nil hne]
  split
  · exact List.dropLast_cons_of_ne_nil hne
  · rfl

theorem parts_toLower {m : List Char} (h : ∀ c ∈ m, c.toNat < 0x80) :
    parts (m.map Char.toLower) = (parts m).map (·.map Char.toLower) := by
  rw [parts, parts, splitOn_map_toLower h, List.getLast?_map]
  cases hl : (m.splitOn '.').getLast? with
  | none => rfl
  | some p =>
    cases p with
    | nil => simp
    | cons c p => simp

theorem mem_of_mem_parts {m p : List Char} (hp : p ∈ parts m) {c : Char} (hc : c ∈ p) : c ∈ m := by
  rw [parts] at hp
  split at hp
  · exact mem_of_mem_splitOn (List.dropLast_subset _ hp) hc
  · exact mem_of_mem_splitOn hp hc

theorem endsInNumber_toLower {m : List Char} (h : ∀ c ∈ m, c.toNat < 0x80) :
    endsInNumber (m.map Char.toLower) = endsInNumber m := by
  rw [endsInNumber, endsInNumber, parts_toLower h, List.getLast?_map]
  cases hp : (parts m).getLast? with
  | none => rfl
  | some p =>
    have hascii : ∀ c ∈ p, c.toNat < 0x80 := fun c hc =>
      h c (mem_of_mem_parts (List.mem_of_getLast? hp) hc)
    have digits : (p.map Char.toLower).all Char.isDigit = p.all Char.isDigit := by
      have digit : ∀ c ∈ p, c.toLower.isDigit = c.isDigit := fun c hc =>
        forall_char_lt (p := fun c => c.toLower.isDigit = c.isDigit) (by decide) (hascii c hc)
      rw [List.all_map, Bool.eq_iff_iff, List.all_eq_true, List.all_eq_true]
      exact forall₂_congr fun c hc => by rw [Function.comp_apply, digit c hc]
    simp only [Option.map_some, List.isEmpty_map, digits, part?_toLower hascii]

theorem endsInNumber_label {label m : List Char} (hl : '.' ∉ label) (hm : m ≠ []) :
    endsInNumber (label ++ '.' :: m) = endsInNumber m := by
  rw [endsInNumber, endsInNumber, parts_label hl, List.getLast?_cons_of_ne_nil (parts_ne_nil hm)]

theorem splitOn_textChars (a : Ipv4) :
    a.textChars.splitOn '.' = a.octets.map Decimal.chars := by
  have hdot : ∀ l ∈ a.octets.map Decimal.chars, '.' ∉ l := by
    intro l hl hd
    obtain ⟨n, -, rfl⟩ := List.mem_map.1 hl
    exact absurd (Decimal.isDigit_of_mem_chars hd) (by decide)
  exact List.splitOn_intercalate '.' hdot (by simp [octets])

theorem parts_textChars (a : Ipv4) : parts a.textChars = a.octets.map Decimal.chars := by
  rw [parts, splitOn_textChars, if_neg]
  simp [octets, Decimal.chars]

theorem length_of_mapM {α β : Type} {f : α → Option β} {l : List α} {bs : List β}
    (h : l.mapM f = some bs) : bs.length = l.length := by
  induction l generalizing bs with
  | nil =>
    cases h
    rfl
  | cons a l ih =>
    rw [List.mapM_cons] at h
    obtain ⟨b, -, h⟩ := Option.bind_eq_some_iff.1 h
    obtain ⟨bs', hl, h⟩ := Option.bind_eq_some_iff.1 h
    cases h
    rw [List.length_cons, List.length_cons, ih hl]

theorem read_label {label : List Char} (hl : '.' ∉ label) (a : Ipv4) :
    ∃ e, read (label ++ '.' :: a.textChars) = .error e := by
  rw [read, parts_label hl, parts_textChars]
  cases hm : (label :: a.octets.map Decimal.chars).mapM part? with
  | none => exact ⟨_, rfl⟩
  | some numbers =>
    have hlen : numbers.length = 5 := by
      rw [length_of_mapM hm]
      simp [octets]
    have hn : ofNumbers? numbers = none := by
      rw [ofNumbers?]
      simp [List.length_dropLast, hlen]
    simp only [hn]
    exact ⟨_, rfl⟩

theorem eq_dot_or_isDigit {a : Ipv4} {c : Char} (h : c ∈ a.textChars) :
    c = '.' ∨ c.isDigit = true := by
  refine (mem_intercalate h).imp_right fun inner => ?_
  obtain ⟨l, hl, hc⟩ := inner
  obtain ⟨n, -, rfl⟩ := List.mem_map.1 hl
  exact Decimal.isDigit_of_mem_chars hc

theorem mem_textChars {a : Ipv4} {c : Char} (h : c ∈ a.textChars) :
    (c.toNat < 0x80 ∧ c ≠ '%') ∧ c ≠ ':' ∧ c.toLower = c := by
  rcases eq_dot_or_isDigit h with rfl | hd
  · decide
  · have hu : Percent.isUnreserved c = true := by simp [Percent.isUnreserved, Char.isAlphanum, hd]
    exact forall_char_lt
      (p := fun c => c.isDigit = true → (c.toNat < 0x80 ∧ c ≠ '%') ∧ c ≠ ':' ∧ c.toLower = c)
      (by decide) (Percent.toNat_lt_of_isUnreserved hu) hd

theorem textChars_ne_nil (a : Ipv4) : a.textChars ≠ [] := by
  intro h
  have hs := splitOn_textChars a
  rw [h, List.splitOn_nil] at hs
  exact absurd (congrArg List.length hs) (by simp [octets])

theorem endsInNumber_textChars (a : Ipv4) : endsInNumber a.textChars = true := by
  have hdigits : (Decimal.chars (a.number % 256)).all Char.isDigit = true :=
    List.all_eq_true.2 fun _ hc => Decimal.isDigit_of_mem_chars hc
  rw [endsInNumber, parts_textChars]
  simp only [octets, List.map_cons, List.map_nil, List.getLast?_cons_cons, List.getLast?_singleton,
    hdigits]
  simp [Decimal.chars]

end Ipv4

namespace Ipv6

theorem mem_toDigits {n : Nat} {c : Char} (h : c ∈ Nat.toDigits 16 n) :
    ∃ d < 16, c = Nat.digitChar d := by
  induction n using Nat.strongRecOn with
  | _ n ih =>
    rw [Nat.toDigits_eq_if (by decide)] at h
    split at h
    · next hn => exact ⟨n, hn, List.mem_singleton.1 h⟩
    · rcases List.mem_append.1 h with h | h
      · exact ih (n / 16) (by omega) h
      · exact ⟨n % 16, Nat.mod_lt _ (by decide), List.mem_singleton.1 h⟩

theorem mem_joined {gs : List Nat} {c : Char} (h : c ∈ joined gs) :
    c = ':' ∨ ∃ d < 16, c = Nat.digitChar d := by
  refine (mem_intercalate h).imp_right fun inner => ?_
  obtain ⟨l, hl, hc⟩ := inner
  obtain ⟨n, -, rfl⟩ := List.mem_map.1 hl
  exact mem_toDigits hc

theorem eq_colon_or_digit {a : Ipv6} {c : Char} (h : c ∈ a.textChars) :
    c = ':' ∨ ∃ d < 16, c = Nat.digitChar d := by
  simp only [textChars] at h
  split at h
  · exact mem_joined h
  · rcases List.mem_append.1 h with h | h
    · exact mem_joined h
    · rcases List.mem_cons.1 h with rfl | h
      · exact Or.inl rfl
      · rcases List.mem_cons.1 h with rfl | h
        · exact Or.inl rfl
        · exact mem_joined h

theorem mem_textChars {a : Ipv6} {c : Char} (h : c ∈ a.textChars) : c.toNat < 0x80 ∧ c ≠ '%' := by
  rcases eq_colon_or_digit h with rfl | ⟨d, hd, rfl⟩
  · decide
  · have digits : ∀ d < 16, (Nat.digitChar d).toNat < 0x80 ∧ Nat.digitChar d ≠ '%' := by decide
    exact digits d hd

end Ipv6

namespace Percent

theorem decode_of_not_mem {b : Bytes} (h : 0x25 ∉ b) : decode b = b := by
  induction b with
  | nil => rfl
  | cons a r ih =>
    rw [List.mem_cons, not_or] at h
    rw [decode_of_ne (Ne.symm h.1), ih h.2]

theorem decode_encode_of_ascii {cs : List Char} (h : ∀ c ∈ cs, c.toNat < 0x80 ∧ c ≠ '%') :
    decode (Utf8.encode cs) = Utf8.encode cs := by
  refine decode_of_not_mem fun hm => ?_
  obtain ⟨c, hc, hb⟩ := List.mem_flatMap.1 hm
  obtain ⟨hlt, hne⟩ := h c hc
  rw [Utf8.encodeChar_of_ascii hlt, List.mem_singleton] at hb
  have hn : c.toNat = 0x25 := (Utf8.byte_eq (by omega)).1 hb.symm
  rw [← Char.ofNat_toNat c, hn] at hne
  exact hne (by decide)

end Percent

namespace Host

def IsRead : Host → Prop
  | .name n => n.toList ≠ [] ∧ Ipv4.endsInNumber n.toList = false ∧
      ∀ c ∈ n.toList, Domain.IsDomainChar c
  | .v4 _ => True
  | .v6 _ => True

theorem read_eq_ok {cs : List Char} {h : Host} (hb : bracketed? cs = none)
    (hr : read cs = .ok h) :
    ∃ name, Domain.read (Percent.decode (Utf8.encode cs)) = .ok name ∧ name ≠ [] ∧
      ((Ipv4.endsInNumber name = true ∧ ∃ a, Ipv4.read name = .ok a ∧ h = .v4 a) ∨
        (Ipv4.endsInNumber name = false ∧ h = .name (String.ofList name))) := by
  rw [read, hb] at hr
  cases hd : Domain.read (Percent.decode (Utf8.encode cs)) with
  | error e =>
    simp only [hd] at hr
    cases hr
  | ok name =>
    simp only [hd, bind, Except.bind] at hr
    split at hr
    · cases hr
    · next hne =>
      refine ⟨name, rfl, by simpa using hne, ?_⟩
      split at hr
      · next hend =>
        cases ha : Ipv4.read name with
        | error e =>
          rw [ha] at hr
          cases hr
        | ok a =>
          rw [ha] at hr
          cases hr
          exact Or.inl ⟨hend, a, rfl, rfl⟩
      · next hend =>
        cases hr
        exact Or.inr ⟨by simpa using hend, rfl⟩

theorem eq_v6_of_bracketed {cs : List Char} {h : Host} (hb : bracketed? cs = some (.ok h)) :
    ∃ a, h = .v6 a := by
  rw [bracketed?.eq_def] at hb
  split at hb
  · next r =>
    split at hb
    · cases ha : Ipv6.read r.dropLast with
      | error e =>
        rw [ha] at hb
        cases hb
      | ok a =>
        rw [ha] at hb
        cases hb
        exact ⟨a, rfl⟩
    · cases hb
  · cases hb

theorem isRead_of_read {cs : List Char} {h : Host} (hr : read cs = .ok h) : h.IsRead := by
  cases hb : bracketed? cs with
  | some x =>
    rw [read, hb] at hr
    have bracketed : bracketed? cs = some (.ok h) := hb.trans (congrArg some hr)
    obtain ⟨a, rfl⟩ := eq_v6_of_bracketed bracketed
    exact trivial
  | none =>
    obtain ⟨name, hd, hne, ⟨-, a, -, rfl⟩ | ⟨hend, rfl⟩⟩ := read_eq_ok hb hr
    · exact trivial
    · rw [IsRead, String.toList_ofList]
      exact ⟨hne, hend, Domain.isDomainChar_read hd⟩

/-- What a label may consist of: neither a point nor a capital. -/
def IsLabelChar (c : Char) : Prop :=
  Percent.isUnreserved c = true ∧ c ≠ '.' ∧ c.toLower = c

theorem IsLabelChar.ne {c d : Char} (h : IsLabelChar c) (hd : Percent.isUnreserved d = false) :
    c ≠ d := by
  rintro rfl
  rw [h.1] at hd
  cases hd

section
variable {label : List Char} (hne : label ≠ []) (hl : ∀ c ∈ label, IsLabelChar c)
include hl

theorem dot_not_mem_label : '.' ∉ label := fun h => (hl '.' h).2.1 rfl

theorem map_toLower_label (m : List Char) :
    (label ++ '.' :: m).map Char.toLower = label ++ '.' :: m.map Char.toLower := by
  have hlow : label.map Char.toLower = label :=
    (List.map_congr_left fun c hc => (hl c hc).2.2).trans (List.map_id _)
  rw [List.map_append, hlow]
  rfl

theorem forall_mem_label {m : List Char} (hm : ∀ x ∈ m, x.toNat < 0x80 ∧ x ≠ '%') :
    ∀ x ∈ label ++ '.' :: m, x.toNat < 0x80 ∧ x ≠ '%' := by
  intro x hx
  rcases List.mem_append.1 hx with hx | hx
  · exact ⟨Percent.toNat_lt_of_isUnreserved (hl x hx).1, (hl x hx).ne (by decide)⟩
  · rcases List.mem_cons.1 hx with rfl | hx
    · decide
    · exact hm x hx

include hne

theorem hostPart_label (m : List Char) :
    Url.hostPart (label ++ '.' :: m) = .ok (label ++ '.' :: m.takeWhile (· != ':')) := by
  have hcolon : ∀ x ∈ label, (x != ':') = true := fun x hx =>
    bne_iff_ne.2 ((hl x hx).ne (by decide))
  have htake : (label ++ '.' :: m).takeWhile (· != ':') =
      label ++ '.' :: m.takeWhile (· != ':') := by
    rw [List.takeWhile_append_of_pos hcolon]
    rfl
  obtain ⟨c, l, rfl⟩ := List.exists_cons_of_ne_nil hne
  have hc := hl c List.mem_cons_self
  have h₁ : c ≠ '[' := hc.ne (by decide)
  have h₂ : c ≠ ':' := hc.ne (by decide)
  rw [Url.hostPart, htake]
  simp [h₁, h₂]

theorem bracketed?_label (m : List Char) : bracketed? (label ++ '.' :: m) = none := by
  obtain ⟨c, l, rfl⟩ := List.exists_cons_of_ne_nil hne
  rw [bracketed?.eq_def]
  split
  · next heq =>
    exact absurd (List.cons.inj heq).1 ((hl c List.mem_cons_self).ne (by decide))
  · rfl

theorem read_label_of_ascii {m : List Char} (hm : ∀ x ∈ m, x.toNat < 0x80 ∧ x ≠ '%') {h : Host}
    (hr : read (label ++ '.' :: m) = .ok h) :
    (∀ x ∈ m.map Char.toLower, Domain.isForbidden x = false) ∧
      ((Ipv4.endsInNumber (label ++ '.' :: m.map Char.toLower) = true ∧
          ∃ a, Ipv4.read (label ++ '.' :: m.map Char.toLower) = .ok a) ∨
        Ipv4.endsInNumber (label ++ '.' :: m.map Char.toLower) = false ∧
          h = .name (String.ofList (label ++ '.' :: m.map Char.toLower))) := by
  have hall := forall_mem_label hl hm
  obtain ⟨name, hd, -, hcases⟩ := read_eq_ok (bracketed?_label hne hl m) hr
  rw [Percent.decode_encode_of_ascii hall] at hd
  obtain ⟨rfl, hf⟩ := Domain.read_of_ascii (fun x hx => (hall x hx).1) hd
  rw [map_toLower_label hl] at hf hcases
  refine ⟨fun x hx => hf x (by simp [hx]), hcases.imp_left ?_⟩
  rintro ⟨hend, a, ha, -⟩
  exact ⟨hend, a, ha⟩

end

theorem takeWhile_eq_self {m : List Char} (h : ':' ∉ m) : m.takeWhile (· != ':') = m :=
  List.takeWhile_eq_self_iff.2 fun _ hx => bne_iff_ne.2 fun heq => h (heq ▸ hx)

section
variable {label : List Char} (hne : label ≠ []) (hl : ∀ c ∈ label, IsLabelChar c)
include hne hl

theorem read_label_name {n : String} (hn : (name n).IsRead) {h : Host}
    (hread : read (label ++ '.' :: n.toList.takeWhile (· != ':')) = .ok h) :
    h = .name (String.ofList (label ++ '.' :: n.toList.map Char.toLower)) := by
  obtain ⟨hempty, hend, hchars⟩ := hn
  have hascii : ∀ x ∈ n.toList, x.toNat < 0x80 := fun x hx => (hchars x hx).1
  have hcolon : ':' ∉ n.toList := fun hm => absurd (hchars ':' hm).2 (by decide)
  have hpercent : '%' ∉ n.toList := fun hm => absurd (hchars '%' hm).2 (by decide)
  rw [takeWhile_eq_self hcolon] at hread
  obtain ⟨-, hcases⟩ := read_label_of_ascii hne hl
    (fun x hx => ⟨hascii x hx, fun heq => hpercent (heq ▸ hx)⟩) hread
  rw [Ipv4.endsInNumber_label (dot_not_mem_label hl) (by simpa using hempty),
    Ipv4.endsInNumber_toLower hascii, hend] at hcases
  rcases hcases with ⟨hcontra, -⟩ | ⟨-, hh⟩
  · cases hcontra
  · exact hh

/-- An address after a label has five parts. -/
theorem read_label_v4 (a : Ipv4) {h : Host} :
    read (label ++ '.' :: a.textChars.takeWhile (· != ':')) ≠ .ok h := by
  intro hread
  have hdot := dot_not_mem_label hl
  have hlow : a.textChars.map Char.toLower = a.textChars :=
    (List.map_congr_left fun x hx => (Ipv4.mem_textChars hx).2.2).trans (List.map_id _)
  have hcolon : ':' ∉ a.textChars := fun hm => (Ipv4.mem_textChars hm).2.1 rfl
  rw [takeWhile_eq_self hcolon] at hread
  obtain ⟨-, hcases⟩ := read_label_of_ascii hne hl (fun x hx => (Ipv4.mem_textChars hx).1) hread
  rw [hlow, Ipv4.endsInNumber_label hdot (Ipv4.textChars_ne_nil a),
    Ipv4.endsInNumber_textChars] at hcases
  rcases hcases with ⟨-, b, hb⟩ | ⟨hcontra, -⟩
  · obtain ⟨e, he⟩ := Ipv4.read_label hdot a
    rw [he] at hb
    cases hb
  · cases hcontra

/-- The bracket of an address stands in no domain. -/
theorem read_label_v6 (a : Ipv6) {h : Host} :
    read (label ++ '.' :: ('[' :: a.textChars ++ [']']).takeWhile (· != ':')) ≠ .ok h := by
  intro hread
  have hchars : ∀ x ∈ ('[' :: a.textChars ++ [']']).takeWhile (· != ':'),
      x.toNat < 0x80 ∧ x ≠ '%' := by
    intro x hx
    rcases List.mem_append.1 ((List.takeWhile_sublist _).subset hx) with hx | hx
    · rcases List.mem_cons.1 hx with rfl | hx
      · decide
      · exact Ipv6.mem_textChars hx
    · rw [List.mem_singleton.1 hx]
      decide
  obtain ⟨hf, -⟩ := read_label_of_ascii hne hl hchars hread
  exact absurd (hf '[' List.mem_cons_self) (by decide)

theorem read_label {h h' : Host} (hr : h.IsRead) {cs : List Char}
    (hcs : Url.hostPart (label ++ '.' :: h.textChars) = .ok cs) (hread : read cs = .ok h') :
    ∃ n, h = .name n ∧
      h' = .name (String.ofList (label ++ '.' :: n.toList.map Char.toLower)) := by
  rw [hostPart_label hne hl] at hcs
  cases hcs
  cases h with
  | name n => exact ⟨n, rfl, read_label_name hne hl hr hread⟩
  | v4 a => exact absurd hread (read_label_v4 hne hl a)
  | v6 a => exact absurd hread (read_label_v6 hne hl a)

end

end Host

end ObjectStorage
