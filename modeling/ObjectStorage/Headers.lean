import ObjectStorage.Error
import ObjectStorage.Text.Utf8

/-!
# Headers

Names in lower case with their values, in the order in which the names came first. No name comes
twice, each has a value, and names and values may be sent. The view is `getAll`: `getAll_put`
and `getAll_erase` say what the operations do to it.
-/
namespace ObjectStorage

namespace Headers

def isNameChar (c : Char) : Bool := c.isAlphanum || "!#$%&'*+-.^_`|~".toList.contains c

def longestName : Nat := 65535

def isName (name : String) : Bool :=
  !name.isEmpty && name.length ≤ longestName && name.toList.all isNameChar

def isValueByte (b : UInt8) : Bool := (b ≥ 0x20 && b != 0x7F) || b == 0x09

def isValue (value : Bytes) : Bool := value.all isValueByte

def lower (name : String) : String := String.ofList (name.toList.map Char.toLower)

/-- A name in lower case with its values, of which there is at least one. -/
def isEntry (e : String × List Bytes) : Bool :=
  isName e.1 && lower e.1 == e.1 && !e.2.isEmpty && e.2.all isValue

theorem toNat_lt_of_isNameChar {c : Char} (h : isNameChar c = true) : c.toNat < 128 := by
  have marks : "!#$%&'*+-.^_`|~".toList.all (fun d => decide (d.toNat < 128)) = true := by decide
  rw [isNameChar, Bool.or_eq_true, List.contains_iff_mem] at h
  rcases h with h | h
  · exact toNat_lt_of_isAlphanum h
  · exact of_decide_eq_true (List.all_eq_true.1 marks c h)

theorem forall_isNameChar {p : Char → Prop}
    (h : ∀ n < 128, isNameChar (Char.ofNat n) = true → p (Char.ofNat n)) {c : Char}
    (hc : isNameChar c = true) : p c :=
  forall_char_lt (p := fun c => isNameChar c = true → p c) h (toNat_lt_of_isNameChar hc) hc

theorem isNameChar_toLower {c : Char} (h : isNameChar c = true) :
    isNameChar c.toLower = true ∧ c.toLower.toLower = c.toLower :=
  forall_isNameChar (p := fun c => isNameChar c.toLower = true ∧ c.toLower.toLower = c.toLower)
    (by decide) h

theorem isName_lower {name : String} (h : isName name = true) : isName (lower name) = true := by
  simp only [isName, lower, ← String.length_toList, String.toList_ofList, List.length_map,
    Bool.and_eq_true, decide_eq_true_eq, List.all_map, List.all_eq_true, Function.comp_apply] at h ⊢
  obtain ⟨⟨hne, hlen⟩, hall⟩ := h
  refine ⟨⟨?_, hlen⟩, fun c hc => (isNameChar_toLower (hall c hc)).1⟩
  simpa [← String.toList_eq_nil_iff] using hne

theorem lower_lower {name : String} (h : isName name = true) :
    lower (lower name) = lower name := by
  simp only [isName, Bool.and_eq_true, List.all_eq_true] at h
  rw [lower, lower, String.toList_ofList, List.map_map]
  congr 1
  exact List.map_congr_left fun c hc => (isNameChar_toLower (h.2 c hc)).2

end Headers

structure Headers where
  entries : List (String × List Bytes)
  distinct : (entries.map (·.1)).Nodup
  sendable : ∀ e ∈ entries, Headers.isEntry e = true
deriving DecidableEq

namespace Headers

def empty : Headers := ⟨[], .nil, by simp⟩

instance : Inhabited Headers := ⟨empty⟩

def names (h : Headers) : List String := h.entries.map (·.1)

def getAll (h : Headers) (name : String) : List Bytes :=
  match h.entries.find? (·.1 == name) with
  | some e => e.2
  | none => []

def get? (h : Headers) (name : String) : Option Bytes := (h.getAll name).head?

def contains (h : Headers) (name : String) : Bool := h.entries.any (·.1 == name)

def toList (h : Headers) : List (String × Bytes) :=
  h.entries.flatMap fun e => e.2.map (e.1, ·)

def insertEntries (name : String) (values : List Bytes) :
    List (String × List Bytes) → List (String × List Bytes)
  | [] => [(name, values)]
  | e :: r => if e.1 = name then (name, values) :: r else e :: insertEntries name values r

theorem mem_insertEntries {name : String} {values : List Bytes} {e : String × List Bytes} :
    ∀ {es : List (String × List Bytes)}, e ∈ insertEntries name values es →
      e = (name, values) ∨ e ∈ es
  | [], h => .inl (List.mem_singleton.1 h)
  | f :: r, h => by
    rw [insertEntries] at h
    split at h
    · rcases List.mem_cons.1 h with rfl | h
      · exact .inl rfl
      · exact .inr (List.mem_cons_of_mem _ h)
    · rcases List.mem_cons.1 h with rfl | h
      · exact .inr List.mem_cons_self
      · exact (mem_insertEntries h).imp_right (List.mem_cons_of_mem _)

theorem distinct_insertEntries (name : String) (values : List Bytes)
    {es : List (String × List Bytes)} (h : (es.map (·.1)).Nodup) :
    ((insertEntries name values es).map (·.1)).Nodup := by
  induction es with
  | nil => simp [insertEntries]
  | cons e r ih =>
    rw [List.map_cons, List.nodup_cons] at h
    rw [insertEntries]
    split
    · next he =>
      rw [List.map_cons, List.nodup_cons]
      exact ⟨he ▸ h.1, h.2⟩
    · next he =>
      rw [List.map_cons, List.nodup_cons]
      refine ⟨fun hm => ?_, ih h.2⟩
      obtain ⟨f, hf, hfe⟩ := List.mem_map.1 hm
      rcases mem_insertEntries hf with rfl | hf
      · exact he hfe.symm
      · exact h.1 (List.mem_map.2 ⟨f, hf, hfe⟩)

def put (h : Headers) (name : String) (values : List Bytes)
    (hv : isEntry (name, values) = true) : Headers :=
  ⟨insertEntries name values h.entries, distinct_insertEntries name values h.distinct,
    fun e he => (mem_insertEntries he).elim (fun heq => heq ▸ hv) (h.sendable e)⟩

def erase (h : Headers) (name : String) : Headers :=
  ⟨h.entries.filter (·.1 != name), h.distinct.sublist (List.filter_sublist.map _),
    fun e he => h.sendable e (List.mem_filter.1 he).1⟩

theorem isEntry_lower {name : String} {value : Bytes} (hn : isName name = true)
    (hv : isValue value = true) : isEntry (lower name, [value]) = true := by
  simp [isEntry, isName_lower hn, lower_lower hn, hv]

def set (h : Headers) (name value : String) : Except Error Headers :=
  if hn : isName name = true then
    if hv : isValue (Utf8.ofString value) = true then
      .ok (h.put (lower name) [Utf8.ofString value] (isEntry_lower hn hv))
    else .error (.argument (.headerValue (lower name)))
  else .error (.argument (.headerName name))

/-- Whether a header can be set does not depend on the others. -/
theorem set_cases (name value : String) :
    (∃ hv : isEntry (lower name, [Utf8.ofString value]) = true,
        ∀ h : Headers, h.set name value = .ok (h.put (lower name) [Utf8.ofString value] hv)) ∨
      ∃ e, ∀ h : Headers, h.set name value = .error e := by
  by_cases hn : isName name = true
  · by_cases hv : isValue (Utf8.ofString value) = true
    · exact Or.inl ⟨isEntry_lower hn hv, fun h => by rw [set, dif_pos hn, dif_pos hv]⟩
    · exact Or.inr ⟨_, fun h => by rw [set, dif_pos hn, dif_neg hv]⟩
  · exact Or.inr ⟨_, fun h => by rw [set, dif_neg hn]⟩

theorem isEntry_getAll_append (h : Headers) {name : String} {value : Bytes}
    (hv : isEntry (name, [value]) = true) : isEntry (name, h.getAll name ++ [value]) = true := by
  have hs : (h.getAll name).all isValue = true := by
    rw [getAll]
    split
    · next e he =>
      have hm := h.sendable e (List.mem_of_find?_eq_some he)
      simp only [isEntry, Bool.and_eq_true] at hm
      exact hm.2
    · rfl
  simp only [isEntry, Bool.and_eq_true, List.all_cons] at hv
  simp [isEntry, hv, hs]

/-- Adds a value to those of a name. What may not be sent is left out. -/
def append (h : Headers) (name : String) (value : Bytes) : Headers :=
  if hv : isEntry (name, [value]) = true then
    h.put name (h.getAll name ++ [value]) (h.isEntry_getAll_append hv)
  else h

def isVisible (b : UInt8) : Bool := (b ≥ 0x20 && b < 0x7F) || b == 0x09

/-- The text of a value that has visible characters only. -/
def textOf? (value : Bytes) : Option String :=
  if value.all isVisible then Utf8.toString? value else none

def IsShown (c : Char) : Prop := c = '\t' ∨ 0x20 ≤ c.toNat ∧ c.toNat < 0x7F

theorem isShown_of_isVisible {b : UInt8} (h : isVisible b = true) :
    b < 0x80 ∧ IsShown (Char.ofNat b.toNat) := by
  simp only [isVisible, Bool.or_eq_true, Bool.and_eq_true, decide_eq_true_eq, beq_iff_eq,
    ge_iff_le, UInt8.le_iff_toNat_le, UInt8.lt_iff_toNat_lt] at h
  rcases h with ⟨low, high⟩ | rfl
  · have small : b.toNat < 0x80 := Nat.lt_of_lt_of_le high (by decide)
    refine ⟨UInt8.lt_iff_toNat_lt.2 small, Or.inr ?_⟩
    rw [Utf8.toNat_ofNat_of_ascii small]
    exact ⟨low, high⟩
  · exact ⟨by decide, Or.inl rfl⟩

theorem ofString_of_textOf? {value : Bytes} {t : String} (h : textOf? value = some t) :
    Utf8.ofString t = value := by
  rw [textOf?] at h
  split at h
  · next visible =>
    rw [List.all_eq_true] at visible
    exact Utf8.ofString_of_ascii (fun b hb => (isShown_of_isVisible (visible b hb)).1) h
  · cases h

theorem textOf?_ofString {value : Bytes} {t : String} (h : textOf? value = some t) :
    textOf? (Utf8.ofString t) = some t := by
  rw [ofString_of_textOf? h, h]

theorem isVisible_of_isShown {c : Char} (h : IsShown c) :
    c.toNat < 0x80 ∧ isVisible (UInt8.ofNat c.toNat) = true := by
  rcases h with rfl | ⟨low, high⟩
  · decide
  · refine ⟨by omega, ?_⟩
    simp only [isVisible, ge_iff_le, Bool.or_eq_true, Bool.and_eq_true, decide_eq_true_eq,
      Utf8.le_byte (show c.toNat < 256 by omega), Utf8.byte_lt (show c.toNat < 256 by omega)]
    exact Or.inl ⟨low, high⟩

theorem textOf?_of_shown {t : String} (h : ∀ c ∈ t.toList, IsShown c) :
    textOf? (Utf8.ofString t) = some t := by
  have visible : (Utf8.ofString t).all isVisible = true := by
    rw [List.all_eq_true]
    intro b hb
    obtain ⟨c, hc, hbc⟩ := List.mem_flatMap.1 hb
    obtain ⟨small, visible⟩ := isVisible_of_isShown (h c hc)
    rw [Utf8.encodeChar_of_ascii small, List.mem_singleton] at hbc
    exact hbc ▸ visible
  rw [textOf?, if_pos visible, Utf8.toString?_ofString]

theorem shown_of_textOf? {value : Bytes} {t : String} (h : textOf? value = some t) :
    ∀ c ∈ t.toList, IsShown c := by
  have written := ofString_of_textOf? h
  rw [textOf?] at h
  split at h
  · next visible =>
    rw [List.all_eq_true] at visible
    have small : ∀ b ∈ value, b < 0x80 := fun b hb => (isShown_of_isVisible (visible b hb)).1
    have chars : t.toList = value.map fun b => Char.ofNat b.toNat := by
      refine Option.some.inj ?_
      rw [← Utf8.decode?_encode, ← Utf8.decode?_encode, Utf8.encode_of_ascii small]
      exact congrArg Utf8.decode? written
    intro c hc
    rw [chars] at hc
    obtain ⟨b, hb, rfl⟩ := List.mem_map.1 hc
    exact (isShown_of_isVisible (visible b hb)).2
  · cases h

theorem textOf?_eq_some_iff {value : Bytes} {t : String} :
    textOf? value = some t ↔ value = Utf8.ofString t ∧ ∀ c ∈ t.toList, IsShown c := by
  constructor
  · exact fun h => ⟨(ofString_of_textOf? h).symm, shown_of_textOf? h⟩
  · rintro ⟨rfl, shown⟩
    exact textOf?_of_shown shown

theorem textOf?_of_visible {t : String} (h : ∀ c ∈ t.toList, 0x20 ≤ c.toNat ∧ c.toNat < 0x7F) :
    textOf? (Utf8.ofString t) = some t :=
  textOf?_of_shown fun c hc => Or.inr (h c hc)

theorem isValue_of_textOf? {value : Bytes} {t : String} (h : textOf? value = some t) :
    isValue value = true := by
  rw [textOf?] at h
  split at h
  · next hv =>
    rw [isValue, List.all_eq_true]
    intro b hb
    have hb := List.all_eq_true.1 hv b hb
    simp only [isVisible, isValueByte, Bool.or_eq_true, Bool.and_eq_true, decide_eq_true_eq,
      bne_iff_ne, ne_eq] at hb ⊢
    rcases hb with hb | hb
    · refine Or.inl ⟨hb.1, fun heq => ?_⟩
      rw [heq] at hb
      exact absurd hb.2 (by decide)
    · exact Or.inr hb
  · cases h

def text? (h : Headers) (name : String) : Option String := (h.get? name).bind textOf?

def inspectByte (b : UInt8) : List Char :=
  if b = 0x22 then ['\\', '"']
  else if isVisible b then [Char.ofNat b.toNat]
  else '\\' :: 'x' :: Nat.toDigits 16 b.toNat

def inspectValue (value : Bytes) : String :=
  String.ofList ('"' :: value.flatMap inspectByte ++ ['"'])

def details (h : Headers) : String :=
  "\x7b" ++ ", ".intercalate
    (h.toList.map fun e => "\"" ++ e.1 ++ "\": " ++ inspectValue e.2) ++ "\x7d"

theorem find?_insertEntries (name other : String) (values : List Bytes)
    (es : List (String × List Bytes)) :
    (insertEntries name values es).find? (·.1 == other) =
      if name = other then some (name, values) else es.find? (·.1 == other) := by
  induction es with
  | nil => by_cases h : name = other <;> simp [insertEntries, h]
  | cons e r ih =>
    rw [insertEntries]
    split
    · next he =>
      by_cases h : name = other <;> simp [he, h]
    · next he =>
      rw [List.find?_cons, ih, List.find?_cons]
      by_cases h : e.1 = other
      · have hn : name ≠ other := fun hn => he (h.trans hn.symm)
        simp [h, hn]
      · have hb : (e.1 == other) = false := by simpa using h
        simp only [hb]

theorem getAll_put (h : Headers) (name other : String) (values : List Bytes)
    (hv : isEntry (name, values) = true) :
    (h.put name values hv).getAll other = if name = other then values else h.getAll other := by
  simp only [getAll, put, find?_insertEntries]
  by_cases hn : name = other <;> simp [hn]

theorem find?_erase (name other : String) (es : List (String × List Bytes)) :
    (es.filter (·.1 != name)).find? (·.1 == other) =
      if name = other then none else es.find? (·.1 == other) := by
  induction es with
  | nil => simp
  | cons e r ih =>
    by_cases he : e.1 = name
    · rw [List.filter_cons_of_neg (by simp [he]), ih]
      by_cases h : name = other
      · simp [h]
      · have hx : e.1 ≠ other := by rw [he]; exact h
        simp [h, hx]
    · rw [List.filter_cons_of_pos (by simp [he]), List.find?_cons, ih, List.find?_cons]
      by_cases h : e.1 = other
      · have hn : name ≠ other := fun hn => he (h.trans hn.symm)
        simp [h, hn]
      · have hb : (e.1 == other) = false := by simpa using h
        simp only [hb]

theorem getAll_erase (h : Headers) (name other : String) :
    (h.erase name).getAll other = if name = other then [] else h.getAll other := by
  simp only [getAll, erase, find?_erase]
  by_cases hn : name = other <;> simp [hn]

theorem eq_of_name_eq {es : List (String × List Bytes)} (h : (es.map (·.1)).Nodup)
    {e f : String × List Bytes} (he : e ∈ es) (hf : f ∈ es) (hn : e.1 = f.1) : e = f := by
  induction es with
  | nil => cases he
  | cons g r ih =>
    rw [List.map_cons, List.nodup_cons] at h
    rcases List.mem_cons.1 he with rfl | her
    · rcases List.mem_cons.1 hf with rfl | hfr
      · rfl
      · exact absurd (List.mem_map.2 ⟨f, hfr, hn.symm⟩) h.1
    · rcases List.mem_cons.1 hf with rfl | hfr
      · exact absurd (List.mem_map.2 ⟨e, her, hn⟩) h.1
      · exact ih h.2 her hfr

theorem getAll_of_mem {h : Headers} {e : String × List Bytes} (he : e ∈ h.entries) :
    h.getAll e.1 = e.2 := by
  rw [getAll]
  split
  · next f hf =>
    have hn : f.1 = e.1 := by simpa using List.find?_some hf
    rw [eq_of_name_eq h.distinct (List.mem_of_find?_eq_some hf) he hn]
  · next hf =>
    exact absurd (List.find?_eq_none.1 hf e he) (by simp)

theorem mem_names_iff (h : Headers) (name : String) : name ∈ h.names ↔ h.getAll name ≠ [] := by
  constructor
  · intro hm
    obtain ⟨e, he, rfl⟩ := List.mem_map.1 hm
    have hs := h.sendable e he
    rw [getAll_of_mem he]
    simp only [isEntry, Bool.and_eq_true, Bool.not_eq_true', List.isEmpty_eq_false_iff] at hs
    exact hs.1.2
  · intro hne
    rw [getAll] at hne
    split at hne
    · next e he =>
      have hn : e.1 = name := by simpa using List.find?_some he
      exact List.mem_map.2 ⟨e, List.mem_of_find?_eq_some he, hn⟩
    · exact absurd rfl hne

theorem isName_of_mem_names {h : Headers} {name : String} (hm : name ∈ h.names) :
    isName name = true := by
  obtain ⟨e, he, rfl⟩ := List.mem_map.1 hm
  have hs := h.sendable e he
  simp only [isEntry, Bool.and_eq_true] at hs
  exact hs.1.1.1

end Headers

end ObjectStorage
