import ObjectStorage.Proofs.Client.Transfer
import ObjectStorage.Proofs.Digest.Burst

/-!
# Corrupted downloads

A checksum that is written as a decimal number is read back as that number. A content that was
changed within eight consecutive bytes has another checksum than the one it is sent with, so a
client that checks does not take it: `corruption_detected`.
-/
namespace ObjectStorage

namespace Decimal

theorem ofChars_chars (n : Nat) : ofChars (chars n) = n := by
  have read := Nat.ofDigitChars_ten_toDigits (n := n)
  rw [Nat.ofDigitChars_eq_foldl] at read
  rw [ofChars, chars]
  refine Eq.trans (congrArg (fun f => (Nat.toDigits 10 n).foldl f 0) ?_) read
  funext m d
  rw [Nat.mul_comm]
  rfl

theorem plus_not_mem_chars (n : Nat) : '+' ∉ chars n := fun h =>
  absurd (isDigit_of_mem_chars h) (by decide)

theorem word?_chars {n : Nat} (h : n < 0x10000000000000000) : word? (chars n) = some n := by
  have unsigned : ∀ r, chars n = '+' :: r → False := fun r hr =>
    plus_not_mem_chars n (hr ▸ List.mem_cons_self)
  have digits : (chars n).all Char.isDigit = true :=
    List.all_eq_true.2 fun d hd => isDigit_of_mem_chars hd
  have nonempty : (chars n).isEmpty = false :=
    List.isEmpty_eq_false_iff.2 Nat.toDigits_ne_nil
  rw [word?]
  · simp only [nonempty, digits, ofChars_chars, h, Bool.not_true, Bool.or_false, Bool.false_eq_true,
      if_false, if_true]
  · exact unsigned

end Decimal

namespace Checksum

theorem word?_toString {n : Nat} (h : n < 0x10000000000000000) :
    Decimal.word? (Blank.trimChars (toString n).toList) = some n := by
  have text : (toString n).toList = Decimal.chars n := by
    rw [Nat.toString_eq_ofList_toDigits, String.toList_ofList, Decimal.chars]
  have dark : ∀ d ∈ Decimal.chars n, Blank.isBlank d = false := by
    intro d hd
    have digit := Decimal.isDigit_of_mem_chars hd
    have small : d.toNat < 128 := Nat.lt_trans (V4.visible_of_isDigit digit).2 (by decide)
    exact forall_char_lt (p := fun d => d.isDigit = true → Blank.isBlank d = false) (by decide)
      small digit
  rw [text, Blank.trimChars, Blank.trimBy_of_ends, Decimal.word?_chars h]
  · exact fun d hd => dark d (List.mem_of_head? hd)
  · exact fun d hd => dark d (List.mem_of_getLast? hd)

theorem textOf?_toString (n : Nat) :
    Headers.textOf? (Utf8.ofString (toString n)) = some (toString n) :=
  Headers.textOf?_of_visible (V4.plain_toString n)

end Checksum

namespace Client

variable {c : Client} {original received : Bytes} {response : Response}

theorem disputes_of_burst (same : original.length = received.length) (differ : original ≠ received)
    {i : Nat} (near : ∀ j, original[j]? ≠ received[j]? → i ≤ j ∧ j < i + 8)
    (accepted : response.status < 400)
    (told : (response.headers.getAll "x-tos-hash-crc64ecma").head? =
      some (Utf8.ofString (toString (Crc64.checksum original).toNat))) :
    response.Disputes received (toString (Crc64.checksum original).toNat) := by
  refine ⟨accepted, ⟨told, Headers.shown_of_textOf? (Checksum.textOf?_toString _)⟩, ?_⟩
  rw [Checksum.word?_toString (Crc64.checksum original).toNat_lt]
  intro equal
  have equal : Crc64.checksum original = Crc64.checksum received :=
    UInt64.toNat_inj.1 (Option.some.inj equal)
  exact differ (Crc64.eq_of_checksum_eq same near equal)

theorem fault_of_told (operation : String) (original : Bytes) (ours : Nat) :
    Checksum.fault operation (toString (Crc64.checksum original).toNat) ours =
      .checksumMismatch operation ours (Crc64.checksum original).toNat := by
  rw [Checksum.fault, Checksum.word?_toString (Crc64.checksum original).toNat_lt]

/-- Corruption within eight consecutive bytes is an error, and no run takes it for the content. -/
theorem corruption_detected (on : c.config.checksums = true) (ctx : Context)
    (bucket key : String) (s s' : Surroundings)
    (same : original.length = received.length) (differ : original ≠ received) {i : Nat}
    (near : ∀ j, original[j]? ≠ received[j]? → i ≤ j ∧ j < i + 8)
    (accepted : response.status < 400)
    (told : (response.headers.getAll "x-tos-hash-crc64ecma").head? =
      some (Utf8.ofString (toString (Crc64.checksum original).toNat)))
    (arrives : response.body.Arrives) (body : (Body.chunks response.body).flatten = received) :
    (∀ ms result, c.getObject ctx ms bucket key s = (some result, s') → s.Answered s' response →
      result = .error .canceled ∨ result = .error .deadlineExceeded ∨
        result = .error (.document (.checksumMismatch "GetObject" (Crc64.checksum received).toNat
          (Crc64.checksum original).toNat))) ∧
    ∀ ms ms', c.execute ctx ms (objectOperation "GET" bucket key) s = (some (.ok response), s') →
      c.Calm ctx (ms ++ ms') s' → response.body.pauses ≤ ms'.length →
      c.getObject ctx (ms ++ ms') bucket key s =
        (some (.error (.document (.checksumMismatch "GetObject" (Crc64.checksum received).toNat
          (Crc64.checksum original).toNat))), s') := by
  have disputes := disputes_of_burst same differ near accepted told
  subst body
  rw [← fault_of_told]
  refine ⟨fun ms result hrun answered => getObject_disputed on arrives disputes hrun answered,
    fun ms ms' executed calm enough => ?_⟩
  have whole := Body.whole_eq_ok_iff.2 ⟨arrives, rfl⟩
  rw [getObject_of_execute executed calm whole enough, judged_eq_fault on disputes]

def corrupted : Response :=
  ⟨200, Headers.empty.append Checksum.header
      (Utf8.ofString (toString (Crc64.checksum (Utf8.ofString "hello")).toNat)),
    [.chunk (Utf8.ofString "ha"), .pause, .chunk (Utf8.ofString "llo")]⟩

theorem corruption_detected_of_letter : ∃ c s',
    (ClientBuilder.new "http://localhost:9000").build = .ok c ∧ c.config.checksums = true ∧
      c.getObject ⟨none, 0⟩ [⟨.ofSeconds 0, false⟩, ⟨.ofSeconds 1, false⟩] "bkt-one" "a.txt"
        (answering corrupted) = (some (.error (.document (.checksumMismatch "GetObject"
          (Crc64.checksum (Utf8.ofString "hallo")).toNat
          (Crc64.checksum (Utf8.ofString "hello")).toNat))), s') := by
  obtain ⟨c, s', hb, on, executed, calm⟩ := exists_download corrupted (by decide)
  have whole : Body.whole corrupted.body = some (.ok (Utf8.ofString "hallo")) := by decide
  obtain ⟨arrives, body⟩ := Body.whole_eq_ok_iff.1 whole
  have near : ∀ j, (Utf8.ofString "hello")[j]? ≠ (Utf8.ofString "hallo")[j]? →
      0 ≤ j ∧ j < 0 + 8 := by
    intro j differ
    refine ⟨Nat.zero_le j, Nat.lt_of_not_le fun large => differ ?_⟩
    rw [List.getElem?_eq_none (Nat.le_trans (by decide) large),
      List.getElem?_eq_none (Nat.le_trans (by decide) large)]
  have told : (corrupted.headers.getAll "x-tos-hash-crc64ecma").head? =
      some (Utf8.ofString (toString (Crc64.checksum (Utf8.ofString "hello")).toNat)) := by
    decide +kernel
  have detected := corruption_detected on ⟨none, 0⟩ "bkt-one" "a.txt" (answering corrupted) s'
    (by decide) (by decide) near (by decide) told arrives body.symm
  exact ⟨c, s', hb, on, detected.2 _ _ executed calm (by decide)⟩

end Client

end ObjectStorage
