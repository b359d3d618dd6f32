import ObjectStorage.Signature.V4

/-!
# Signers

A signer makes a request known to the service: it gets the credentials, the region and the time,
and either gives the request to be sent or says why it cannot.
-/
namespace ObjectStorage

structure Signer where
  name : String
  requiresRegion : Bool
  sign : Request → Credentials → String → Instant → Except Error Request

namespace Signer

def signV4 (r : Request) (c : Credentials) (region : String) (now : Instant) :
    Except Error Request :=
  match V4.sign r c region now with
  | (signed, .ok _) => .ok signed
  | (_, .error e) => .error e

def v4 : Signer := ⟨"V4Signer", true, signV4⟩

theorem signV4_eq_ok {r signed : Request} {c : Credentials} {region : String} {now : Instant} :
    signV4 r c region now = .ok signed ↔ V4.sign r c region now = (signed, .ok ()) := by
  rw [signV4]
  rcases V4.sign r c region now with ⟨r', _ | u⟩
  · simp
  · simp

end Signer

end ObjectStorage
