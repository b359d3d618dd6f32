import ObjectStorage.Endpoint
import ObjectStorage.Proofs.Outcome

/-!
# The hosts of endpoints

An endpoint is a URL of one of the two schemes of the services, and its host is one that the reader
of domains and addresses has made.
-/
namespace ObjectStorage

namespace Url

theorem isSpecial_of_service {scheme : String} (h : scheme = "http" ∨ scheme = "https") :
    isSpecial scheme = true := by
  rcases h with rfl | rfl
  · decide
  · decide

theorem readAuthority_eq_ok {scheme : String} {cs : List Char} {u : Url}
    (h : readAuthority scheme cs = .ok u) :
    u.scheme = scheme ∧ (∃ rest, u.place = .path (pathOf (isSpecial scheme) rest)) ∧
      (isSpecial scheme = true →
        ∃ host written, u.host = some host ∧ Host.read written = .ok host) := by
  unfold readAuthority at h
  simp only [bind, Except.bind, pure, Except.pure, throw, throwThe, MonadExceptOf.throw] at h
  -- every check either fails or goes on, so what is left is the URL completed at the end
  repeat' split at h
  all_goals first
    | cases h; done
    | (cases h; exact ⟨rfl, ⟨_, rfl⟩, fun _ => ⟨_, _, rfl, by assumption⟩⟩)
    | (cases h; exact ⟨rfl, ⟨_, rfl⟩, fun hs => absurd hs (by assumption)⟩)

theorem readFile_scheme {cs : List Char} {u : Url} (h : readFile cs = .ok u) :
    u.scheme = "file" := by
  unfold readFile at h
  simp only [bind, Except.bind, pure, Except.pure] at h
  repeat' split at h
  all_goals first
    | cases h; done
    | (cases h; rfl)

theorem readPlain_scheme (scheme : String) (cs : List Char) :
    (readPlain scheme cs).scheme = scheme := by
  rw [readPlain.eq_def]
  split <;> rfl

theorem readAuthority_of_read {s : String} {u : Url} (h : read s = .ok u)
    (hs : u.scheme = "http" ∨ u.scheme = "https") :
    ∃ cs, readAuthority u.scheme cs = .ok u := by
  rw [read] at h
  split at h
  · cases h
  · have hf := readFile_scheme h
    rw [hf] at hs
    exact absurd hs (by decide)
  · next scheme cs _ _ =>
    split at h
    · exact ⟨_, by rwa [(readAuthority_eq_ok h).1]⟩
    · next hspecial =>
      have hscheme : u.scheme = scheme := by
        split at h
        · exact (readAuthority_eq_ok h).1
        · cases h
          exact readPlain_scheme scheme cs
      rw [hscheme] at hs
      exact absurd (isSpecial_of_service hs) hspecial

theorem host_of_read {s : String} {u : Url} (h : read s = .ok u)
    (hs : u.scheme = "http" ∨ u.scheme = "https") :
    ∃ host written, u.host = some host ∧ Host.read written = .ok host := by
  obtain ⟨cs, ha⟩ := readAuthority_of_read h hs
  exact (readAuthority_eq_ok ha).2.2 (isSpecial_of_service hs)

theorem withHost_eq_ok {u v : Url} (hs : isSpecial u.scheme = true) {text : String}
    (h : u.withHost text = .ok v) :
    ∃ cs host, hostPart text.toList = .ok cs ∧ Host.read cs = .ok host ∧
      v = { u with host := some host } := by
  obtain ⟨cs, hcs, h⟩ := bind_eq_ok h
  simp only [hs, if_true] at h
  obtain ⟨host, hr, h⟩ := bind_eq_ok h
  cases h
  exact ⟨cs, host, hcs, hr, rfl⟩

theorem port_of_readPort {scheme : String} {cs : List Char} {read : Option Nat × List Char}
    (h : readPort scheme cs = .ok read) : ∀ n, read.1 = some n → defaultPort scheme ≠ some n := by
  simp only [readPort] at h
  split at h
  · cases h
  · split at h
    · cases h
    · cases h
      intro n hn
      split at hn
      · cases hn
      · next usual =>
        cases hn
        rw [Bool.or_eq_true, not_or] at usual
        simpa using usual.2

theorem port_of_readAuthority {scheme : String} {cs : List Char} {u : Url}
    (h : readAuthority scheme cs = .ok u) : ∀ n, u.port = some n → defaultPort scheme ≠ some n := by
  unfold readAuthority at h
  simp only [bind, Except.bind, pure, Except.pure, throw, throwThe, MonadExceptOf.throw] at h
  -- as above, and a port that is there has been read
  repeat' split at h
  all_goals first
    | cases h; done
    | (cases h; exact fun n hn => absurd hn (Option.some_ne_none n).symm)
    | (cases h; exact port_of_readPort (by assumption))

theorem port_of_read {s : String} {u : Url} (h : read s = .ok u)
    (hs : u.scheme = "http" ∨ u.scheme = "https") :
    ∀ n, u.port = some n → defaultPort u.scheme ≠ some n := by
  obtain ⟨cs, ha⟩ := readAuthority_of_read h hs
  exact port_of_readAuthority ha

end Url

end ObjectStorage
