import ClusterLaunch.Proofs.Fallible
import ClusterLaunch.Url.Authority

/-!
What an authority is, whatever address it is read from: its host is never empty.
-/

namespace ClusterLaunch

namespace Url

theorem Host.write_ne_nil_of_ofWeb {text : List Char} {host : Host}
    (h : Host.ofWeb text = .ok host) :
    host.write ≠ [] := by
  unfold Host.ofWeb at h
  split at h
  · unfold Host.bracketed at h
    split at h
    · cases h
      simp [Host.write]
    · cases h
  · split at h
    · cases h
    · next name _ =>
      split at h
      · cases h
      · next hname =>
        split at h
        · split at h
          · cases h
            simp [Host.write, Ipv4.write]
          · cases h
        · cases h
          simpa [Host.write] using hname

theorem write_ne_nil_of_authority? {scheme : Scheme} {text : List Char} {a : Authority}
    (h : authority? scheme text = .ok (some a)) : a.host.write ≠ [] := by
  unfold authority? at h
  obtain ⟨-, h⟩ := unless_eq_ok_iff.mp h
  split at h
  · obtain ⟨-, h⟩ := unless_eq_ok_iff.mp h
    obtain ⟨host, hhost, h⟩ := bind_eq_ok_iff.mp h
    obtain ⟨port, -, h⟩ := bind_eq_ok_iff.mp h
    cases h
    exact Host.write_ne_nil_of_ofWeb hhost
  · obtain ⟨host, -, h⟩ := bind_eq_ok_iff.mp h
    split at h
    · obtain ⟨-, h⟩ := unless_eq_ok_iff.mp h
      cases h
    · next hempty =>
      obtain ⟨port, -, h⟩ := bind_eq_ok_iff.mp h
      cases h
      simpa [Host.isEmpty] using hempty

theorem write_ne_nil_of_fileHost? {text : List Char} {a : Authority}
    (h : fileHost? text = .ok (some a)) : a.host.write ≠ [] := by
  unfold fileHost? at h
  rcases text with _ | ⟨b, _ | ⟨c, rest⟩⟩
  · cases h
  · cases h
  · obtain ⟨-, h⟩ := unless_eq_found_iff.mp h
    obtain ⟨-, h⟩ := unless_eq_found_iff.mp h
    obtain ⟨host, hhost, h⟩ := bind_eq_ok_iff.mp h
    obtain ⟨-, h⟩ := unless_eq_found_iff.mp h
    obtain ⟨-, h⟩ := unless_eq_found_iff.mp h
    cases h
    exact Host.write_ne_nil_of_ofWeb hhost

theorem eq_of_found {found : Except Fault (Option Authority)} {a : Authority}
    (h : (do match ← found with
      | some authority => return authority
      | none => throw .noHost) = (.ok a : Except Fault Authority)) : found = .ok (some a) := by
  rcases found with fault | _ | found <;> cases h
  rfl

theorem write_ne_nil_of_authority {url : List Char} {a : Authority} (h : authority url = .ok a) :
    a.host.write ≠ [] := by
  unfold authority at h
  split at h
  · next name rest _ =>
    cases hscheme : Scheme.ofName name with
    | file =>
        simp only [hscheme] at h
        exact write_ne_nil_of_fileHost? (eq_of_found h)
    | web port =>
        simp only [hscheme] at h
        exact write_ne_nil_of_authority? (eq_of_found h)
    | other =>
        simp only [hscheme] at h
        split at h
        · exact write_ne_nil_of_authority? (eq_of_found h)
        · cases h
  · cases h

end Url

end ClusterLaunch
