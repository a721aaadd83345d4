import ServiceProbe.Proofs.Port.Tokens
import ServiceProbe.Target

/-!
# Resolved parameters

What the parameters of a service check resolve to. Every target has its three parts from three
places: the protocol and the address are given, and the port token is given or the protocol's
own, which always stands for a port.
-/

namespace ServiceProbe

/-- Every tag names its protocol. -/
theorem Protocol.ofTag?_tag (protocol : Protocol) :
    Protocol.ofTag? protocol.tag = some protocol := by
  cases protocol <;> rfl

/-- An address is the host itself, and an empty one is this machine. -/
theorem hostOf_cases (address : String) :
    address = "" ∧ hostOf address = "127.0.0.1" ∨ address ≠ "" ∧ hostOf address = address := by
  by_cases empty : address = ""
  · subst empty
    exact .inl ⟨rfl, rfl⟩
  · exact .inr ⟨empty, by simp [hostOf, empty]⟩

namespace Target

/-- Parameters resolve to a target if and only if there are not too many of them, the first one
names a protocol, and a port token is given or the protocol has one. -/
theorem ofParams_eq_ok_iff {params : List String} {target : Target} :
    ofParams params = .ok target ↔
      params.length ≤ maxParams ∧ ∃ protocol token,
        (given? params 0).bind Protocol.ofTag? = some protocol ∧
          (given? params 2).or (defaultPort? protocol) = some token ∧
          target = atAddress protocol (params[1]?.getD "") token := by
  unfold ofParams
  by_cases many : maxParams < params.length
  · simp [many, Nat.not_le.mpr many]
  · rw [if_neg many, and_iff_right (Nat.not_lt.mp many)]
    constructor
    · intro h
      split at h
      · cases h
      · rename_i protocol named
        split at h
        · cases h
        · rename_i token chosen
          cases h
          exact ⟨protocol, token, named, chosen, rfl⟩
    · rintro ⟨protocol, token, named, chosen, rfl⟩
      simp only [named, chosen]

/-- Whatever is wrong with the parameters of a service check, the metric itself is known. -/
theorem ofParams_ne_unsupportedMetric (params : List String) :
    ofParams params ≠ .error .unsupportedMetric := by
  unfold ofParams
  split
  · simp
  · split
    · simp
    · split <;> simp

/-- A parameter that is not empty is given at its place. -/
theorem given?_of_ne_empty {params : List String} {index : Nat} {param : String}
    (place : params[index]? = some param) (filled : param ≠ "") :
    given? params index = some param := by
  simp [given?, place, Option.filter, filled]

/-- A tag, an address and a port token that is not empty resolve to just that target. -/
theorem ofParams_of_token (protocol : Protocol) (address : String) {token : String}
    (filled : token ≠ "") :
    ofParams [protocol.tag, address, token] = .ok (atAddress protocol address token) := by
  have tagged : given? [protocol.tag, address, token] 0 = some protocol.tag :=
    given?_of_ne_empty rfl (by cases protocol <;> decide)
  have chosen : given? [protocol.tag, address, token] 2 = some token :=
    given?_of_ne_empty rfl filled
  refine ofParams_eq_ok_iff.mpr ⟨Nat.le_refl 3, protocol, token, ?_, ?_, rfl⟩
  · rw [tagged, Option.bind_some, Protocol.ofTag?_tag]
  · rw [chosen, Option.some_or]

end Target

end ServiceProbe
