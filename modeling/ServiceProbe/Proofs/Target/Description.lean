import ServiceProbe.Proofs.Target.Resolution

/-!
# Descriptions

Which parameters of a service check describe which target, and why others are refused, told in the
words of the parameters. A parameter that is empty counts as one that is missing. Of several reasons
to refuse the first in a fixed order is given, and a target is described if and only if there is
none. It has a host and a port token, and where the token was left to the protocol it stands for
the port that the table of services has for it.
-/

namespace ServiceProbe

/-- A token names a protocol if and only if it is its tag, to the letter. -/
theorem Protocol.ofTag?_eq_some_iff {token : String} {protocol : Protocol} :
    Protocol.ofTag? token = some protocol ↔ token = protocol.tag := by
  constructor
  · intro found
    have tagged := List.find?_some (Option.mem_def.mp found)
    exact (eq_of_beq tagged).symm
  · rintro rfl
    exact protocol.ofTag?_tag

namespace Target

/-- A parameter is left out: it is missing or empty. -/
def LeftOut (params : List String) (index : Nat) : Prop :=
  params[index]? = none ∨ params[index]? = some ""

/-- Why parameters are refused. Each reason is given only where those above it do not hold. -/
def Refused (params : List String) : ParamError → Prop
  | .tooMany => 3 < params.length
  | .invalidFirst => params.length ≤ 3 ∧ ∀ protocol : Protocol, params[0]? ≠ some protocol.tag
  | .invalidThird => params.length ≤ 3 ∧ params[0]? = some "tcp" ∧ LeftOut params 2
  | .invalidSecond | .unsupportedMetric => False

/-- What it means that parameters describe a target. -/
structure Describes (params : List String) (target : Target) : Prop where
  /-- There are not too many. -/
  few : params.length ≤ 3
  /-- The first is the tag of the protocol, to the letter. -/
  named : params[0]? = some target.protocol.tag
  /-- The second is the host, or it is left out and the host is this machine. -/
  host : params[1]? = some target.host ∧ target.host ≠ "" ∨
    LeftOut params 1 ∧ target.host = "127.0.0.1"
  /-- The third is the port token, as it stands, or it is left out and the token is the protocol's
  own: its tag, but a number for mailboxes. Plain connections have none. -/
  port : params[2]? = some target.port ∧ target.port ≠ "" ∨
    LeftOut params 2 ∧ target.protocol ≠ .tcp ∧
      target.port = if target.protocol = .pop then "110" else target.protocol.tag

section Given

variable {params : List String} {index : Nat} {param : String}

/-- A parameter is given if and only if it is there and not empty. -/
theorem given?_eq_some_iff :
    given? params index = some param ↔ params[index]? = some param ∧ param ≠ "" := by
  simp [given?, Option.filter_eq_some_iff]

/-- It is not if and only if it is left out. -/
theorem given?_eq_none_iff : given? params index = none ↔ LeftOut params index := by
  simp only [given?, LeftOut]
  cases params[index]? with
  | none => simp
  | some param => simp [Option.filter]

end Given

section Parts

variable {params : List String}

/-- No tag is empty, so the first parameter names a protocol if and only if it is its tag. -/
theorem named_iff {protocol : Protocol} :
    (given? params 0).bind Protocol.ofTag? = some protocol ↔ params[0]? = some protocol.tag := by
  have filled : protocol.tag ≠ "" := by cases protocol <;> decide
  simp only [Option.bind_eq_some_iff, Protocol.ofTag?_eq_some_iff, given?_eq_some_iff]
  constructor
  · rintro ⟨_, ⟨place, -⟩, rfl⟩
    exact place
  · intro place
    exact ⟨_, ⟨place, filled⟩, rfl⟩

/-- The host is the second parameter, unless that is left out. -/
theorem hostOf_eq_iff {host : String} :
    hostOf (params[1]?.getD "") = host ↔
      params[1]? = some host ∧ host ≠ "" ∨ LeftOut params 1 ∧ host = "127.0.0.1" := by
  unfold LeftOut
  cases params[1]? with
  | none =>
    have here : hostOf "" = "127.0.0.1" := rfl
    simp [here, eq_comm]
  | some address =>
    rw [Option.getD_some]
    obtain ⟨rfl, here⟩ | ⟨filled, other⟩ := hostOf_cases address
    · simp [here, eq_comm]
    · rw [other]
      constructor
      · rintro rfl
        exact .inl ⟨rfl, filled⟩
      · rintro (⟨place, -⟩ | ⟨missing | empty, -⟩)
        · exact Option.some.inj place
        · cases missing
        · exact absurd (Option.some.inj empty) filled

/-- The port token of a protocol is its tag, but a number for mailboxes. -/
theorem defaultPort?_eq_some_iff {protocol : Protocol} {token : String} :
    defaultPort? protocol = some token ↔
      protocol ≠ .tcp ∧ token = if protocol = .pop then "110" else protocol.tag := by
  have number : toString popPort.val = "110" := by decide
  cases protocol <;> simp [defaultPort?, number, eq_comm]

/-- The port token is the third parameter, or the protocol's own if that is left out. -/
theorem token_eq_some_iff {protocol : Protocol} {token : String} :
    (given? params 2).or (defaultPort? protocol) = some token ↔
      params[2]? = some token ∧ token ≠ "" ∨ LeftOut params 2 ∧ protocol ≠ .tcp ∧
        token = if protocol = .pop then "110" else protocol.tag := by
  rw [Option.or_eq_some_iff, given?_eq_some_iff, given?_eq_none_iff, defaultPort?_eq_some_iff]

/-- There is none if and only if it is left out for a plain connection. -/
theorem token_eq_none_iff {protocol : Protocol} :
    (given? params 2).or (defaultPort? protocol) = none ↔ LeftOut params 2 ∧ protocol = .tcp := by
  rw [Option.or_eq_none_iff, given?_eq_none_iff]
  cases protocol <;> simp [defaultPort?]

/-- Parameters resolve to a target if and only if they describe it. -/
theorem ofParams_eq_ok_iff_describes {target : Target} :
    ofParams params = .ok target ↔ Describes params target := by
  rw [ofParams_eq_ok_iff]
  simp only [named_iff, token_eq_some_iff]
  constructor
  · rintro ⟨few, protocol, token, named, chosen, rfl⟩
    exact ⟨few, named, hostOf_eq_iff.mp rfl, chosen⟩
  · rintro ⟨few, named, host, port⟩
    refine ⟨few, target.protocol, target.port, named, port, ?_⟩
    rw [atAddress, hostOf_eq_iff.mpr host]

/-- Where there is a reason to refuse them, parameters are refused for it. -/
theorem ofParams_of_refused {error : ParamError} (h : Refused params error) :
    ofParams params = .error error := by
  cases error with
  | tooMany => rw [ofParams, if_pos (show maxParams < params.length from h)]
  | invalidFirst =>
    obtain ⟨few, unnamed⟩ := h
    have missing : (given? params 0).bind Protocol.ofTag? = none :=
      Option.eq_none_iff_forall_ne_some.mpr fun protocol found =>
        unnamed protocol (named_iff.mp found)
    simp only [ofParams, if_neg (Nat.not_lt.mpr few : ¬ maxParams < params.length), missing]
  | invalidThird =>
    obtain ⟨few, plain, portless⟩ := h
    have named : (given? params 0).bind Protocol.ofTag? = some .tcp := named_iff.mpr plain
    have missing : (given? params 2).or (defaultPort? .tcp) = none :=
      token_eq_none_iff.mpr ⟨portless, rfl⟩
    simp only [ofParams, if_neg (Nat.not_lt.mpr few : ¬ maxParams < params.length), named,
      missing]
  | invalidSecond => exact h.elim
  | unsupportedMetric => exact h.elim

/-- Parameters that there is no reason to refuse describe a target. -/
theorem refused_or_describes (params : List String) :
    (∃ error, Refused params error) ∨ ∃ target, Describes params target := by
  by_cases many : 3 < params.length
  · exact .inl ⟨.tooMany, many⟩
  · have few : params.length ≤ 3 := Nat.le_of_not_lt many
    by_cases tagged : ∃ protocol : Protocol, params[0]? = some protocol.tag
    · obtain ⟨protocol, named⟩ := tagged
      cases chosen : (given? params 2).or (defaultPort? protocol) with
      | none =>
        obtain ⟨portless, rfl⟩ := token_eq_none_iff.mp chosen
        exact .inl ⟨.invalidThird, few, named, portless⟩
      | some token =>
        exact .inr ⟨⟨protocol, _, token⟩, few, named, hostOf_eq_iff.mp rfl,
          token_eq_some_iff.mp chosen⟩
    · exact .inl ⟨.invalidFirst, few, fun protocol named => tagged ⟨protocol, named⟩⟩

/-- Parameters are refused with an error if and only if it is the reason to refuse them. -/
theorem ofParams_eq_error_iff {error : ParamError} :
    ofParams params = .error error ↔ Refused params error := by
  constructor
  · intro h
    obtain ⟨other, refused⟩ | ⟨target, described⟩ := refused_or_describes params
    · rw [ofParams_of_refused refused] at h
      cases h
      exact refused
    · rw [ofParams_eq_ok_iff_describes.mpr described] at h
      cases h
  · exact ofParams_of_refused

end Parts

/-- The table of services has every protocol but plain connections, at the port that its own token
stands for. -/
theorem exists_entry_of_own {protocol : Protocol} (named : protocol ≠ .tcp) :
    ∃ entry ∈ Port.wellKnown, entry.1 = protocol.tag ∧
      Port.ofToken? (if protocol = .pop then "110" else protocol.tag) = some entry.2 := by
  cases protocol with
  | tcp => exact absurd rfl named
  | _ => decide

namespace Describes

variable {params : List String} {target : Target}

/-- A target that is described has a host and a port token. -/
theorem filled (h : Describes params target) : target.host ≠ "" ∧ target.port ≠ "" := by
  constructor
  · rcases h.host with ⟨-, filled⟩ | ⟨-, host⟩
    · exact filled
    · rw [host]
      decide
  · rcases h.port with ⟨-, filled⟩ | ⟨-, -, token⟩
    · exact filled
    · rw [token]
      cases target.protocol <;> decide

/-- A port token that is left to the protocol stands for the port of the service by its name. -/
theorem port_of_leftOut (h : Describes params target) (left : LeftOut params 2) :
    ∃ port, (target.protocol.tag, port) ∈ Port.wellKnown ∧ target.port? = some port := by
  rcases h.port with ⟨place, filled⟩ | ⟨-, named, token⟩
  · rcases left with missing | empty
    · rw [missing] at place
      cases place
    · rw [empty] at place
      exact absurd (Option.some.inj place).symm filled
  · obtain ⟨entry, listed, tag, stands⟩ := exists_entry_of_own named
    exact ⟨entry.2, tag ▸ listed, by rw [port?, token, stands]⟩

/-- A port token that stands for no port was given. -/
theorem given_of_port?_eq_none (h : Describes params target) (unresolved : target.port? = none) :
    params[2]? = some target.port ∧ target.port ≠ "" := by
  rcases h.port with given | ⟨left, -⟩
  · exact given
  · obtain ⟨port, -, resolved⟩ := h.port_of_leftOut left
    rw [unresolved] at resolved
    cases resolved

end Describes

/-- What it means that the parameters of a service check are decided exactly. -/
structure DecidedExactly (params : List String) : Prop where
  /-- They are refused with an error if and only if it is the reason to refuse them. -/
  refused : ∀ error, ofParams params = .error error ↔ Refused params error
  /-- Without a reason to refuse them they resolve to a target, -/
  resolved : (∀ error, ¬ Refused params error) → ∃ target, ofParams params = .ok target
  /-- and to just the one that they describe. -/
  described : ∀ target, ofParams params = .ok target ↔ Describes params target
  /-- Every target has a host and a port token. -/
  filled : ∀ target, ofParams params = .ok target → target.host ≠ "" ∧ target.port ≠ ""
  /-- Where the third parameter is left out, the token of the target stands for the port that the
  table of services has for the protocol. -/
  known : ∀ target, ofParams params = .ok target → LeftOut params 2 →
    ∃ port, (target.protocol.tag, port) ∈ Port.wellKnown ∧ target.port? = some port

/-- The parameters of a service check are decided exactly. -/
theorem decidedExactly (params : List String) : DecidedExactly params where
  refused := fun _ => ofParams_eq_error_iff
  resolved := by
    intro unrefused
    obtain ⟨error, refused⟩ | ⟨target, described⟩ := refused_or_describes params
    · exact absurd refused (unrefused error)
    · exact ⟨target, ofParams_eq_ok_iff_describes.mpr described⟩
  described := fun _ => ofParams_eq_ok_iff_describes
  filled := by
    intro target h
    exact (ofParams_eq_ok_iff_describes.mp h).filled
  known := by
    intro target h
    exact (ofParams_eq_ok_iff_describes.mp h).port_of_leftOut

example : ofParams ["pop", ""] = .ok ⟨.pop, "127.0.0.1", "110"⟩ := rfl

end Target

end ServiceProbe
