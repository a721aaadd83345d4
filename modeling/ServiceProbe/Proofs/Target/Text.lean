import ServiceProbe.Proofs.Port.Meaning
import ServiceProbe.Proofs.Target.Resolution

/-!
# Texts of targets

A target is shown as its host and its port token with a colon between them. A host may be any text,
with colons and brackets of its own, but a token that stands for a port is made of letters and
digits, so the last colon is the one before the token. What stands before it is the host itself, or
the host in brackets if it has a colon; a text with a colon in brackets is never a host without one.
-/

namespace ServiceProbe

/-- No colon is found in a token that stands for a port. -/
theorem Port.colon_not_mem_of_ofToken? {token : String} {port : Port}
    (h : ofToken? token = some port) : ':' ∉ token.toList := by
  intro hm
  have letter := isAlphanum_of_ofToken? h ':' hm
  cases letter

namespace Target

/-- A host as it is shown: in brackets if there is a colon in it. -/
def shownHost (host : String) : List Char :=
  if host.toList.contains ':' then '[' :: host.toList ++ [']'] else host.toList

/-- A target is shown as its host, a colon and its port token. -/
theorem toList_text (target : Target) :
    target.text.toList = shownHost target.host ++ ':' :: target.port.toList := by
  unfold text shownHost
  split
  · simp [toString]
  · simp [toString]

/-- There is a colon in a shown host if and only if there is one in the host. -/
theorem colon_mem_shownHost_iff {host : String} :
    ':' ∈ shownHost host ↔ host.toList.contains ':' = true := by
  unfold shownHost
  by_cases colon : ':' ∈ host.toList
  · simp [colon]
  · simp [colon]

/-- The host is seen from how it is shown. -/
theorem shownHost_inj {host other : String} (same : shownHost host = shownHost other) :
    host = other := by
  have colons : host.toList.contains ':' = other.toList.contains ':' := by
    rw [Bool.eq_iff_iff, ← colon_mem_shownHost_iff, same, colon_mem_shownHost_iff]
  apply String.toList_injective
  unfold shownHost at same
  rw [colons] at same
  split at same
  · exact List.append_cancel_right (List.cons.inj same).2
  · exact same

/-- A text without a colon behind a colon begins right behind it. -/
theorem eq_nil_of_colon_cons_eq {front tail rest : List Char} (plain : ':' ∉ tail)
    (same : ':' :: tail = front ++ ':' :: rest) : front = [] := by
  cases front with
  | nil => rfl
  | cons c front =>
    rw [List.cons_append] at same
    rw [(List.cons.inj same).2] at plain
    exact absurd (List.mem_append_right _ List.mem_cons_self) plain

/-- A text is split at its last colon in one way. -/
theorem append_colon_inj {first second tail other : List Char} (plain : ':' ∉ tail)
    (plainOther : ':' ∉ other) (same : first ++ ':' :: tail = second ++ ':' :: other) :
    first = second ∧ tail = other := by
  rcases List.append_eq_append_iff.mp same with ⟨front, rfl, split⟩ | ⟨front, rfl, split⟩
  · obtain rfl := eq_nil_of_colon_cons_eq plain split
    exact ⟨(List.append_nil _).symm, (List.cons.inj split).2⟩
  · obtain rfl := eq_nil_of_colon_cons_eq plainOther split
    exact ⟨List.append_nil _, (List.cons.inj split).2.symm⟩

/-- Targets whose port tokens hold no colon are shown alike if and only if they have the same host and
the same token. -/
theorem text_eq_text_iff {first second : Target} (plain : ':' ∉ first.port.toList)
    (plainOther : ':' ∉ second.port.toList) :
    first.text = second.text ↔ first.host = second.host ∧ first.port = second.port := by
  rw [← String.toList_inj, toList_text, toList_text]
  constructor
  · intro same
    obtain ⟨hosts, ports⟩ := append_colon_inj plain plainOther same
    exact ⟨shownHost_inj hosts, String.toList_injective ports⟩
  · rintro ⟨hosts, ports⟩
    rw [hosts, ports]

/-- Whatever their addresses are, two targets that have a port to dial are shown alike if and only if
they are dialled alike: at the same host, where an empty address stands for loopback, and by the same
token, which stands for the same port. -/
theorem shown_alike_iff {first second : Protocol} {address other token otherToken : String}
    {port otherPort : Port} (dialled : (atAddress first address token).port? = some port)
    (dialledOther : (atAddress second other otherToken).port? = some otherPort) :
    (atAddress first address token).text = (atAddress second other otherToken).text ↔
      hostOf address = hostOf other ∧ token = otherToken ∧ port = otherPort := by
  rw [text_eq_text_iff (Port.colon_not_mem_of_ofToken? dialled)
    (Port.colon_not_mem_of_ofToken? dialledOther)]
  constructor
  · rintro ⟨hosts, tokens⟩
    have tokens : token = otherToken := tokens
    subst tokens
    exact ⟨hosts, rfl, Option.some.inj (dialled.symm.trans dialledOther)⟩
  · rintro ⟨hosts, tokens, -⟩
    exact ⟨hosts, tokens⟩

/-- A host in brackets and the one inside of them are told apart, and so are two spellings of one
port. -/
theorem bracketedHost_shown :
    (atAddress .ssh "::1" "22").port? = some ⟨22, by decide⟩ ∧
      (atAddress .tcp "[::1]" "22").port? = some ⟨22, by decide⟩ ∧
      (atAddress .ssh "::1" "SSH").port? = some ⟨22, by decide⟩ ∧
      (atAddress .ssh "::1" "22").text ≠ (atAddress .tcp "[::1]" "22").text ∧
      (atAddress .ssh "::1" "22").text ≠ (atAddress .ssh "::1" "SSH").text := by
  have inner : (atAddress .ssh "::1" "22").port? = some ⟨22, by decide⟩ := by decide
  have outer : (atAddress .tcp "[::1]" "22").port? = some ⟨22, by decide⟩ := by decide
  have named : (atAddress .ssh "::1" "SSH").port? = some ⟨22, by decide⟩ := by decide
  refine ⟨inner, outer, named, ?_, ?_⟩
  · rw [ne_eq, shown_alike_iff inner outer]
    decide
  · rw [ne_eq, shown_alike_iff inner named]
    decide

/-- A port token that stands for nothing may hold a colon, and then the text says too little. -/
example : text ⟨.tcp, "a:b", "c"⟩ = text ⟨.tcp, "[a", "b]:c"⟩ := by decide

end Target

end ServiceProbe
