import HostFleet.Proofs.Http.Host
import HostFleet.Proofs.Proxy.Contact

/-! # Where the text of a host leads

A tunnel dials the text of its host as it is. A plain call writes it in front of the path and reads both as a
URL, and what is the host there may be less than the text, or none of it.

* `Names`: the place that the text of a host stands for; `Visit.destination?`: where it leads.
* `names_iff_of_destination?`: when these are the same.
* `Visit.GoesTo`, `Visit.IsRefused`: what can become of a visit.
* `Visit.goesTo_of_forward`: a request that is passed on goes to its host.
-/

set_option autoImplicit false

namespace HostFleet

open Http (Attempt Hosts Place Request Upgrade Url)

variable {σ : Type}

namespace Proxy

theorem ne_empty_of_usableHost? {host : Option String} {name : String}
    (h : usableHost? host = some name) : name ≠ "" := by
  unfold usableHost? at h
  obtain ⟨-, hne⟩ := Option.filter_eq_some_iff.1 h
  rintro rfl
  cases hne

/-- The place that the text of a host stands for: the text itself, where it is dialled as it is, or the host and
the port that it is read as. -/
def Names (name : String) (place : Place) : Prop :=
  place = .text name ∨ Url.placeIn? name.toList = some place

namespace Visit

/-- Where the text of a host leads to. A tunnel dials it as it is. A URL has a host of its own in such a text,
and behind slashes alone it takes the first part of the path for the host. -/
def destination? (v : Visit σ) (name : String) : Option Place :=
  if v.upgrade?.isSome then some (.text name)
  else if Url.isSlashes name.toList then
    some (.origin "http" (.domain (Url.firstSegment v.forwardedTarget.toList)) (Url.defaultPort "http"))
  else Url.placeIn? (Url.hostPart name.toList)

variable {v : Visit σ} {host : Option String} {request : Request} {name : String} {place : Place}

/-- A text leads to the place that it stands for in tunnels, and otherwise only if it is a host and a port and
no more. -/
theorem names_iff_of_destination? (hne : name ≠ "") (h : v.destination? name = some place) :
    Names name place ↔ v.upgrade?.isSome ∨ Url.IsAuthority name.toList := by
  unfold destination? at h
  split at h
  · next hupgrade =>
    injection h with h
    exact iff_of_true (.inl h.symm) (.inl hupgrade)
  · next hplain =>
    have horigin : place ≠ .text name := by
      rintro rfl
      split at h
      · cases h
      · obtain ⟨found, -, hfound⟩ := Option.map_eq_some_iff.1 h
        cases hfound
    constructor
    · rintro (htext | hplace)
      · exact absurd htext horigin
      · exact .inr (Url.isAuthority_of_placeIn? hplace)
    · rintro (hupgrade | hauthority)
      · exact absurd hupgrade hplain
      · have hslashes := hauthority.isSlashes_eq fun hnil => hne (String.toList_eq_nil_iff.1 hnil)
        rw [hslashes, if_neg Bool.false_ne_true, hauthority.hostPart_eq] at h
        exact .inr h

/-- The visit is for this host: it contacts no other place than that to which its text leads, and does not
contact it only when its URL cannot be asked for. Without a host it is told so. -/
structure GoesTo (v : Visit σ) (host : Option String) : Prop where
  named : v.host? = host
  leads : ∀ contact ∈ v.contacts, ∃ name, host = some name ∧
    v.destination? name = some contact.place ∧
    (Names name contact.place ↔ v.upgrade?.isSome ∨ Url.IsAuthority name.toList)
  tried : ∀ name, host = some name → v.contacts = [] → v.upgrade? = none ∧
    ∀ url, Url.parse? ("http://" ++ name ++ v.forwardedTarget) = some url → url.isTarget = false
  missing : host = none → v.contacts = [] ∧ v.served.delivery.response = .ofFault .missingRoute

/-- The visit ends with a fault of the client, and nobody is contacted. -/
structure IsRefused (v : Visit σ) (fault : Fault) : Prop where
  named : v.host? = none
  contacts : v.contacts = []
  response : v.served.delivery.response = .ofFault fault
  status : fault.status = 400

theorem isRefused_of_answer {fault : Fault} (h : v.decision = .answer (.ofFault fault))
    (hstatus : fault.status = 400) : v.IsRefused fault := by
  refine ⟨?_, contacts_eq_nil_of_answer h, (served_of_answer h).2, hstatus⟩
  unfold host?
  rw [h]

section Forward
variable (h : v.decision = .forward host request) (hordinary : IsOrdinary request)
  (hheaders : request.headers = v.request.headers)
include h hordinary hheaders

theorem destination?_of_forward (hpath : Url.BeginsWithWord request.target.pathAndQuery.toList)
    (hname : usableHost? host = some name) {attempt : Attempt}
    (hattempt : (plan host request).attempt? v.later = some attempt) :
    v.destination? name = some attempt.place := by
  rw [hordinary.plan_eq, hname] at hattempt
  unfold destination? upgrade? forwardedTarget
  rw [h, ← hheaders]
  cases hupgrade : Upgrade.requested? request.headers with
  | some upgrade =>
    rw [hupgrade] at hattempt
    cases upgrade <;>
    · injection hattempt with hattempt
      subst hattempt
      rfl
  | none =>
    rw [hupgrade] at hattempt
    obtain ⟨url, hurl, -, rfl⟩ := callAttempt?_eq_some_iff.1 hattempt
    have hplace := Url.parse?_map_place name hpath
    unfold urlText at hurl
    rw [hurl, Option.map_some] at hplace
    simp only [Option.isSome_none, Bool.false_eq_true, if_false]
    split
    · next hslashes =>
      rw [hslashes, if_pos rfl] at hplace
      exact congrArg some (Url.placeIn?_of_isWord hpath.isWord hplace.symm).symm
    · next hother =>
      rw [if_neg hother] at hplace
      exact hplace.symm

theorem goesTo_of_forward (hpath : Url.BeginsWithWord request.target.pathAndQuery.toList) :
    v.GoesTo (usableHost? host) := by
  have hcontacts := contacts_of_forward h
  refine ⟨?_, ?_, ?_, ?_⟩
  · unfold host?
    rw [h]
    exact hordinary.host?_plan host
  · intro contact hcontact
    rw [hcontacts] at hcontact
    obtain ⟨attempt, hattempt, hplace⟩ :=
      Option.map_eq_some_iff.1 (Hosts.place_of_mem_trace hcontact)
    cases hname : usableHost? host with
    | none =>
      rw [hordinary.plan_eq, hname] at hattempt
      cases hattempt
    | some name =>
      have hdestination := destination?_of_forward h hordinary hheaders hpath hname hattempt
      rw [hplace] at hdestination
      exact ⟨name, rfl, hdestination,
        names_iff_of_destination? (ne_empty_of_usableHost? hname) hdestination⟩
  · intro name hname hnobody
    rw [hcontacts, Hosts.trace_eq_nil_iff, hordinary.plan_eq, hname] at hnobody
    unfold upgrade? forwardedTarget
    rw [h, ← hheaders]
    cases hupgrade : Upgrade.requested? request.headers with
    | some upgrade =>
      rw [hupgrade] at hnobody
      cases upgrade <;> cases hnobody
    | none =>
      rw [hupgrade] at hnobody
      exact ⟨rfl, callAttempt?_eq_none_iff.1 hnobody⟩
  · intro hnone
    have hplan := hordinary.plan_eq host
    rw [hnone] at hplan
    refine ⟨?_, ?_⟩
    · rw [hcontacts, hplan]
      rfl
    · rw [(served_of_forward h).2]
      unfold deliver
      rw [hplan]
      rfl

end Forward

end Visit

end Proxy

end HostFleet
