import HostFleet.Http.Inbound
import HostFleet.Proofs.Decimal.Digits
import HostFleet.Proofs.Text.Trim
import Mathlib.Logic.Basic

/-! # How long a body is

* `Headers.values_without`, `Headers.has_eq_true_iff`: the lines of a name.
* `Headers.lengths_of_lineLength?`: a line of nothing but digits is read alike by all who read it.
* `Inbound.Framing.of_foldlM`: what the lines of a head say about the body, without a coding.
* `Inbound.of_contentLength?_heeded`: a length that is left in a head is the one by which its body is read.
* `Inbound.length_body`: the body of a request that was read is as long as it was announced.
-/

set_option autoImplicit false

namespace HostFleet.Http

/-! ## Lines -/

namespace Headers

variable {h k : Headers} {name : String}

theorem values_without (h : Headers) (names : List String) (name : String) :
    (h.without names).values name = if name ∈ names then [] else h.values name := by
  unfold values without
  rw [List.filter_filter]
  split
  · next hmem =>
    rw [List.map_eq_nil_iff, List.filter_eq_nil_iff]
    rintro line - hline
    rw [Bool.and_eq_true, beq_iff_eq] at hline
    obtain ⟨rfl, hkept⟩ := hline
    rw [List.contains_iff_mem.2 hmem] at hkept
    cases hkept
  · next hmem =>
    refine congrArg _ (List.filter_congr fun line _ => ?_)
    by_cases hline : line.1 = name
    · subst hline
      simp [hmem]
    · simp [hline]

theorem values_cons_of_eq {line : String × Bytes} (hline : line.1 = name) :
    values (line :: h) name = line.2 :: h.values name := by
  unfold values
  rw [List.filter_cons, if_pos (beq_iff_eq.2 hline), List.map_cons]

theorem values_cons_of_ne {line : String × Bytes} (hline : line.1 ≠ name) :
    values (line :: h) name = h.values name := by
  unfold values
  rw [List.filter_cons, if_neg (mt beq_iff_eq.1 hline)]

theorem has_cons_of_ne {line : String × Bytes} (hline : line.1 ≠ name) :
    has (line :: h) name = h.has name := by
  unfold has
  rw [List.any_cons, beq_false_of_ne hline, Bool.false_or]

theorem values_append (h k : Headers) (name : String) :
    values (h ++ k) name = h.values name ++ k.values name := by
  unfold values
  rw [List.filter_append, List.map_append]

theorem values_eq_nil (hnone : ∀ line ∈ h, line.1 ≠ name) : h.values name = [] := by
  unfold values
  rw [List.map_eq_nil_iff, List.filter_eq_nil_iff]
  exact fun line hline => mt beq_iff_eq.1 (hnone line hline)

theorem has_eq_true_iff : h.has name = true ↔ h.values name ≠ [] := by
  unfold has values
  simp [List.filter_eq_nil_iff]

theorem has_eq_false_iff : h.has name = false ↔ h.values name = [] := by
  rw [← Bool.not_eq_true, has_eq_true_iff, not_not]

theorem has_congr (heq : h.values name = k.values name) : h.has name = k.has name := by
  rw [Bool.eq_iff_iff, has_eq_true_iff, has_eq_true_iff, heq]

theorem contentLength?_congr (heq : h.values "content-length" = k.values "content-length") :
    h.contentLength? = k.contentLength? := by
  unfold contentLength?
  rw [heq]

theorem contentLength?_of_not_has (hnone : h.has "content-length" = false) :
    h.contentLength? = none := by
  unfold contentLength?
  rw [has_eq_false_iff.1 hnone]
  rfl

end Headers

namespace Headers

variable {value : Bytes} {n : Nat}

/-- A line of nothing but digits announces one length. -/
theorem lengths_of_lineLength? (h : Inbound.lineLength? value = some n) :
    lengths value = [some n] := by
  unfold Inbound.lineLength? at h
  obtain ⟨s, hs, hlength⟩ := Option.bind_eq_some_iff.1 h
  have hdigits : ∀ c ∈ s, Json.Numeral.isDigit c = true := by
    unfold lengthOf? Decimal.natural? at hlength
    obtain ⟨hsome, -⟩ := Option.filter_eq_some_iff.1 hlength
    split at hsome
    · next hall => exact List.all_eq_true.1 (Bool.and_eq_true_iff.1 hall).2
    · cases hsome
  have hcomma : ',' ∉ s := fun hmem => absurd (hdigits ',' hmem) (by decide)
  have hblank : ∀ c ∈ s, Text.isBlank c = false := by
    intro c hc
    obtain ⟨hlow, hhigh⟩ := Decimal.isDigit_iff.1 (hdigits c hc)
    exact Text.isBlank_of_visible (by omega) (by omega)
  have htrim : Text.trimList s = s := Text.trimList_of_forall_not_blank hblank
  unfold lengths
  rw [hs]
  show (Text.fields ',' s).map (fun part => lengthOf? (Text.trimList part)) = [some n]
  rw [Text.fields_of_not_mem hcomma, List.map_singleton, htrim, hlength]

end Headers

namespace Inbound

variable {version : Version} {f g : Framing} {h : Headers} {line : String × Bytes}

namespace Framing

/-- A line that does not code the body is heeded if it announces a length, and that by digits. -/
theorem of_heed (hstep : f.heed version line = .ok g) (hplain : g.coded = false) :
    f.coded = false ∧ line.1 ≠ "transfer-encoding" ∧
      (line.1 = "content-length" ∧
          (∃ n, lineLength? line.2 = some n ∧ g = { f with length := f.length.or (some n) }) ∨
        line.1 ≠ "content-length" ∧ g = f) := by
  unfold heed at hstep
  split at hstep
  · split at hstep
    · injection hstep with hstep
      subst hstep
      cases hplain
    · cases hstep
  · next hcoding =>
    have hcoding' : line.1 ≠ "transfer-encoding" := fun heq => hcoding (beq_iff_eq.2 heq)
    split at hstep
    · next hlength =>
      obtain ⟨hname, hcoded⟩ := Bool.and_eq_true_iff.1 hlength
      refine ⟨(Bool.not_eq_true' _).mp hcoded, hcoding', .inl ⟨beq_iff_eq.1 hname, ?_⟩⟩
      split at hstep
      · cases hstep
      · next n m hn hm =>
        split at hstep
        · injection hstep with hstep
          subst hstep
          exact ⟨n, hn, by rw [hm]; exact congrArg (Framing.mk f.coded f.chunked) hm⟩
        · cases hstep
      · next n hn hm =>
        split at hstep
        · cases hstep
        · injection hstep with hstep
          subst hstep
          exact ⟨n, hn, by rw [hm]; rfl⟩
    · next hother =>
      injection hstep with hstep
      subst hstep
      refine ⟨hplain, hcoding', .inr ⟨fun heq => hother ?_, rfl⟩⟩
      rw [heq, hplain]
      rfl

/-- What the lines of a head say about the body, if none of them codes it. -/
theorem of_foldlM (hfold : h.foldlM (heed version) f = .ok g) (hplain : g.coded = false) :
    f.coded = false ∧ h.has "transfer-encoding" = false ∧ g.chunked = f.chunked ∧
      g.length = f.length.or ((h.values "content-length").head?.bind lineLength?) ∧
      ∀ value ∈ h.values "content-length", ∃ n, lineLength? value = some n := by
  induction h generalizing f with
  | nil =>
    injection hfold with hfold
    subst hfold
    exact ⟨hplain, rfl, rfl, (Option.or_none).symm, nofun⟩
  | cons line h ih =>
    rw [List.foldlM_cons] at hfold
    cases hstep : heed version f line with
    | error flaw =>
      rw [hstep] at hfold
      cases hfold
    | ok next =>
      rw [hstep] at hfold
      obtain ⟨hnext, hhas, hchunked, hlength, hvalues⟩ := ih hfold
      obtain ⟨hcoded, hcoding, ⟨hname, n, hn, rfl⟩ | ⟨hname, rfl⟩⟩ := of_heed hstep hnext
      · refine ⟨hcoded, ?_, hchunked, ?_, ?_⟩
        · rw [Headers.has_cons_of_ne hcoding, hhas]
        · rw [Headers.values_cons_of_eq hname, hlength]
          cases f.length <;> simp [hn]
        · rw [Headers.values_cons_of_eq hname]
          exact List.forall_mem_cons.2 ⟨⟨n, hn⟩, hvalues⟩
      · refine ⟨hcoded, ?_, hchunked, ?_, ?_⟩
        · rw [Headers.has_cons_of_ne hcoding, hhas]
        · rw [Headers.values_cons_of_ne hname, hlength]
        · rw [Headers.values_cons_of_ne hname]
          exact hvalues

/-- Lines of other names code nothing. -/
theorem coded_heed (hstep : f.heed version line = .ok g) (hline : line.1 ≠ "transfer-encoding") :
    g.coded = f.coded := by
  unfold heed at hstep
  rw [beq_false_of_ne hline, if_neg Bool.false_ne_true] at hstep
  split at hstep
  · split at hstep
    · cases hstep
    · split at hstep
      · injection hstep with hstep
        rw [hstep]
      · cases hstep
    · split at hstep
      · cases hstep
      · injection hstep with hstep
        exact hstep ▸ rfl
  · injection hstep with hstep
    rw [hstep]

theorem coded_foldlM (hfold : h.foldlM (heed version) f = .ok g)
    (hplain : h.has "transfer-encoding" = false) : g.coded = f.coded := by
  induction h generalizing f with
  | nil =>
    injection hfold with hfold
    exact hfold ▸ rfl
  | cons line h ih =>
    have hline : line.1 ≠ "transfer-encoding" ∧ Headers.has h "transfer-encoding" = false := by
      unfold Headers.has at hplain
      rw [List.any_cons, Bool.or_eq_false_iff] at hplain
      exact ⟨ne_of_beq_false hplain.1, hplain.2⟩
    rw [List.foldlM_cons] at hfold
    cases hstep : heed version f line with
    | error flaw =>
      rw [hstep] at hfold
      cases hfold
    | ok next =>
      rw [hstep] at hfold
      exact (ih hfold hline.2).trans (coded_heed hstep hline.1)

end Framing

/-- Of the lines that announce a length the first is left, and none beside a coding. -/
theorem values_heeded (h : Headers) : (heeded h).values "content-length" =
    if h.has "transfer-encoding" then [] else (h.values "content-length").take 1 := by
  unfold heeded
  split
  · rw [Headers.values_without, if_pos (List.mem_singleton.2 rfl)]
  · have hfront : Headers.values (h.takeWhile fun line => line.1 != "content-length")
        "content-length" = [] := by
      refine Headers.values_eq_nil fun line hline => ?_
      exact bne_iff_ne.1 (List.all_eq_true.1 List.all_takeWhile line hline)
    have hall := congrArg (fun h => Headers.values h "content-length")
      (List.takeWhile_append_dropWhile (l := h) (p := fun line => line.1 != "content-length"))
    rw [Headers.values_append, hfront, List.nil_append] at hall
    split
    · next hnone =>
      rw [hnone] at hall
      rw [← hall]
      rfl
    · next line more hmore =>
      rw [hmore] at hall
      have hname : line.1 = "content-length" := by
        have hhead := List.head?_dropWhile_not (fun line => line.1 != "content-length") h
        rw [hmore] at hhead
        exact bne_eq_false_iff_eq.1 hhead
      rw [Headers.values_append, hfront, List.nil_append, ← hall, Headers.values_cons_of_eq hname,
        Headers.values_cons_of_eq hname, Headers.values_without, if_pos (List.mem_singleton.2 rfl)]
      rfl

theorem foldlM_of_framing (hframing : framing version h = .ok f) :
    h.foldlM (Framing.heed version) ⟨false, false, none⟩ = .ok f := by
  unfold framing at hframing
  cases hfold : h.foldlM (Framing.heed version) ⟨false, false, none⟩ with
  | error flaw =>
    rw [hfold] at hframing
    cases hframing
  | ok g =>
    rw [hfold] at hframing
    change (if _ then _ else _) = _ at hframing
    split at hframing
    · cases hframing
    · exact hframing

/-- A length that is left in the head is the one by which the body is read. -/
theorem of_contentLength?_heeded {n : Nat} (hframing : framing version h = .ok f)
    (hlength : (heeded h).contentLength? = some n) : f.chunked = false ∧ f.length = some n := by
  have hfold := foldlM_of_framing hframing
  have hvalues := values_heeded h
  cases hcoding : h.has "transfer-encoding" with
  | true =>
    rw [hcoding, if_pos rfl] at hvalues
    rw [Headers.contentLength?_of_not_has (Headers.has_eq_false_iff.2 hvalues)] at hlength
    cases hlength
  | false =>
    rw [hcoding, if_neg Bool.false_ne_true] at hvalues
    have hplain : f.coded = false := Framing.coded_foldlM hfold hcoding
    obtain ⟨-, -, hchunked, hannounced, hdigits⟩ := Framing.of_foldlM hfold hplain
    refine ⟨hchunked, ?_⟩
    cases hfirst : h.values "content-length" with
    | nil =>
      rw [hfirst] at hvalues
      rw [Headers.contentLength?_of_not_has (Headers.has_eq_false_iff.2 hvalues)] at hlength
      cases hlength
    | cons value more =>
      rw [hfirst] at hvalues hannounced hdigits
      obtain ⟨m, hm⟩ := hdigits value List.mem_cons_self
      have hread : (heeded h).contentLength? = some m := by
        unfold Headers.contentLength?
        rw [hvalues]
        show Headers.agreed? (Headers.lengths value ++ []) = _
        rw [Headers.lengths_of_lineLength? hm]
        rfl
      rw [← hlength, hread]
      exact hannounced.trans hm

theorem headers_ofParts (o : Opening) (target : Target) (f : Framing) (rest : Bytes) :
    (ofParts o target f rest).request.headers = heeded o.headers := by
  unfold ofParts
  dsimp only
  split <;> rfl

theorem request_ofParts (hchunked : f.chunked = false) (o : Opening) (target : Target)
    (rest : Bytes) : (ofParts o target f rest).request =
      ⟨o.method, target, o.version, heeded o.headers, rest.take (f.length.getD 0), true,
        rest.length < f.length.getD 0⟩ := by
  unfold ofParts
  dsimp only
  rw [hchunked, if_neg Bool.false_ne_true]

/-- The body of a request that was read is as long as it was announced, unless it does not come to its
end; then it is shorter. -/
theorem length_body {o : Opening} {target : Target} {rest : Bytes}
    (hframing : framing o.version o.headers = .ok f) {n : Nat}
    (hlength : (ofParts o target f rest).request.headers.contentLength? = some n) :
    (ofParts o target f rest).request.body.length ≤ n ∧
      ((ofParts o target f rest).request.broken = false →
        (ofParts o target f rest).request.body.length = n) := by
  rw [headers_ofParts] at hlength
  obtain ⟨hchunked, hn⟩ := of_contentLength?_heeded hframing hlength
  rw [request_ofParts hchunked, hn]
  refine ⟨List.length_take_le n rest, fun hwhole => ?_⟩
  have hlong : ¬rest.length < n := of_decide_eq_false hwhole
  show (rest.take n).length = n
  rw [List.length_take]
  omega

/-- The request that is found. -/
def Found.request? : Found → Option Request
  | .request i => some i.request
  | _ => none

/-- The same for the next request on a connection. -/
theorem length_body_of_next {bytes : Bytes} {request : Request}
    (h : (next bytes).request? = some request) {n : Nat}
    (hlength : request.headers.contentLength? = some n) :
    request.body.length ≤ n ∧ (request.broken = false → request.body.length = n) := by
  unfold next at h
  split at h
  · split at h <;> cases h
  · cases h
  · next o rest ho =>
    unfold ofOpening at h
    split at h
    · cases h
    · split at h
      · cases h
      · cases h
      · next target f htarget hframing =>
        injection h with h
        subst h
        exact length_body hframing hlength

end Inbound

end HostFleet.Http
