import HostFleet.Endpoint

/-! # When an endpoint goes stale

Only whole milliseconds count, of the time since an endpoint was last seen as of the time that it may be
silent. So there is one age from which on it is stale, a little above what it is allowed.

* `Moment.lt_millisSince_iff`: how many whole milliseconds lie between two moments.
* `Endpoint.staleAge`, `Endpoint.isStale_iff`: the age from which on a peer is stale.
* `Endpoint.lt_staleAge`, `Endpoint.staleAge_le`: it is above the greatest age by a millisecond at most.
* `Endpoint.isStale_mono`: who is stale stays so later on, for earlier news and where less is allowed.
* `Endpoint.staleness_brackets_the_age`: all of this for every endpoint.
-/

set_option autoImplicit false

namespace HostFleet

/-! ## Milliseconds -/

namespace Moment

/-- The moment is in one of the years that a calendar of 262143 years either way has. -/
structure IsDated (m : Moment) : Prop where
  first : -8334601228800 ≤ m.seconds
  last : m.seconds ≤ 8210266876799

theorem since_le {now later past earlier : Moment} (hnow : now.nanos ≤ later.nanos)
    (hpast : earlier.nanos ≤ past.nanos) : (now.since past).nanos ≤ (later.since earlier).nanos :=
  Int.sub_le_sub hnow hpast

theorem lt_millisSince_iff {now past : Moment} {n : Nat} :
    (n : Int) < now.millisSince past ↔ (Span.ofMillis (n + 1)).nanos ≤ (now.since past).nanos := by
  unfold millisSince since Span.ofMillis
  dsimp only
  generalize now.nanos - past.nanos = age
  rcases Int.le_total 0 age with hage | hage
  · rw [Int.tdiv_eq_ediv_of_nonneg hage]
    omega
  · -- towards zero, the milliseconds of a negative age are at most none
    have hneg : age.tdiv 1000000 = -(-age).tdiv 1000000 := by rw [Int.neg_tdiv, Int.neg_neg]
    have hnonneg : 0 ≤ (-age).tdiv 1000000 :=
      Int.tdiv_nonneg (Int.neg_nonneg_of_nonpos hage) (by decide)
    omega

/-- Between two moments of the calendar lie fewer milliseconds than are told apart. -/
theorem IsDated.since_lt {now past : Moment} (hnow : now.IsDated) (hpast : past.IsDated) :
    (now.since past).nanos < (Span.ofMillis Endpoint.maxMillis).nanos := by
  have hlast := hnow.last
  have hfirst := hpast.first
  unfold seconds at hlast hfirst
  rw [Int.fdiv_eq_ediv_of_nonneg _ (by decide)] at hlast hfirst
  unfold since Span.ofMillis Endpoint.maxMillis
  dsimp only
  omega

end Moment

namespace Endpoint

variable {e : Endpoint} {now : Moment} {maxAge : Span}

/-! ## The age of a stale endpoint -/

/-- The age from which on a peer is stale: the first whole millisecond above what it is allowed. -/
def staleAge (maxAge : Span) : Span := .ofMillis (min maxAge.millis maxMillis + 1)

theorem staleAge_nanos (maxAge : Span) :
    (staleAge maxAge).nanos = (min (maxAge.nanos / 1000000) maxMillis + 1) * 1000000 := rfl

theorem staleAge_mono {smaller : Span} (h : smaller.nanos ≤ maxAge.nanos) :
    (staleAge smaller).nanos ≤ (staleAge maxAge).nanos := by
  rw [staleAge_nanos, staleAge_nanos]
  omega

theorem lt_staleAge (h : maxAge.nanos ≤ (Span.ofMillis maxMillis).nanos) :
    maxAge.nanos < (staleAge maxAge).nanos := by
  unfold Span.ofMillis at h
  rw [staleAge_nanos]
  dsimp only at h
  omega

theorem staleAge_le (maxAge : Span) :
    (staleAge maxAge).nanos ≤ maxAge.nanos + (Span.ofMillis 1).nanos := by
  unfold Span.ofMillis
  rw [staleAge_nanos]
  dsimp only
  omega

/-- Above the milliseconds that are told apart, all greatest ages are the same. -/
theorem lt_staleAge_of_lt (h : (Span.ofMillis maxMillis).nanos < maxAge.nanos) :
    (Span.ofMillis maxMillis).nanos < (staleAge maxAge).nanos := by
  unfold Span.ofMillis at h ⊢
  rw [staleAge_nanos]
  dsimp only at h ⊢
  omega

/-! ## Stale endpoints -/

theorem isLocal_eq_false_iff : e.isLocal = false ↔ e.lifetime = .peer := by
  unfold isLocal
  cases e.lifetime <;> simp

theorem isStale_iff : e.isStale now maxAge = true ↔
    e.lifetime = .peer ∧ (staleAge maxAge).nanos ≤ (now.since e.lastSeen).nanos := by
  unfold isStale staleAge
  rw [Bool.and_eq_true, Bool.not_eq_true', isLocal_eq_false_iff, decide_eq_true_iff,
    Moment.lt_millisSince_iff]

theorem isStale_mono (h : e.isStale now maxAge = true) {later earlier : Moment} {smaller : Span}
    (hlater : now.nanos ≤ later.nanos) (hearlier : earlier.nanos ≤ e.lastSeen.nanos)
    (hsmaller : smaller.nanos ≤ maxAge.nanos) :
    { e with lastSeen := earlier }.isStale later smaller = true := by
  obtain ⟨hpeer, hage⟩ := isStale_iff.1 h
  have hbound : (staleAge smaller).nanos ≤ (staleAge maxAge).nanos := staleAge_mono hsmaller
  have hsince := Moment.since_le hlater hearlier
  exact isStale_iff.2 ⟨hpeer, by dsimp only; omega⟩

theorem isStale_of_le {later : Moment} (hle : now.nanos ≤ later.nanos)
    (h : e.isStale now maxAge = true) : e.isStale later maxAge = true :=
  isStale_mono h hle (Int.le_refl _) (Nat.le_refl _)

/-- An endpoint of this controller is never stale. A peer is stale only if it was last seen longer ago
than it may be, and it is stale once that is a millisecond longer. An age of more milliseconds than are
told apart is never reached, so a peer that may be silent for longer than that is never stale. A stale
peer is stale at every later moment, also if it was seen earlier and if less is allowed. -/
theorem staleness_brackets_the_age (e : Endpoint) (now : Moment) (maxAge : Span) :
    (e.lifetime = .local → e.isStale now maxAge = false) ∧
    (e.lifetime = .peer →
      (now.IsDated → e.lastSeen.IsDated → e.isStale now maxAge = true →
        (maxAge.nanos : Int) < (now.since e.lastSeen).nanos) ∧
      ((maxAge.nanos : Int) + (Span.ofMillis 1).nanos ≤ (now.since e.lastSeen).nanos →
        e.isStale now maxAge = true) ∧
      (now.IsDated → e.lastSeen.IsDated → (Span.ofMillis maxMillis).nanos < maxAge.nanos →
        (now.since e.lastSeen).nanos < maxAge.nanos ∧ e.isStale now maxAge = false) ∧
      (e.isStale now maxAge = true → ∀ (later earlier : Moment) (smaller : Span),
        now.nanos ≤ later.nanos → earlier.nanos ≤ e.lastSeen.nanos →
          smaller.nanos ≤ maxAge.nanos →
            { e with lastSeen := earlier }.isStale later smaller = true)) := by
  have hgreat : now.IsDated → e.lastSeen.IsDated →
      (Span.ofMillis maxMillis).nanos < maxAge.nanos →
        (now.since e.lastSeen).nanos < maxAge.nanos ∧ e.isStale now maxAge = false := by
    intro hnow hseen hmost
    have hsince := hnow.since_lt hseen
    refine ⟨by omega, Bool.eq_false_iff.2 fun hstale => ?_⟩
    have hage := (isStale_iff.1 hstale).2
    have hbound := lt_staleAge_of_lt hmost
    omega
  refine ⟨fun hlocal => ?_, fun hpeer => ⟨fun hnow hseen hstale => ?_, fun hage => ?_, hgreat,
    fun hstale later earlier smaller => isStale_mono hstale⟩⟩
  · refine Bool.eq_false_iff.2 fun hstale => ?_
    rw [(isStale_iff.1 hstale).1] at hlocal
    cases hlocal
  · rcases Nat.lt_or_ge (Span.ofMillis maxMillis).nanos maxAge.nanos with hmost | hmost
    · rw [(hgreat hnow hseen hmost).2] at hstale
      cases hstale
    · have hage := (isStale_iff.1 hstale).2
      have hbound := lt_staleAge hmost
      omega
  · have hbound := staleAge_le maxAge
    exact isStale_iff.2 ⟨hpeer, by omega⟩

/-- Six seconds are over with the millisecond behind them. -/
theorem agent_is_stale_a_millisecond_later :
    let e : Endpoint := ⟨"a:1", "h", .agentInternal, 1, .ofParts 1700000000 0, .peer⟩
    let now : Moment := .ofParts 1700000006 1000000
    let maxAge : Span := .ofSeconds 6
    e.lifetime = .peer ∧ now.IsDated ∧ e.lastSeen.IsDated ∧
      (maxAge.nanos : Int) + (Span.ofMillis 1).nanos ≤ (now.since e.lastSeen).nanos ∧
      e.isStale now maxAge = true ∧ (maxAge.nanos : Int) < (now.since e.lastSeen).nanos := by
  intro e now maxAge
  have hnow : now.IsDated := ⟨by decide, by decide⟩
  have hseen : e.lastSeen.IsDated := ⟨by decide, by decide⟩
  obtain ⟨hexceeds, hstale, -, -⟩ := (staleness_brackets_the_age e now maxAge).2 rfl
  have hage : (maxAge.nanos : Int) + (Span.ofMillis 1).nanos ≤ (now.since e.lastSeen).nanos := by
    decide
  exact ⟨rfl, hnow, hseen, hage, hstale hage, hexceeds hnow hseen (hstale hage)⟩

end Endpoint

end HostFleet
