import HostFleet.Controller

/-! # Settings with which a controller starts

The settings are checked once, and then read again piece by piece by what starts. What was checked does
not fail there, on whatever machine.

* `Settings.validate_eq_ok_iff`: what the check asks for.
* `Settings.heartbeatIntervalSecs_le_of_ofSource`: an interval comes from a file or is the default, so that
  twice of it can be counted.
* `Controller.Refuses`: what a machine can have against a start.
* `Controller.refuses_of_listen`: a controller with checked settings that does not start is refused.
* `Controller.resolved_settings_start`: what resolved settings are good for.
-/

set_option autoImplicit false

namespace HostFleet

/-! ## Outcomes -/

section

variable {α β : Type} {first : Except Fault α} {second : α → Except Fault β} {fault : Fault}

/-- What fails in two parts fails in the first or, after it, in the second. -/
theorem of_bind_eq_error (h : first >>= second = .error fault) :
    first = .error fault ∨ ∃ a, first = .ok a ∧ second a = .error fault := by
  cases first with
  | error fault' =>
    injection h with h
    exact .inl (h ▸ rfl)
  | ok a => exact .inr ⟨a, rfl, h⟩

theorem of_bind_eq_ok {b : β} (h : first >>= second = .ok b) :
    ∃ a, first = .ok a ∧ second a = .ok b := by
  cases first with
  | error fault => cases h
  | ok a => exact ⟨a, rfl, h⟩

theorem of_mapError_eq_error {e : Except β α} {f : β → Fault} (h : e.mapError f = .error fault) :
    ∃ reason, e = .error reason ∧ fault = f reason := by
  cases e with
  | error reason =>
    injection h with h
    exact ⟨reason, rfl, h.symm⟩
  | ok a => cases h

theorem eq_ok_of_toOption {e : Except β α} {a : α} (h : e.toOption = some a) : e = .ok a := by
  cases e with
  | error reason => cases h
  | ok a' =>
    injection h with h
    rw [h]

end

/-! ## Addresses -/

namespace Address

theorem ne_empty_of_split? {address : String} {parts : String × String}
    (h : split? address = .ok parts) : address ≠ "" := by
  rintro rfl
  have hrefused : split? "" = .error (.invalidAddress "missing port in ") := rfl
  rw [hrefused] at h
  cases h

/-- The reasons for which an address cannot be taken apart, by how they begin. -/
theorem exists_reason_of_split? {address : String} {fault : Fault}
    (h : split? address = .error fault) :
    ∃ reason, fault = .invalidAddress reason ∧
      (reason.toList.head? = some 'u' ∨ reason.toList.head? = some 'm') := by
  have hcases : ∀ (protocol : String) (rest : List Char),
      (if protocol ≠ defaultProtocol then
        .error (.invalidAddress ("unsupported protocol " ++ protocol ++ " in " ++ address))
      else if (Text.cutLast ':' rest).isNone then
        .error (.invalidAddress ("missing port in " ++ address))
      else .ok (protocol, String.ofList rest) : Except Fault (String × String)) = .error fault →
      ∃ reason, fault = .invalidAddress reason ∧
        (reason.toList.head? = some 'u' ∨ reason.toList.head? = some 'm') := by
    intro protocol rest h
    split at h
    · injection h with h
      refine ⟨_, h.symm, .inl ?_⟩
      simp [String.toList_append]
    · split at h
      · injection h with h
        refine ⟨_, h.symm, .inr ?_⟩
        simp [String.toList_append]
      · cases h
  unfold split? at h
  cases hcut : Text.cutAt schemeMark address.toList with
  | none =>
    rw [hcut] at h
    exact hcases _ _ h
  | some parts =>
    rw [hcut] at h
    exact hcases _ _ h

end Address

namespace Settings

variable {s t : Settings}

/-! ## The check -/

/-- The three addresses at which a controller listens, in the order in which they are taken. -/
def listeners (s : Settings) : List String := [s.internalAddr, s.proxyAddr, s.monitorAddr]

theorem validate_eq_ok_iff : s.validate = .ok () ↔
    s.heartbeatIntervalSecs ≠ 0 ∧ (∃ group, s.group? = some group) ∧
      ∀ address ∈ s.listeners, ∃ parts, Address.split? address = .ok parts := by
  unfold validate listeners
  simp only [List.mem_cons, List.not_mem_nil, or_false, forall_eq_or_imp, forall_eq]
  by_cases hinterval : s.heartbeatIntervalSecs = 0
  · simp [hinterval]
  · rw [if_neg hinterval]
    cases s.group? with
    | none => simp
    | some group =>
      cases Address.split? s.proxyAddr with
      | error fault => simp [bind, Except.bind]
      | ok proxy =>
        cases Address.split? s.monitorAddr with
        | error fault => simp [bind, Except.bind]
        | ok monitor =>
          cases Address.split? s.internalAddr with
          | error fault => simp [bind, Except.bind]
          | ok internal => simp [bind, Except.bind, pure, Except.pure, hinterval]

/-! ## Where the interval comes from -/

theorem le_of_natural? {item : Toml.Item} {n : Nat} (h : natural? item = some n) :
    (n : Int) ≤ Decimal.maxInt64 := by
  unfold natural? integer? at h
  obtain ⟨i, hi, rfl⟩ := Option.map_eq_some_iff.1 h
  split at hi
  · split at hi
    · next hbounds =>
      injection hi with hi
      omega
    · cases hi
  · cases hi

theorem heartbeatIntervalSecs_le_of_ofFields? {fields : Toml.Fields}
    (h : ofFields? fields = some s) : (s.heartbeatIntervalSecs : Int) ≤ Decimal.maxInt64 := by
  unfold ofFields? at h
  simp only [Option.bind_eq_bind, Option.bind_eq_some_iff, Option.pure_def, Option.some.injEq] at h
  obtain ⟨_, -, _, -, _, -, _, -, _, -, interval, hinterval, _, -, _, -, _, -, _, -, _, -, rfl⟩ := h
  unfold valueOr at hinterval
  split at hinterval
  · exact le_of_natural? hinterval
  · injection hinterval with hinterval
    subst hinterval
    show (defaults.heartbeatIntervalSecs : Int) ≤ Decimal.maxInt64
    decide

theorem heartbeatIntervalSecs_le_of_ofSource {source : Source} (h : ofSource source = .ok s) :
    (s.heartbeatIntervalSecs : Int) ≤ Decimal.maxInt64 := by
  unfold ofSource at h
  split at h
  · injection h with h
    rw [← h]
    decide
  · cases h
  · unfold ofToml? at h
    split at h
    · next s' hs' =>
      injection h with h
      obtain ⟨fields, -, hfields⟩ := Option.bind_eq_some_iff.1 hs'
      exact h ▸ heartbeatIntervalSecs_le_of_ofFields? hfields
    · cases h

/-- No variable of the environment gives the interval. -/
theorem heartbeatIntervalSecs_override {env : Environment} (h : override env s = .ok t) :
    t.heartbeatIntervalSecs = s.heartbeatIntervalSecs := by
  unfold override at h
  simp only at h
  split at h
  · injection h with h
    rw [← h]
  · split at h
    · injection h with h
      rw [← h]
    · cases h

theorem of_resolve {source : Source} {env : Environment} (h : resolve source env = .ok s) :
    (s.heartbeatIntervalSecs : Int) ≤ Decimal.maxInt64 ∧ s.validate = .ok () := by
  unfold resolve at h
  obtain ⟨read, hread, h⟩ := of_bind_eq_ok h
  obtain ⟨given, hgiven, h⟩ := of_bind_eq_ok h
  obtain ⟨u, hvalid, h⟩ := of_bind_eq_ok h
  injection h with h
  subst h
  rw [heartbeatIntervalSecs_override hgiven]
  exact ⟨heartbeatIntervalSecs_le_of_ofSource hread, hvalid⟩

end Settings

/-! ## Starting -/

theorem Span.nanos_ofSeconds_pos {seconds : Nat} (h : 0 < seconds) : 0 < (ofSeconds seconds).nanos := by
  unfold ofSeconds ofParts
  exact Nat.add_pos_left (Nat.mul_pos h (by decide)) 0

namespace Controller

variable {σ : Type} {sockets : Sockets σ} {m : σ} {s : Settings} {fault : Fault}

/-- What a machine can have against a start: the port of the group, the group itself, or the address of
a listener is not to be had. -/
inductive Refuses (sockets : Sockets σ) (s : Settings) : Fault → Prop
  | take {m : σ} {group : SocketAddress} {reason : String} (hgroup : s.group? = some group)
      (htake : sockets.take m group.port = .error reason) : Refuses sockets s (.io reason)
  | join {m : σ} {group : SocketAddress} {reason : String} (hgroup : s.group? = some group)
      (hjoin : sockets.join m group = .error reason) :
      Refuses sockets s
        (.invalidAddress ("cannot join multicast group " ++ group.render ++ ": " ++ reason))
  | bind {m : σ} {address protocol socket reason : String} (haddress : address ∈ s.listeners)
      (hsplit : Address.split? address = .ok (protocol, socket))
      (hbind : sockets.bind m socket = .error reason) : Refuses sockets s (.io reason)

namespace Refuses

/-- A machine that refuses the group does not find fault with its text. -/
theorem ne_invalid_group (h : Refuses sockets s fault) (text : String) :
    fault ≠ .invalidAddress ("invalid multicast address " ++ text) := by
  cases h with
  | take hgroup htake => exact nofun
  | bind haddress hsplit hbind => exact nofun
  | join hgroup hjoin =>
    intro heq
    injection heq with heq
    have hhead := congrArg (fun reason => reason.toList.head?) heq
    simp [String.toList_append] at hhead

theorem split?_ne (h : Refuses sockets s fault) (address : String) :
    Address.split? address ≠ .error fault := by
  intro hsplit
  obtain ⟨reason, rfl, hreason⟩ := Address.exists_reason_of_split? hsplit
  cases h with
  | join hgroup hjoin => simp [String.toList_append] at hreason

end Refuses

theorem refuses_of_joinGroup (hgroup : ∃ group, s.group? = some group)
    (h : joinGroup sockets m s = .error fault) : Refuses sockets s fault := by
  obtain ⟨group, hgroup⟩ := hgroup
  unfold joinGroup at h
  rw [hgroup] at h
  rcases of_bind_eq_error h with htaken | ⟨taken, -, h⟩
  · obtain ⟨reason, htake, rfl⟩ := of_mapError_eq_error htaken
    exact .take hgroup htake
  · rcases of_bind_eq_error h with hjoined | ⟨joined, -, h⟩
    · obtain ⟨reason, hjoin, rfl⟩ := of_mapError_eq_error hjoined
      exact .join hgroup hjoin
    · cases h

theorem refuses_of_bindAddress {address : String} (haddress : address ∈ s.listeners)
    (hsplit : ∃ parts, Address.split? address = .ok parts)
    (h : bindAddress sockets m address = .error fault) : Refuses sockets s fault := by
  obtain ⟨⟨protocol, socket⟩, hsplit⟩ := hsplit
  unfold bindAddress at h
  rw [hsplit] at h
  obtain ⟨reason, hbind, rfl⟩ := of_mapError_eq_error h
  exact .bind haddress hsplit hbind

/-- With checked settings only the machine can refuse a start. -/
theorem refuses_of_listen (hvalid : s.validate = .ok ())
    (h : listen sockets m s = .error fault) : Refuses sockets s fault := by
  obtain ⟨-, hgroup, hsplit⟩ := Settings.validate_eq_ok_iff.1 hvalid
  have hbound : ∀ {m : σ} {address : String}, address ∈ s.listeners →
      bindAddress sockets m address = .error fault → Refuses sockets s fault :=
    fun haddress => refuses_of_bindAddress haddress (hsplit _ haddress)
  unfold listen at h
  -- Each address is taken only after those before it.
  rcases of_bind_eq_error h with hjoined | ⟨⟨m₁, group⟩, -, h⟩
  · exact refuses_of_joinGroup hgroup hjoined
  rcases of_bind_eq_error h with hreport | ⟨⟨m₂, report⟩, -, h⟩
  · exact hbound (by simp [Settings.listeners]) hreport
  rcases of_bind_eq_error h with hproxy | ⟨⟨m₃, proxy⟩, -, h⟩
  · exact hbound (by simp [Settings.listeners]) hproxy
  rcases of_bind_eq_error h with hmonitor | ⟨⟨m₄, monitor⟩, -, h⟩
  · exact hbound (by simp [Settings.listeners]) hmonitor
  · cases h

end Controller

/-- A controller with resolved settings beats, can tell when a peer is lost, and is kept from starting by
its machine alone: neither its group nor an address is found wrong when it is read again. -/
theorem Controller.resolved_settings_start {s : Settings} {source : Settings.Source}
    {env : Settings.Environment} (h : Settings.resolve source env = .ok s) :
    0 < s.heartbeatInterval.nanos ∧
      s.maxHeartbeatAge? = some (2 * s.heartbeatIntervalSecs) ∧
      ∀ {σ : Type} (sockets : Sockets σ) (m : σ) (fault : Fault),
        listen sockets m s = .error fault →
          Refuses sockets s fault ∧
          fault ≠ .invalidAddress ("invalid multicast address " ++ s.multicastAddr) ∧
          ∀ address ∈ s.listeners, Address.split? address ≠ .error fault := by
  obtain ⟨hle, hvalid⟩ := Settings.of_resolve h
  obtain ⟨hpositive, -, -⟩ := Settings.validate_eq_ok_iff.1 hvalid
  refine ⟨Span.nanos_ofSeconds_pos (Nat.pos_of_ne_zero hpositive), ?_,
    fun sockets m fault hfault => ?_⟩
  · have hint : Decimal.maxInt64 = 9223372036854775807 := rfl
    have hnat : Decimal.maxNat64 = 18446744073709551615 := rfl
    have hfits : 2 * s.heartbeatIntervalSecs ≤ Decimal.maxNat64 := by omega
    unfold Settings.maxHeartbeatAge?
    exact if_pos hfits
  · have hrefuses := refuses_of_listen hvalid hfault
    exact ⟨hrefuses, hrefuses.ne_invalid_group _, fun address _ => hrefuses.split?_ne address⟩

/-- The longest interval that a file can give, and an address without a scheme from the environment. -/
def Settings.farBeats : Settings :=
  { Settings.defaults with
    proxyAddr := "0.0.0.0:80"
    heartbeatIntervalSecs := 9223372036854775807 }

theorem Controller.far_beats_start :
    Settings.resolve (.text "heartbeat_interval_secs = 9223372036854775807")
        [("FLEET_PROXY_ADDR", Bytes.ofText "0.0.0.0:80")] = .ok .farBeats ∧
      0 < Settings.farBeats.heartbeatInterval.nanos ∧
      Settings.farBeats.maxHeartbeatAge? = some (2 * Settings.farBeats.heartbeatIntervalSecs) ∧
      ∀ {σ : Type} (sockets : Sockets σ) (m : σ) (fault : Fault),
        listen sockets m .farBeats = .error fault →
          Refuses sockets .farBeats fault ∧
          fault ≠ .invalidAddress ("invalid multicast address " ++ Settings.farBeats.multicastAddr) ∧
          ∀ address ∈ Settings.farBeats.listeners, Address.split? address ≠ .error fault := by
  have hresolve : Settings.resolve (.text "heartbeat_interval_secs = 9223372036854775807")
      [("FLEET_PROXY_ADDR", Bytes.ofText "0.0.0.0:80")] = .ok .farBeats := by
    have hread : (Settings.resolve (.text "heartbeat_interval_secs = 9223372036854775807")
        [("FLEET_PROXY_ADDR", Bytes.ofText "0.0.0.0:80")]).toOption = some .farBeats := by
      decide +kernel
    exact eq_ok_of_toOption hread
  exact ⟨hresolve, resolved_settings_start hresolve⟩

end HostFleet
