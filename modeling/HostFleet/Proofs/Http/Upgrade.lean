import HostFleet.Proofs.Http.Framing
import HostFleet.Proofs.Text.Fields

/-! # Upgrades over several lines

A list of tokens may come in several lines of one name, which mean the same as one line with commas between
their values. Here it is said which of the lines count where an upgrade is asked for.

* `Headers.joined`: the lines of a name joined in one.
* `Upgrade.Names`: a list names a token; `namesToken_iff` says that such lists are recognised.
* `Upgrade.namesToken_intercalate`: joined lists name what one of them names.
* `Upgrade.IsOffered`: the first `Upgrade` line names the protocol.
* `Upgrade.the_first_line_asks`: an upgrade is seen if the first `Connection` line asks for it, and in the
  joined lines if any of them does.
-/

set_option autoImplicit false

namespace HostFleet.Http

/-! ## Joined lines -/

namespace Headers

variable {h : Headers} {name other : String} {value : Bytes}

/-- Several values in one, with commas between them. -/
def withCommas (vs : List Bytes) : Bytes := List.intercalate [0x2C] vs

/-- The lines of a name joined in one, at the place of the first. -/
def joined (name : String) : Headers → Headers
  | [] => []
  | line :: h =>
    if line.1 = name then (name, withCommas (line.2 :: values h name)) :: without h [name]
    else line :: joined name h

theorem values_joined (hsome : h.values name ≠ []) :
    (h.joined name).values name = [withCommas (h.values name)] := by
  induction h with
  | nil => exact absurd rfl hsome
  | cons line h ih =>
    unfold joined
    split
    · next hline =>
      rw [values_cons_of_eq rfl, values_without, if_pos (List.mem_singleton_self name),
        values_cons_of_eq hline]
    · next hline =>
      rw [values_cons_of_ne hline] at hsome ⊢
      rw [values_cons_of_ne hline, ih hsome]

theorem values_joined_of_ne (h : Headers) (hne : other ≠ name) :
    (h.joined name).values other = h.values other := by
  induction h with
  | nil => rfl
  | cons line h ih =>
    unfold joined
    split
    · next hline =>
      have hother : line.1 ≠ other := fun heq => hne (heq.symm.trans hline)
      rw [values_cons_of_ne hne.symm, values_cons_of_ne hother, values_without,
        if_neg (mt List.mem_singleton.1 hne)]
    · by_cases hother : line.1 = other
      · rw [values_cons_of_eq hother, values_cons_of_eq hother, ih]
      · rw [values_cons_of_ne hother, values_cons_of_ne hother, ih]

theorem joined_eq_self (hnone : h.values name = []) : h.joined name = h := by
  induction h with
  | nil => rfl
  | cons line h ih =>
    by_cases hline : line.1 = name
    · rw [values_cons_of_eq hline] at hnone
      cases hnone
    · rw [values_cons_of_ne hline] at hnone
      rw [joined, if_neg hline, ih hnone]

theorem first?_eq_head? (h : Headers) (name : String) : h.first? name = (h.values name).head? := by
  induction h with
  | nil => rfl
  | cons line h ih =>
    unfold first? at ih ⊢
    rw [List.lookup_cons]
    by_cases hline : line.1 = name
    · rw [values_cons_of_eq hline, hline, beq_self_eq_true, List.head?_cons]
    · rw [values_cons_of_ne hline, beq_false_of_ne fun heq => hline heq.symm, ih]

/-- The characters of a visible value. -/
def chars (value : Bytes) : List Char := value.map fun b => Char.ofNat b.toNat

theorem visible?_eq_some_iff {s : List Char} :
    visible? value = some s ↔ value.all isVisible = true ∧ s = chars value := by
  unfold visible?
  split
  · next hall => simp [hall, chars, eq_comm]
  · next hnot => simp [hnot]

theorem all_withCommas {vs : List Bytes} (hall : ∀ v ∈ vs, v.all isVisible = true) :
    (withCommas vs).all isVisible = true := by
  induction vs with
  | nil => rfl
  | cons v vs ih =>
    have hmore := ih fun w hw => hall w (List.mem_cons_of_mem v hw)
    have hfirst := hall v List.mem_cons_self
    cases vs with
    | nil => simpa [withCommas, List.intercalate_singleton] using hfirst
    | cons w vs =>
      unfold withCommas at hmore ⊢
      have hcomma : isVisible 0x2C = true := rfl
      rw [List.intercalate_cons_cons, List.all_append, List.all_append, hfirst, hmore, List.all_cons,
        hcomma]
      rfl

theorem chars_withCommas (vs : List Bytes) :
    chars (withCommas vs) = List.intercalate [','] (vs.map chars) := by
  induction vs with
  | nil => rfl
  | cons v vs ih =>
    cases vs with
    | nil => simp [withCommas, List.intercalate_singleton]
    | cons w vs =>
      unfold withCommas at ih ⊢
      rw [List.intercalate_cons_cons, List.map_cons, List.map_cons, List.intercalate_cons_cons,
        ← List.map_cons, ← ih]
      simp [chars]

end Headers

/-! ## Tokens -/

namespace Upgrade

open Headers (chars joined withCommas isVisible visible?)

variable {token value : List Char} {h : Headers}

/-- The text is the token, in any case of its letters and with white space around it. -/
def Spells (token s : List Char) : Prop :=
  ∃ word, Text.Pads word s ∧ word.map Char.toLower = token.map Char.toLower

/-- Between two commas of the list, or a comma and an end, stands the token. -/
def Names (token value : List Char) : Prop :=
  ∃ before part after, value = before ++ (part ++ after) ∧
    (before = [] ∨ ∃ front, before = front ++ [',']) ∧ (after = [] ∨ ∃ back, after = ',' :: back) ∧
    Spells token part

theorem toLower_cases (c : Char) :
    c.toLower = c ∨ 65 ≤ c.toNat ∧ c.toNat ≤ 90 ∧ c.toLower.toNat = c.toNat + 32 := by
  unfold Char.toLower
  split
  · next hupper =>
    have hlow : 65 ≤ c.toNat := hupper.1
    have hhigh : c.toNat ≤ 90 := hupper.2
    have hstep : ('a'.val - 'A'.val).toNat = 32 := rfl
    refine .inr ⟨hlow, hhigh, ?_⟩
    change (c.val + ('a'.val - 'A'.val)).toNat = c.val.toNat + 32
    have hrange : c.val.toNat ≤ 90 := hhigh
    rw [UInt32.toNat_add, hstep]
    omega
  · exact .inl rfl

theorem isBlank_toLower (c : Char) : Text.isBlank c.toLower = Text.isBlank c := by
  rcases toLower_cases c with hsame | ⟨hlow, hhigh, hlower⟩
  · rw [hsame]
  · rw [Text.isBlank_of_visible (by omega) (by omega), Text.isBlank_of_visible (by omega) (by omega)]

theorem toLower_eq_comma_iff {c : Char} : c.toLower = ',' ↔ c = ',' := by
  rcases toLower_cases c with hsame | ⟨hlow, -, hlower⟩
  · rw [hsame]
  · constructor
    · intro heq
      rw [heq] at hlower
      have hcomma : ','.toNat = 44 := rfl
      omega
    · rintro rfl
      rfl

/-- Can the character stand in a token? -/
def isSolid (c : Char) : Bool := c != ',' && !Text.isBlank c

theorem isSolid_iff {c : Char} : isSolid c = true ↔ c ≠ ',' ∧ Text.isBlank c = false := by
  simp [isSolid]

/-- A word that is spelled like a token has no comma and no white space either. -/
theorem isSolid_of_map_toLower {word : List Char} (htoken : token.all isSolid = true)
    (hword : word.map Char.toLower = token.map Char.toLower) :
    ∀ c ∈ word, c ≠ ',' ∧ Text.isBlank c = false := by
  intro c hc
  have hmem : c.toLower ∈ token.map Char.toLower := hword ▸ List.mem_map_of_mem hc
  obtain ⟨d, hd, hsame⟩ := List.mem_map.1 hmem
  obtain ⟨hcomma, hblank⟩ := isSolid_iff.1 (List.all_eq_true.1 htoken d hd)
  refine ⟨fun heq => hcomma ?_, ?_⟩
  · rw [← toLower_eq_comma_iff, hsame, toLower_eq_comma_iff, heq]
  · rw [← isBlank_toLower, ← hsame, isBlank_toLower, hblank]

theorem spells_iff (htoken : token.all isSolid = true) {s : List Char} :
    Spells token s ↔ sameLetters (Text.trimList s) token = true := by
  unfold Spells sameLetters
  rw [beq_iff_eq]
  constructor
  · rintro ⟨word, hpads, hsame⟩
    have hsolid := isSolid_of_map_toLower htoken hsame
    rw [hpads.trimList_eq, Text.trimList_of_forall_not_blank fun c hc => (hsolid c hc).2, hsame]
  · intro hsame
    exact ⟨Text.trimList s, Text.pads_trimList s, hsame⟩

theorem comma_not_mem_of_spells (htoken : token.all isSolid = true) {s : List Char}
    (h : Spells token s) : ',' ∉ s := by
  obtain ⟨word, ⟨front, back, hfront, hback, rfl⟩, hsame⟩ := h
  simp only [List.mem_append, not_or]
  exact ⟨fun hmem => absurd (hfront ',' hmem) (by decide),
    fun hmem => (isSolid_of_map_toLower htoken hsame ',' hmem).1 rfl,
    fun hmem => absurd (hback ',' hmem) (by decide)⟩

theorem namesToken_iff (htoken : token.all isSolid = true) :
    namesToken token value = true ↔ Names token value := by
  unfold namesToken Names
  simp only [List.any_eq_true, ← spells_iff htoken]
  constructor
  · rintro ⟨part, hpart, hspells⟩
    obtain ⟨-, before, after, hvalue, hbefore, hafter⟩ := Text.mem_fields_iff.1 hpart
    exact ⟨before, part, after, hvalue, hbefore, hafter, hspells⟩
  · rintro ⟨before, part, after, hvalue, hbefore, hafter, hspells⟩
    have hcomma := comma_not_mem_of_spells htoken hspells
    exact ⟨part, Text.mem_fields_iff.2 ⟨hcomma, before, after, hvalue, hbefore, hafter⟩, hspells⟩

/-- Joined lists name what one of them names. -/
theorem namesToken_intercalate {values : List (List Char)} (hne : values ≠ []) :
    namesToken token (List.intercalate [','] values) = values.any (namesToken token) := by
  unfold namesToken
  rw [Text.fields_intercalate hne, List.any_flatMap]

/-! ## Requests -/

/-- The value of an `Upgrade` line is the protocol's name; that of web sockets may be in any case. -/
def Offers : Upgrade → Bytes → Prop
  | tcp, value => ∃ s, visible? value = some s ∧ Text.Pads "tcp".toList s
  | webSocket, value => ∃ s, visible? value = some s ∧ Spells "websocket".toList s

/-- The first `Upgrade` line offers the protocol. -/
def IsOffered (u : Upgrade) (h : Headers) : Prop := ∃ v ∈ (h.values "upgrade").head?, Offers u v

/-- The protocol that a text names. -/
def ofText? (s : List Char) : Option Upgrade :=
  if Text.trimList s == "tcp".toList then some tcp
  else if sameLetters (Text.trimList s) "websocket".toList then some webSocket
  else none

theorem ofText?_eq_tcp_iff {s : List Char} : ofText? s = some tcp ↔ Text.Pads "tcp".toList s := by
  have hpads : Text.Pads "tcp".toList s ↔ Text.trimList s = "tcp".toList := by
    constructor
    · intro h
      rw [h.trimList_eq]
      decide
    · intro h
      exact h ▸ Text.pads_trimList s
  rw [hpads]
  unfold ofText?
  split
  · next htcp => exact iff_of_true rfl (beq_iff_eq.1 htcp)
  · next htcp =>
    have hother : ¬Text.trimList s = "tcp".toList := mt beq_iff_eq.2 htcp
    split
    · exact iff_of_false (fun h => nomatch h) hother
    · exact iff_of_false (fun h => nomatch h) hother

theorem ofText?_eq_webSocket_iff {s : List Char} :
    ofText? s = some webSocket ↔ Spells "websocket".toList s := by
  rw [spells_iff (by decide)]
  unfold ofText?
  split
  · next htcp =>
    rw [beq_iff_eq.1 htcp]
    decide
  · split
    · next hsame => exact iff_of_true rfl hsame
    · next hother => exact iff_of_false (fun h => nomatch h) hother

theorem offers_iff {u : Upgrade} {v : Bytes} :
    Offers u v ↔ ∃ s, visible? v = some s ∧ ofText? s = some u := by
  cases u with
  | tcp => simp only [Offers, ofText?_eq_tcp_iff]
  | webSocket => simp only [Offers, ofText?_eq_webSocket_iff]

/-- The protocol that the first `Upgrade` line offers. -/
def offered? (h : Headers) : Option Upgrade := (h.text? "upgrade").bind ofText?

theorem offered?_eq_some_iff {u : Upgrade} : offered? h = some u ↔ IsOffered u h := by
  unfold offered? Headers.text? IsOffered
  rw [Headers.first?_eq_head?, Option.bind_assoc]
  simp only [Option.bind_eq_some_iff, Option.mem_def, offers_iff]

/-- The value of a `Connection` line names the upgrade among its tokens. -/
def Asks (value : Bytes) : Prop :=
  ∃ s, visible? value = some s ∧ Names "upgrade".toList s

theorem asks_iff {value : Bytes} :
    Asks value ↔ value.all isVisible = true ∧ namesToken "upgrade".toList (chars value) = true := by
  have htoken : "upgrade".toList.all isSolid = true := by decide
  unfold Asks
  simp only [Headers.visible?_eq_some_iff, namesToken_iff htoken]
  constructor
  · rintro ⟨s, ⟨hall, rfl⟩, hnames⟩
    exact ⟨hall, hnames⟩
  · rintro ⟨hall, hnames⟩
    exact ⟨_, ⟨hall, rfl⟩, hnames⟩

/-- One line asks for what any of the lines asks for that are joined in it. -/
theorem asks_withCommas {vs : List Bytes} (hne : vs ≠ []) (hall : ∀ v ∈ vs, v.all isVisible = true) :
    Asks (withCommas vs) ↔ ∃ v ∈ vs, Asks v := by
  have hchars : vs.map chars ≠ [] := mt List.map_eq_nil_iff.1 hne
  rw [asks_iff, Headers.chars_withCommas, namesToken_intercalate hchars, List.any_map,
    List.any_eq_true]
  constructor
  · rintro ⟨-, v, hv, hnames⟩
    exact ⟨v, hv, asks_iff.2 ⟨hall v hv, hnames⟩⟩
  · rintro ⟨v, hv, hasks⟩
    exact ⟨Headers.all_withCommas hall, v, hv, (asks_iff.1 hasks).2⟩

theorem requested?_eq (h : Headers) : requested? h = (h.text? "connection").bind fun s =>
    if namesToken "upgrade".toList s then offered? h else none := by
  unfold requested? offered?
  cases h.text? "connection" with
  | none => rfl
  | some s =>
    rw [Option.bind_eq_bind, Option.bind_some, Option.bind_some]
    cases namesToken "upgrade".toList s <;> rfl

/-- An upgrade is seen if it is offered and the first `Connection` line asks for it. -/
theorem requested?_eq_some_iff {u : Upgrade} :
    requested? h = some u ↔ IsOffered u h ∧ ∃ v ∈ (h.values "connection").head?, Asks v := by
  rw [← offered?_eq_some_iff, requested?_eq, Headers.text?, Headers.first?_eq_head?]
  simp only [Option.bind_eq_some_iff, Headers.visible?_eq_some_iff, Option.mem_def, asks_iff,
    Option.ite_none_right_eq_some]
  constructor
  · rintro ⟨s, ⟨v, hv, hall, rfl⟩, hnames, hoffered⟩
    exact ⟨hoffered, v, hv, hall, hnames⟩
  · rintro ⟨hoffered, v, hv, hall, hnames⟩
    exact ⟨_, ⟨v, hv, hall, rfl⟩, hnames, hoffered⟩

theorem isOffered_joined {u : Upgrade} : IsOffered u (h.joined "connection") ↔ IsOffered u h := by
  unfold IsOffered
  rw [Headers.values_joined_of_ne h (by decide)]

theorem requested?_joined_eq_some_iff {u : Upgrade}
    (hall : ∀ v ∈ h.values "connection", v.all isVisible = true) :
    requested? (h.joined "connection") = some u ↔
      IsOffered u h ∧ ∃ v ∈ h.values "connection", Asks v := by
  rw [requested?_eq_some_iff, isOffered_joined]
  refine and_congr_right fun _ => ?_
  by_cases hnone : h.values "connection" = []
  · rw [Headers.joined_eq_self hnone, hnone]
    simp
  · rw [Headers.values_joined hnone, ← asks_withCommas hnone hall]
    simp

theorem asks_of_first (hfirst : ∃ v ∈ (h.values "connection").head?, Asks v) :
    ∃ v ∈ h.values "connection", Asks v := by
  obtain ⟨v, hv, hasks⟩ := hfirst
  exact ⟨v, List.mem_of_mem_head? hv, hasks⟩

/-- An upgrade is seen if a protocol is offered and the first `Connection` line names the upgrade among its
tokens. With the `Connection` lines joined in one, it is seen if any of them names it. So the answer is the
same for the lines as they are and for the joined ones exactly if nothing is offered, the first line asks,
or none does. -/
theorem the_first_line_asks (h : Headers)
    (hall : ∀ v ∈ h.values "connection", v.all isVisible = true) :
    (∀ u, requested? h = some u ↔
      IsOffered u h ∧ ∃ v ∈ (h.values "connection").head?, Asks v) ∧
    (∀ u, requested? (h.joined "connection") = some u ↔
      IsOffered u h ∧ ∃ v ∈ h.values "connection", Asks v) ∧
    (requested? h = requested? (h.joined "connection") ↔
      (∀ u, ¬IsOffered u h) ∨ (∃ v ∈ (h.values "connection").head?, Asks v) ∨
        ∀ v ∈ h.values "connection", ¬Asks v) := by
  refine ⟨fun u => requested?_eq_some_iff, fun u => requested?_joined_eq_some_iff hall, ?_, ?_⟩
  · intro hsame
    by_cases hany : ∃ v ∈ h.values "connection", Asks v
    · by_cases hoffered : ∃ u, IsOffered u h
      · obtain ⟨u, hoffered⟩ := hoffered
        have hseen : requested? h = some u :=
          hsame.trans ((requested?_joined_eq_some_iff hall).2 ⟨hoffered, hany⟩)
        exact .inr (.inl (requested?_eq_some_iff.1 hseen).2)
      · exact .inl fun u hu => hoffered ⟨u, hu⟩
    · exact .inr (.inr fun v hv hasks => hany ⟨v, hv, hasks⟩)
  · intro hcases
    refine Option.ext fun u => ?_
    rw [requested?_eq_some_iff, requested?_joined_eq_some_iff hall]
    refine and_congr_right fun hoffered => ⟨asks_of_first, fun ⟨v, hv, hasks⟩ => ?_⟩
    rcases hcases with hnone | hfirst | hnone
    · exact absurd hoffered (hnone u)
    · exact hfirst
    · exact absurd hasks (hnone v hv)

/-- The first of two `Connection` lines asks for the upgrade, in its own letters and between blanks. -/
def askedFirst : Headers :=
  [("connection", Bytes.ofText "close,  UpGrade "), ("connection", Bytes.ofText "keep-alive"),
    ("upgrade", Bytes.ofText "WebSocket")]

/-- The second of two `Connection` lines asks for the upgrade. -/
def askedLater : Headers :=
  [("connection", Bytes.ofText "keep-alive"), ("connection", Bytes.ofText "Upgrade"),
    ("upgrade", Bytes.ofText "tcp")]

/-- What the first line asks for is seen, in the lines as they are and in the joined ones. -/
theorem first_line_is_heard :
    (∀ v ∈ askedFirst.values "connection", v.all isVisible = true) ∧
      requested? askedFirst = requested? (askedFirst.joined "connection") ∧
      requested? askedFirst = some webSocket := by
  have hall : ∀ v ∈ askedFirst.values "connection", v.all isVisible = true := by decide +kernel
  have hseen : requested? askedFirst = some webSocket := by decide +kernel
  obtain ⟨hrequested, -, hsame⟩ := the_first_line_asks askedFirst hall
  exact ⟨hall, hsame.2 (.inr (.inl ((hrequested webSocket).1 hseen).2)), hseen⟩

/-- What a later line asks for is not seen, though it is in the joined lines. -/
theorem later_line_is_not_heard :
    (∀ line ∈ askedLater, line.2.all isVisible = true) ∧
      askedLater.joined "connection" =
        [("connection", Bytes.ofText "keep-alive,Upgrade"), ("upgrade", Bytes.ofText "tcp")] ∧
      requested? askedLater = none ∧
      requested? (askedLater.joined "connection") = some tcp := by
  decide +kernel

end Upgrade

end HostFleet.Http
