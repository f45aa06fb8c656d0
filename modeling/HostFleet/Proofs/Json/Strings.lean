import HostFleet.Json.Document
import HostFleet.Proofs.Text.Utf8

/-! # Texts that are a string

What is read as a string is a single token, and every byte of the string was paid for by a byte of the text,
its quotes not counted. So no text is read as a string of itself.

* `Token.weight`, `Run.weight`: the bytes that a token and a state account for.
* `weight_step`: a byte adds no more than one.
* `ofTokens?_eq_string`: a string is read from one token only.
* `length_lt_of_parse?`: a string is shorter than the text that it is read from.
-/

set_option autoImplicit false

namespace HostFleet.Json

/-! ## Weights -/

/-- The bytes of the string, and its quotes. -/
def Token.weight : Token → Nat
  | .string (some s) => (Bytes.ofText s).length + 2
  | _ => 0

/-- What some tokens account for. -/
def weights : List Token → Nat
  | [] => 0
  | t :: ts => t.weight + weights ts

theorem weights_append (ts us : List Token) : weights (ts ++ us) = weights ts + weights us := by
  induction ts with
  | nil => exact (Nat.zero_add _).symm
  | cons t ts ih => rw [List.cons_append, weights, weights, ih, Nat.add_assoc]

theorem weights_reverse (ts : List Token) : weights ts.reverse = weights ts := by
  induction ts with
  | nil => rfl
  | cons t ts ih =>
    rw [List.reverse_cons, weights_append, ih, weights, weights, weights]
    omega

namespace Lexer

/-- What is read of an escape. -/
def weightOf : StringState → Nat
  | .plain => 0
  | .escape => 1
  | .unit _ missing => 6 - missing

/-- What is read of a string; the first half of a pair is not yet among its bytes. -/
def stringWeight (s : StringReading) : Nat :=
  1 + s.bytes.length + weightOf s.state + if s.high.isSome then 6 else 0

def weight : Lexer → Nat
  | .idle => 0
  | .word _ token => token.weight
  | .number _ => 0
  | .string s => stringWeight s

/-- What the tokens and the state account for. -/
def Run.weight (r : Run) : Nat := r.state.weight + weights r.tokens

theorem length_ofText_singleton (c : Char) : (Bytes.ofText c.toString).length ≤ 4 := by
  rw [Bytes.ofText_toString, String.length_utf8EncodeChar]
  exact c.utf8Size_le_four

theorem stringWeight_push (s : StringReading) (bytes : Bytes) :
    stringWeight (s.push bytes) = 1 + (bytes.length + s.bytes.length) := by
  unfold stringWeight StringReading.push
  simp only [List.length_append, List.length_reverse, weightOf, Option.isSome_none,
    Bool.false_eq_true, if_false, Nat.add_zero]

/-- A code unit has taken six bytes, and makes four at most; the first half of a pair makes none yet. -/
theorem stringWeight_pushUnit (s : StringReading) (n : Nat) {value : Nat}
    (hstate : s.state = .unit value 1) : stringWeight (s.pushUnit n) ≤ stringWeight s + 1 := by
  have hs : 1 + s.bytes.length + 5 ≤ stringWeight s := by
    unfold stringWeight
    rw [hstate]
    exact Nat.le_add_right _ _
  unfold StringReading.pushUnit
  split
  · split
    · dsimp only
      generalize Char.ofNat _ = c
      have hlength := length_ofText_singleton c
      rw [stringWeight_push]
      show 1 + ((Bytes.ofText c.toString).length + s.bytes.length) ≤ stringWeight s + 1
      omega
    · rw [stringWeight_push, List.length_nil]
      omega
  · next hhigh =>
    split
    · unfold stringWeight at hs ⊢
      rw [hstate]
      simp only [weightOf, Option.isSome_some, if_true]
      omega
    · split
      · unfold stringWeight at hs ⊢
        rw [hstate, hhigh]
        simp only [weightOf]
        omega
      · have hlength := length_ofText_singleton (Char.ofNat n)
        rw [stringWeight_push]
        omega

theorem stringWeight_step {s t : StringReading} {b : UInt8} (h : s.step b = some t) :
    stringWeight t ≤ stringWeight s + 1 := by
  unfold StringReading.step at h
  split at h
  · next hstate =>
    split at h
    · cases h
      unfold stringWeight
      rw [hstate]
      simp only [weightOf]
      omega
    · split at h
      · cases h
      · cases h
        rw [stringWeight_push]
        unfold stringWeight
        simp only [List.length_singleton]
        omega
  · next hstate =>
    split at h
    · cases h
      unfold stringWeight
      rw [hstate]
      simp only [weightOf]
      omega
    · obtain ⟨c, -, rfl⟩ := Option.map_eq_some_iff.1 h
      rw [stringWeight_push]
      unfold stringWeight
      simp only [List.length_singleton]
      omega
  · next value missing hstate =>
    obtain ⟨d, -, rfl⟩ := Option.map_eq_some_iff.1 h
    dsimp only
    split
    · next hone =>
      subst hone
      exact stringWeight_pushUnit s _ hstate
    · unfold stringWeight
      rw [hstate]
      simp only [weightOf]
      omega

theorem weight_finish (s : StringReading) :
    (Token.string s.finish).weight ≤ stringWeight s + 1 := by
  unfold StringReading.finish
  split
  · cases htext : Bytes.text? s.bytes.reverse with
    | none => exact Nat.zero_le _
    | some text =>
      have hlength := congrArg List.length (Bytes.text?_eq_some_iff.1 htext)
      rw [List.length_reverse] at hlength
      show (Bytes.ofText text).length + 2 ≤ stringWeight s + 1
      unfold stringWeight
      omega
  · exact Nat.zero_le _

theorem weight_fresh {tokens : List Token} {b : UInt8} {r : Run} (h : Run.fresh tokens b = some r) :
    r.weight ≤ weights tokens + 1 := by
  obtain ⟨⟨state, token⟩, hfresh, rfl⟩ := Option.map_eq_some_iff.1 h
  have hlight : state.weight + weights token.toList ≤ 1 := by
    have hall : ∀ n < 256, ∀ found ∈ Lexer.fresh (UInt8.ofNat n),
        found.1.weight + weights found.2.toList ≤ 1 := by
      decide +kernel
    have hb : UInt8.ofNat b.toNat = b := UInt8.ofNat_toNat
    have hfound := hall b.toNat b.toNat_lt
    rw [hb] at hfound
    exact hfound (state, token) hfresh
  show state.weight + weights (token.toList ++ tokens) ≤ _
  rw [weights_append]
  omega

/-- A byte adds no more than one to what is accounted for. -/
theorem weight_step {r s : Run} {b : UInt8} (h : r.step b = some s) : s.weight ≤ r.weight + 1 := by
  obtain ⟨state, tokens⟩ := r
  cases state with
  | idle =>
    have hfresh : s.weight ≤ weights tokens + 1 := weight_fresh h
    show s.weight ≤ 0 + weights tokens + 1
    omega
  | word missing token =>
    cases missing with
    | nil =>
      have hfresh := weight_fresh h
      rw [weights] at hfresh
      exact hfresh
    | cons c missing =>
      unfold Run.step at h
      dsimp only at h
      split at h
      · split at h
        · cases h
          show 0 + weights (token :: tokens) ≤ token.weight + weights tokens + 1
          rw [weights]
          omega
        · cases h
          exact Nat.le_succ _
      · cases h
  | number chars =>
    unfold Run.step at h
    dsimp only at h
    split at h
    · cases h
      exact Nat.le_succ _
    · obtain ⟨token, htoken, hfresh⟩ := Option.bind_eq_some_iff.1 h
      obtain ⟨x, -, rfl⟩ := Option.map_eq_some_iff.1 htoken
      have hweight := weight_fresh hfresh
      rw [weights] at hweight
      exact hweight
  | string reading =>
    unfold Run.step at h
    dsimp only at h
    split at h
    · have hfinish := weight_finish reading
      cases h
      show 0 + weights (Token.string reading.finish :: tokens) ≤
        stringWeight reading + weights tokens + 1
      rw [weights]
      omega
    · obtain ⟨next, hnext, rfl⟩ := Option.map_eq_some_iff.1 h
      have hstep := stringWeight_step hnext
      show stringWeight next + weights tokens ≤
        stringWeight reading + weights tokens + 1
      omega

theorem weight_foldlM {bytes : Bytes} {r s : Run} (h : bytes.foldlM Run.step r = some s) :
    s.weight ≤ r.weight + bytes.length := by
  induction bytes generalizing r with
  | nil =>
    cases h
    exact Nat.le_refl _
  | cons b bytes ih =>
    rw [List.foldlM_cons] at h
    obtain ⟨t, hstep, hmore⟩ := Option.bind_eq_some_iff.1 h
    have hfirst := weight_step hstep
    have hrest := ih hmore
    rw [List.length_cons]
    omega

end Lexer

/-- The tokens account for no more than there was. -/
theorem weight_tokens? {bytes : Bytes} {ts : List Token} (h : tokens? bytes = some ts) :
    weights ts ≤ bytes.length := by
  obtain ⟨found, hfound, rfl⟩ := Option.map_eq_some_iff.1 h
  obtain ⟨r, hrun, hfinish⟩ := Option.bind_eq_some_iff.1 hfound
  have hweight := Lexer.weight_foldlM hrun
  have hstart : (⟨.idle, []⟩ : Lexer.Run).weight = 0 := rfl
  have hend : weights found ≤ r.weight := by
    obtain ⟨state, tokens⟩ := r
    cases state with
    | idle =>
      cases hfinish
      exact Nat.le_add_left _ _
    | number chars =>
      obtain ⟨token, htoken, rfl⟩ := Option.map_eq_some_iff.1 hfinish
      obtain ⟨x, -, rfl⟩ := Option.map_eq_some_iff.1 htoken
      exact Nat.le_refl _
    | word missing token => cases hfinish
    | string reading => cases hfinish
  rw [weights_reverse]
  omega

/-! ## Trees of one token -/

namespace Node

/-- What is under way is an array or an object. -/
def Builder.IsCompound (b : Builder) : Prop :=
  match b.expect with
  | .done node => ∀ value, node ≠ .string value
  | .value | .firstItem | .more => b.stack ≠ []
  | _ => True

theorem isCompound_put {stack : List Frame} {node : Node}
    (h : stack ≠ [] ∨ ∀ value, node ≠ .string value) : (Builder.put stack node).IsCompound := by
  cases stack with
  | nil => exact h.resolve_left (fun hne => hne rfl)
  | cons frame stack => cases frame <;> exact List.cons_ne_nil _ _

theorem isCompound_value {stack : List Frame} {t : Token} {b : Builder}
    (h : Builder.value stack t = some b) (hstack : stack ≠ []) : b.IsCompound := by
  unfold Builder.value at h
  split at h
  · cases h
    exact isCompound_put (.inl hstack)
  · cases h
    exact isCompound_put (.inl hstack)
  · cases h
    exact isCompound_put (.inl hstack)
  · cases h
    exact isCompound_put (.inl hstack)
  · cases h
    exact List.cons_ne_nil _ _
  · cases h
    exact trivial
  · cases h

theorem isCompound_step {b c : Builder} {t : Token} (hb : b.IsCompound) (h : b.step t = some c) :
    c.IsCompound := by
  have harray : ∀ (items : List Node) (value : Option String), Node.array items ≠ .string value :=
    fun _ _ heq => nomatch heq
  have hobject : ∀ (fields : List (Option String × Node)) (value : Option String),
      Node.object fields ≠ .string value := fun _ _ heq => nomatch heq
  unfold Builder.step at h
  split at h
  · next hexpect =>
    unfold Builder.IsCompound at hb
    rw [hexpect] at hb
    exact isCompound_value h hb
  · split at h
    · cases h
      exact isCompound_put (.inr (harray _))
    · cases h
  · next hexpect _ =>
    unfold Builder.IsCompound at hb
    rw [hexpect] at hb
    exact isCompound_value h hb
  · cases h
    exact isCompound_put (.inr (hobject _))
  · cases h
    exact trivial
  · cases h
    exact trivial
  · cases h
    exact List.cons_ne_nil _ _
  · split at h
    · cases h
      exact List.cons_ne_nil _ _
    · cases h
      exact trivial
    · cases h
  · split at h
    · cases h
      exact isCompound_put (.inr (harray _))
    · cases h
  · split at h
    · cases h
      exact isCompound_put (.inr (hobject _))
    · cases h
  · cases h

theorem isCompound_foldlM {ts : List Token} {b c : Builder} (hb : b.IsCompound)
    (h : ts.foldlM Builder.step b = some c) : c.IsCompound := by
  induction ts generalizing b with
  | nil =>
    cases h
    exact hb
  | cons t ts ih =>
    rw [List.foldlM_cons] at h
    obtain ⟨d, hstep, hmore⟩ := Option.bind_eq_some_iff.1 h
    exact ih (isCompound_step hb hstep) hmore

/-- Nothing may stand behind a complete tree. -/
theorem foldlM_done {ts : List Token} {stack : List Frame} {node : Node} {b : Builder}
    (h : ts.foldlM Builder.step ⟨stack, .done node⟩ = some b) : ts = [] ∧ b = ⟨stack, .done node⟩ := by
  cases ts with
  | nil =>
    cases h
    exact ⟨rfl, rfl⟩
  | cons t ts =>
    rw [List.foldlM_cons] at h
    obtain ⟨d, hstep, -⟩ := Option.bind_eq_some_iff.1 h
    cases t <;> cases hstep

/-- A string is read from one token only. -/
theorem ofTokens?_eq_string {ts : List Token} {value : Option String}
    (h : ofTokens? ts = some (.string value)) : ts = [.string value] := by
  unfold ofTokens? at h
  split at h
  · next stack node hbuilt =>
    injection h with h
    subst h
    cases ts with
    | nil => cases hbuilt
    | cons t ts =>
      rw [List.foldlM_cons] at hbuilt
      obtain ⟨b, hstep, hmore⟩ := Option.bind_eq_some_iff.1 hbuilt
      have hcompound : ¬b.IsCompound := by
        intro hb
        exact isCompound_foldlM hb hmore value rfl
      cases t with
      | null =>
        cases hstep
        cases (foldlM_done hmore).2
      | bool b =>
        cases hstep
        cases (foldlM_done hmore).2
      | number x =>
        cases hstep
        cases (foldlM_done hmore).2
      | string found =>
        cases hstep
        obtain ⟨rfl, hsame⟩ := foldlM_done hmore
        cases hsame
        rfl
      | openArray =>
        cases hstep
        exact absurd (List.cons_ne_nil _ _) hcompound
      | openObject =>
        cases hstep
        exact absurd trivial hcompound
      | closeArray => cases hstep
      | closeObject => cases hstep
      | colon => cases hstep
      | comma => cases hstep
  · cases h

/-- A string is shorter than the text that it is read from. -/
theorem length_lt_of_parse? {bytes : Bytes} {s : String}
    (h : parse? bytes = some (.string (some s))) : (Bytes.ofText s).length < bytes.length := by
  obtain ⟨ts, htokens, htree⟩ := Option.bind_eq_some_iff.1 h
  have hweight := weight_tokens? htokens
  rw [ofTokens?_eq_string htree] at hweight
  have hone : weights [Token.string (some s)] = (Bytes.ofText s).length + 2 := rfl
  omega

end Node

end HostFleet.Json
