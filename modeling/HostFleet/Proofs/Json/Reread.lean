import HostFleet.Json.Document
import HostFleet.Proofs.Json.Lexing

/-! # Written values read again

* `Node.tokens`: the tokens of a tree; `ofTokens?_tokens`: the tree is built from them again.
* `Json.reread?`: the tree that a value is read as when it was written. Only of a number it is not plain
  what that is: it is asked what its spelling is read as.
* `parse?_render`: that is the tree of the compact text.
-/

set_option autoImplicit false

namespace HostFleet.Json

open Bytes (ofChars ofChars_cons ofChars_append)

/-! ## Trees -/

namespace Node

mutual

/-- The tokens of a tree. -/
def tokens : Node → List Token
  | null => [.null]
  | bool b => [.bool b]
  | number value => [.number value]
  | string value => [.string value]
  | array [] => [.openArray, .closeArray]
  | array (item :: items) => .openArray :: tokens item ++ itemsTokens items ++ [.closeArray]
  | object [] => [.openObject, .closeObject]
  | object ((name, value) :: fields) =>
    .openObject :: .string name :: .colon :: tokens value ++ fieldsTokens fields ++ [.closeObject]

/-- The tokens of the items after the first. -/
def itemsTokens : List Node → List Token
  | [] => []
  | item :: items => .comma :: tokens item ++ itemsTokens items

/-- The tokens of the fields after the first. -/
def fieldsTokens : List (Option String × Node) → List Token
  | [] => []
  | (name, value) :: fields =>
    .comma :: .string name :: .colon :: tokens value ++ fieldsTokens fields

end

theorem foldlM_of_step {a b : Builder} {t : Token} (h : a.step t = some b) (ts : List Token) :
    (t :: ts).foldlM Builder.step a = ts.foldlM Builder.step b := by
  rw [List.foldlM_cons, h]
  rfl

/-- No tree begins with the mark by which an array would end. -/
theorem foldlM_firstItem (n : Node) (stack : List Frame) (rest : List Token) :
    (n.tokens ++ rest).foldlM Builder.step ⟨stack, .firstItem⟩ =
      (n.tokens ++ rest).foldlM Builder.step ⟨stack, .value⟩ := by
  match n with
  | null => rfl
  | bool b => rfl
  | number value => rfl
  | string value => rfl
  | array [] => rfl
  | array (item :: items) => rfl
  | object [] => rfl
  | object ((name, value) :: fields) => rfl

mutual

theorem foldlM_tokens (n : Node) (stack : List Frame) (rest : List Token) :
    (n.tokens ++ rest).foldlM Builder.step ⟨stack, .value⟩ =
      rest.foldlM Builder.step (.put stack n) := by
  match n with
  | null => rfl
  | bool b => rfl
  | number value => rfl
  | string value => rfl
  | array [] => rfl
  | array (item :: items) =>
    have hopen : ((array (item :: items)).tokens ++ rest).foldlM Builder.step ⟨stack, .value⟩ =
        (item.tokens ++ (itemsTokens items ++ .closeArray :: rest)).foldlM Builder.step
          ⟨.items [] :: stack, .firstItem⟩ := by
      simp only [tokens, List.cons_append, List.append_assoc, List.nil_append]
      rfl
    have hput : Builder.put (.items [] :: stack) item = ⟨.items [item] :: stack, .more⟩ := rfl
    rw [hopen, foldlM_firstItem, foldlM_tokens item, hput, foldlM_itemsTokens items]
    refine (foldlM_of_step (b := .put stack (.array (items.reverse ++ [item]).reverse)) rfl
      rest).trans ?_
    rw [List.reverse_append, List.reverse_reverse, List.reverse_singleton, List.singleton_append]
  | object [] => rfl
  | object ((name, value) :: fields) =>
    have hopen : ((object ((name, value) :: fields)).tokens ++ rest).foldlM Builder.step
        ⟨stack, .value⟩ = (value.tokens ++ (fieldsTokens fields ++ .closeObject :: rest)).foldlM
          Builder.step ⟨.fields [] name :: stack, .value⟩ := by
      simp only [tokens, List.cons_append, List.append_assoc, List.nil_append]
      rfl
    have hput : Builder.put (.fields [] name :: stack) value =
        ⟨.fields [(name, value)] none :: stack, .more⟩ := rfl
    rw [hopen, foldlM_tokens value, hput, foldlM_fieldsTokens fields]
    refine (foldlM_of_step (b := .put stack (.object (fields.reverse ++ [(name, value)]).reverse)) rfl
      rest).trans ?_
    rw [List.reverse_append, List.reverse_reverse, List.reverse_singleton, List.singleton_append]

theorem foldlM_itemsTokens (items done : List Node) (stack : List Frame) (rest : List Token) :
    (itemsTokens items ++ rest).foldlM Builder.step ⟨.items done :: stack, .more⟩ =
      rest.foldlM Builder.step ⟨.items (items.reverse ++ done) :: stack, .more⟩ := by
  match items with
  | [] => rfl
  | item :: items =>
    have hcomma : (itemsTokens (item :: items) ++ rest).foldlM Builder.step
        ⟨.items done :: stack, .more⟩ = (item.tokens ++ (itemsTokens items ++ rest)).foldlM
          Builder.step ⟨.items done :: stack, .value⟩ := by
      simp only [itemsTokens, List.cons_append, List.append_assoc]
      rfl
    have hput : Builder.put (.items done :: stack) item = ⟨.items (item :: done) :: stack, .more⟩ := rfl
    rw [hcomma, foldlM_tokens item, hput, foldlM_itemsTokens items, List.reverse_cons,
      List.append_assoc, List.singleton_append]

theorem foldlM_fieldsTokens (fields done : List (Option String × Node)) (stack : List Frame)
    (rest : List Token) :
    (fieldsTokens fields ++ rest).foldlM Builder.step ⟨.fields done none :: stack, .more⟩ =
      rest.foldlM Builder.step ⟨.fields (fields.reverse ++ done) none :: stack, .more⟩ := by
  match fields with
  | [] => rfl
  | (name, value) :: fields =>
    have hcomma : (fieldsTokens ((name, value) :: fields) ++ rest).foldlM Builder.step
        ⟨.fields done none :: stack, .more⟩ = (value.tokens ++ (fieldsTokens fields ++ rest)).foldlM
          Builder.step ⟨.fields done name :: stack, .value⟩ := by
      simp only [fieldsTokens, List.cons_append, List.append_assoc]
      rfl
    have hput : Builder.put (.fields done name :: stack) value =
        ⟨.fields ((name, value) :: done) none :: stack, .more⟩ := rfl
    rw [hcomma, foldlM_tokens value, hput, foldlM_fieldsTokens fields, List.reverse_cons,
      List.append_assoc, List.singleton_append]

end

/-- A tree is built again from its tokens. -/
theorem ofTokens?_tokens (n : Node) : ofTokens? n.tokens = some n := by
  have hbuilt : n.tokens.foldlM Builder.step ⟨[], .value⟩ = some ⟨[], .done n⟩ := by
    rw [← List.append_nil n.tokens, foldlM_tokens]
    rfl
  unfold ofTokens?
  rw [hbuilt]

end Node

/-! ## Values -/

/-- The tree of a numeral. -/
def numeralNode? (w : List Char) : Option Node :=
  (Numeral.read? w).map fun x => .number x.value?

/-- The tree of a number as it is spelled; what is no number is spelled as the word for nothing. -/
def Number.reread? : Number → Option Node
  | .integer value => numeralNode? (toString value).toList
  | .double bits =>
    match Decimal.Binary.ofBits bits with
    | some b => numeralNode? (numberStyle.format b)
    | none => some .null

mutual

/-- The tree that a value is read as when it was written. -/
def reread? : Json → Option Node
  | null => some .null
  | bool b => some (.bool b)
  | number n => n.reread?
  | text s => some (.string (some s))
  | array items => (rereadItems? items).map .array
  | object fields => (rereadFields? fields).map .object

def rereadItems? : List Json → Option (List Node)
  | [] => some []
  | item :: items =>
    (reread? item).bind fun node => (rereadItems? items).map fun nodes => node :: nodes

def rereadFields? : List (String × Json) → Option (List (Option String × Node))
  | [] => some []
  | (name, value) :: fields =>
    (reread? value).bind fun node =>
      (rereadFields? fields).map fun nodes => (some name, node) :: nodes

end

theorem rereadItems?_eq_mapM (items : List Json) : rereadItems? items = items.mapM reread? := by
  induction items with
  | nil => rfl
  | cons item items ih =>
    rw [rereadItems?, List.mapM_cons, ih]
    cases reread? item with
    | none => rfl
    | some node => cases items.mapM reread? <;> rfl

/-- An object is read again as its first field and the others. -/
theorem reread?_object_cons {name text : String} {fields : List (String × Json)} {node : Node}
    (h : reread? (.object ((name, .text text) :: fields)) = some node) :
    ∃ nodes, node = .object ((some name, .string (some text)) :: nodes) := by
  obtain ⟨nodes, hnodes, rfl⟩ := Option.map_eq_some_iff.1 h
  obtain ⟨first, hfirst, hmore⟩ := Option.bind_eq_some_iff.1 hnodes
  obtain ⟨rest, -, rfl⟩ := Option.map_eq_some_iff.1 hmore
  cases hfirst
  exact ⟨rest, rfl⟩

/-! ## Texts -/

namespace Lexer

theorem endsNumber_nil : EndsNumber [] := fun _ hb => nomatch hb

theorem endsNumber_cons {c : Char} (hc : Text.Punycode.isAscii c = true)
    (h : isNumberByte (UInt8.ofNat c.toNat) = false) (rest : Bytes) :
    EndsNumber (String.utf8EncodeChar c ++ rest) := by
  rw [Bytes.utf8EncodeChar_of_isAscii hc]
  intro b hb
  have hfirst : UInt8.ofNat c.toNat = b := Option.some.inj hb
  exact hfirst ▸ h

theorem endsNumber_itemsChars (items : List Json) {rest : Bytes} (h : EndsNumber rest) :
    EndsNumber (ofChars (itemsChars items) ++ rest) := by
  cases items with
  | nil => exact h
  | cons item items =>
    rw [itemsChars, List.cons_append, ofChars_cons, List.append_assoc]
    exact endsNumber_cons rfl rfl _

theorem endsNumber_fieldsChars (fields : List (String × Json)) {rest : Bytes} (h : EndsNumber rest) :
    EndsNumber (ofChars (fieldsChars fields) ++ rest) := by
  cases fields with
  | nil => exact h
  | cons field fields =>
    obtain ⟨name, value⟩ := field
    rw [fieldsChars, List.cons_append, List.cons_append, ofChars_cons, List.append_assoc]
    exact endsNumber_cons rfl rfl _

theorem outcome_number_chars (n : Number) (tokens : List Token) {rest : Bytes} (h : EndsNumber rest) :
    Run.outcome ⟨.idle, tokens⟩ (ofChars n.chars ++ rest) =
      n.reread?.bind fun node => Run.outcome ⟨.idle, node.tokens.reverse ++ tokens⟩ rest := by
  have hnumeral : ∀ {w : List Char}, w ≠ [] ∧ (∀ c ∈ w, isNumberChar c = true) →
      Run.outcome ⟨.idle, tokens⟩ (ofChars w ++ rest) =
        (numeralNode? w).bind fun node => Run.outcome ⟨.idle, node.tokens.reverse ++ tokens⟩ rest := by
    intro w hw
    rw [outcome_numeral hw.1 hw.2 h]
    unfold numeralNode?
    rw [Option.bind_map]
    rfl
  cases n with
  | integer value => exact hnumeral (isNumberChar_toString value)
  | double bits =>
    unfold Number.chars Number.reread?
    dsimp only
    cases Decimal.Binary.ofBits bits with
    | none => exact outcome_null tokens rest
    | some b => exact hnumeral (isNumberChar_format b)

mutual

theorem outcome_chars (j : Json) (tokens : List Token) {rest : Bytes} (h : EndsNumber rest) :
    Run.outcome ⟨.idle, tokens⟩ (ofChars j.chars ++ rest) =
      j.reread?.bind fun node => Run.outcome ⟨.idle, node.tokens.reverse ++ tokens⟩ rest := by
  match j with
  | .null => exact outcome_null tokens rest
  | .bool true => exact outcome_true tokens rest
  | .bool false => exact outcome_false tokens rest
  | .number n => exact outcome_number_chars n tokens h
  | .text s => exact outcome_stringChars s tokens rest
  | .array [] => rfl
  | .array (item :: items) =>
    have hchars : ofChars (chars (.array (item :: items))) ++ rest =
        String.utf8EncodeChar '[' ++ (ofChars item.chars ++
          (ofChars (itemsChars items) ++ (String.utf8EncodeChar ']' ++ rest))) := by
      simp only [chars, ofChars_append, ofChars_cons, List.cons_append, List.append_assoc]
      rfl
    have hend : EndsNumber (String.utf8EncodeChar ']' ++ rest) := endsNumber_cons rfl rfl rest
    rw [hchars, outcome_mark (t := .openArray) _ _ rfl rfl,
      outcome_chars item _ (endsNumber_itemsChars items hend)]
    simp only [outcome_itemsChars items _ hend,
      outcome_mark (c := ']') (t := .closeArray) _ _ rfl rfl, reread?, rereadItems?, Node.tokens,
      Option.bind_assoc, Option.bind_map, Function.comp_def, List.reverse_append,
      List.reverse_cons, List.reverse_nil, List.nil_append, List.append_assoc, List.cons_append]
  | .object [] => rfl
  | .object ((name, value) :: fields) =>
    have hchars : ofChars (chars (.object ((name, value) :: fields))) ++ rest =
        String.utf8EncodeChar '{' ++ (ofChars (stringChars name) ++
          (String.utf8EncodeChar ':' ++ (ofChars value.chars ++
            (ofChars (fieldsChars fields) ++ (String.utf8EncodeChar '}' ++ rest))))) := by
      simp only [chars, ofChars_append, ofChars_cons, List.cons_append, List.append_assoc]
      rfl
    have hend : EndsNumber (String.utf8EncodeChar '}' ++ rest) := endsNumber_cons rfl rfl rest
    rw [hchars, outcome_mark (t := .openObject) _ _ rfl rfl, outcome_stringChars,
      outcome_mark (t := .colon) _ _ rfl rfl,
      outcome_chars value _ (endsNumber_fieldsChars fields hend)]
    simp only [outcome_fieldsChars fields _ hend,
      outcome_mark (c := '}') (t := .closeObject) _ _ rfl rfl, reread?, rereadFields?, Node.tokens,
      Option.bind_assoc, Option.bind_map, Function.comp_def, List.reverse_append,
      List.reverse_cons, List.reverse_nil, List.nil_append, List.append_assoc, List.cons_append]

theorem outcome_itemsChars (items : List Json) (tokens : List Token) {rest : Bytes}
    (h : EndsNumber rest) : Run.outcome ⟨.idle, tokens⟩ (ofChars (itemsChars items) ++ rest) =
      (rereadItems? items).bind fun nodes =>
        Run.outcome ⟨.idle, (Node.itemsTokens nodes).reverse ++ tokens⟩ rest := by
  match items with
  | [] => rfl
  | item :: items =>
    have hchars : ofChars (itemsChars (item :: items)) ++ rest =
        String.utf8EncodeChar ',' ++ (ofChars item.chars ++ (ofChars (itemsChars items) ++ rest)) := by
      simp only [itemsChars, ofChars_append, ofChars_cons, List.cons_append, List.append_assoc]
    rw [hchars, outcome_mark (t := .comma) _ _ rfl rfl,
      outcome_chars item _ (endsNumber_itemsChars items h)]
    simp only [outcome_itemsChars items _ h, rereadItems?, Node.itemsTokens, Option.bind_assoc,
      Option.bind_map, Function.comp_def, List.reverse_append, List.reverse_cons,
      List.nil_append, List.append_assoc, List.cons_append]

theorem outcome_fieldsChars (fields : List (String × Json)) (tokens : List Token) {rest : Bytes}
    (h : EndsNumber rest) : Run.outcome ⟨.idle, tokens⟩ (ofChars (fieldsChars fields) ++ rest) =
      (rereadFields? fields).bind fun nodes =>
        Run.outcome ⟨.idle, (Node.fieldsTokens nodes).reverse ++ tokens⟩ rest := by
  match fields with
  | [] => rfl
  | (name, value) :: fields =>
    have hchars : ofChars (fieldsChars ((name, value) :: fields)) ++ rest =
        String.utf8EncodeChar ',' ++ (ofChars (stringChars name) ++
          (String.utf8EncodeChar ':' ++ (ofChars value.chars ++
            (ofChars (fieldsChars fields) ++ rest)))) := by
      simp only [fieldsChars, ofChars_append, ofChars_cons, List.cons_append, List.append_assoc]
    rw [hchars, outcome_mark (t := .comma) _ _ rfl rfl, outcome_stringChars,
      outcome_mark (t := .colon) _ _ rfl rfl,
      outcome_chars value _ (endsNumber_fieldsChars fields h)]
    simp only [outcome_fieldsChars fields _ h, rereadFields?, Node.fieldsTokens, Option.bind_assoc,
      Option.bind_map, Function.comp_def, List.reverse_append, List.reverse_cons,
      List.nil_append, List.append_assoc, List.cons_append]

end

end Lexer

theorem chars_ne_nil (j : Json) : j.chars ≠ [] := by
  match j with
  | .null => exact List.cons_ne_nil _ _
  | .bool true => exact List.cons_ne_nil _ _
  | .bool false => exact List.cons_ne_nil _ _
  | .number (.integer value) => exact (isNumberChar_toString value).1
  | .number (.double bits) =>
    show Number.chars (.double bits) ≠ []
    unfold Number.chars
    dsimp only
    cases Decimal.Binary.ofBits bits with
    | none => exact List.cons_ne_nil _ _
    | some b => exact (isNumberChar_format b).1
  | .text s => exact List.cons_ne_nil _ _
  | .array [] => exact List.cons_ne_nil _ _
  | .array (item :: items) => exact List.cons_ne_nil _ _
  | .object [] => exact List.cons_ne_nil _ _
  | .object ((name, value) :: fields) => exact List.cons_ne_nil _ _

theorem ofText_render_ne_nil (j : Json) : Bytes.ofText j.render ≠ [] := by
  refine Bytes.ofText_ne_nil ?_
  intro hempty
  exact j.chars_ne_nil (String.ofList_eq_empty_iff.1 hempty)

/-- What is read of the compact text. -/
theorem parse?_render (j : Json) : Node.parse? (Bytes.ofText j.render) = j.reread? := by
  have htokens : tokens? (Bytes.ofText j.render) = j.reread?.map Node.tokens := by
    have hchars := Lexer.outcome_chars j [] Lexer.endsNumber_nil
    rw [List.append_nil] at hchars
    have hbytes : Bytes.ofText j.render = ofChars j.chars := Bytes.ofText_ofList j.chars
    rw [hbytes, Lexer.tokens?_eq, hchars]
    cases j.reread? with
    | none => rfl
    | some node =>
      show some (node.tokens.reverse ++ []).reverse = some node.tokens
      rw [List.append_nil, List.reverse_reverse]
  unfold Node.parse?
  rw [htokens]
  cases j.reread? with
  | none => rfl
  | some node => exact Node.ofTokens?_tokens node

end HostFleet.Json
