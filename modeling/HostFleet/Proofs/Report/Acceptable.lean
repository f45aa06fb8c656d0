import HostFleet.Report.Interleaving

/-! # Acceptable payloads

* `Decodes`: what each command requires of its data.
* `Acceptable`: a payload is data in front of one of the eight commands, and decodes as that requires.
* `exists_decode?_iff`, `exists_change?_iff`: exactly such data and such payloads ask for a change.
-/

set_option autoImplicit false

namespace HostFleet.Report

open Json (Node)

variable {α : Type} {read : Nat → Node → Option α} {data payload : Bytes} {command : ReportCommand}

/-! ## What a command requires -/

/-- The data is a JSON text that makes a record. -/
def MakesRecord (read : Nat → Node → Option α) (data : Bytes) : Prop :=
  ∃ node record, Node.parse? data = some node ∧ read Change.recordDepth node = some record

/-- The data is a JSON array of which every element makes a record. -/
def MakesRecords (read : Nat → Node → Option α) (data : Bytes) : Prop :=
  ∃ items, Node.parse? data = some (.array items) ∧
    ∀ item ∈ items, ∃ record, read (Change.recordDepth - 1) item = some record

/-- The data is a text that is, between white space, the bare id or a JSON string of it. -/
def NamesContainer (id : String) (data : Bytes) : Prop :=
  ∃ text, data = Bytes.ofText text ∧
    let inner := Text.trimList text.toList
    (inner.head? ≠ some '"' ∧ String.ofList inner = id) ∨
      (inner.head? = some '"' ∧
        Node.parse? (Bytes.ofText (String.ofList inner)) = some (.string (some id)))

/-- The data is what the command requires. -/
def Decodes (data : Bytes) : ReportCommand → Prop
  | .imageList => MakesRecords ImageRecord.ofNode? data
  | .imageCreated | .imageUpdated | .imageDeleted => MakesRecord ImageRecord.ofNode? data
  | .containerList => MakesRecords ContainerRecord.ofNode? data
  | .containerCreated | .containerUpdated => MakesRecord ContainerRecord.ofNode? data
  | .containerDeleted => ∃ id, id ≠ "" ∧ NamesContainer id data

/-- The payload is data and a command, and the data is what the command requires. -/
def Acceptable (payload : Bytes) : Prop :=
  ∃ data command, data ≠ [] ∧ payload = Envelope.join data command.wireName ∧ Decodes data command

/-! ## Decoding -/

theorem exists_decodeOne?_iff :
    (∃ record, Change.decodeOne? read data = .ok record) ↔ MakesRecord read data := by
  unfold Change.decodeOne? MakesRecord
  cases Node.parse? data with
  | none => simp
  | some node =>
    rw [Option.bind_some]
    cases hread : read Change.recordDepth node with
    | none => simp [hread]
    | some record => simp [hread]

theorem exists_mapM_iff {β : Type} {f : α → Option β} {l : List α} :
    (∃ results, l.mapM f = some results) ↔ ∀ x ∈ l, ∃ y, f x = some y := by
  induction l with
  | nil => simp
  | cons x l ih =>
    rw [List.forall_mem_cons, ← ih, List.mapM_cons]
    cases f x with
    | none => simp
    | some y => cases l.mapM f <;> simp

theorem exists_decodeList?_iff :
    (∃ records, Change.decodeList? read data = .ok records) ↔ MakesRecords read data := by
  have hlist : (∃ records, Change.decodeList? read data = .ok records) ↔
      ∃ records, (Node.parse? data).bind (Change.readList? read) = some records := by
    unfold Change.decodeList?
    cases (Node.parse? data).bind (Change.readList? read) <;> simp
  rw [hlist]
  unfold MakesRecords
  constructor
  · rintro ⟨records, h⟩
    obtain ⟨node, hparse, hread⟩ := Option.bind_eq_some_iff.1 h
    unfold Change.readList? at hread
    split at hread
    · next items => exact ⟨items, hparse, exists_mapM_iff.1 ⟨records, hread⟩⟩
    · cases hread
  · rintro ⟨items, hparse, hitems⟩
    obtain ⟨records, hrecords⟩ := exists_mapM_iff.2 hitems
    exact ⟨records, Option.bind_eq_some_iff.2 ⟨.array items, hparse, hrecords⟩⟩

/-- A JSON text is read as a string exactly if it is one that has a value. -/
theorem bind_string?_eq_some_iff {text : Bytes} {s : String} :
    (Node.parse? text).bind (·.string?) = some s ↔
      Node.parse? text = some (.string (some s)) := by
  rw [Option.bind_eq_some_iff]
  constructor
  · rintro ⟨node, hparse, hstring⟩
    unfold Node.string? at hstring
    split at hstring
    · rw [hparse, hstring]
    · cases hstring
  · intro h
    exact ⟨_, h, rfl⟩

theorem nonempty_eq_ok_iff (found : Except Fault String) {id : String} :
    (match found with
      | .ok id => if id.isEmpty then .error (.badParameter "empty container id") else .ok id
      | .error fault => .error fault : Except Fault String) = .ok id ↔
        id ≠ "" ∧ found = .ok id := by
  cases found with
  | error fault => simp
  | ok found =>
    dsimp only
    split
    · next hempty =>
      rw [String.isEmpty_iff] at hempty
      constructor
      · intro h
        cases h
      · rintro ⟨hne, h⟩
        injection h with h
        exact absurd (h.symm.trans hempty) hne
    · next hempty =>
      rw [String.isEmpty_iff] at hempty
      constructor
      · intro h
        refine ⟨?_, h⟩
        injection h with h
        exact fun hid => hempty (h.trans hid)
      · exact fun h => h.2

/-- The id that a deletion names is found, and it is never empty. -/
theorem containerId?_eq_ok_iff {id : String} :
    Change.containerId? data = .ok id ↔ id ≠ "" ∧ NamesContainer id data := by
  unfold Change.containerId? NamesContainer
  cases htext : Bytes.text? data with
  | none =>
    have hnot : ∀ text, data ≠ Bytes.ofText text := by
      intro text hdata
      rw [Bytes.text?_eq_some_iff.2 hdata] at htext
      cases htext
    simp [hnot]
  | some text =>
    obtain rfl := Bytes.text?_eq_some_iff.1 htext
    have honly : ∀ text', Bytes.ofText text = Bytes.ofText text' ↔ text = text' :=
      fun text' => ⟨Bytes.ofText_injective, congrArg _⟩
    simp only [honly, exists_eq_left']
    generalize Text.trimList text.toList = inner
    refine (nonempty_eq_ok_iff _).trans (and_congr_right fun _ => ?_)
    split
    · next inner =>
      have hhead : ('"' :: inner).head? = some '"' := rfl
      simp only [hhead, ne_eq, not_true_eq_false, false_and, true_and, false_or]
      rw [← bind_string?_eq_some_iff]
      split
      · next found hfound =>
        rw [hfound]
        simp
      · next hfound =>
        rw [hfound]
        simp
    · next hbare =>
      have hhead : inner.head? ≠ some '"' := by
        intro h
        obtain ⟨tail, htail⟩ := List.head?_eq_some_iff.1 h
        exact hbare tail htail
      simp [hhead]

theorem exists_decode?_iff :
    (∃ change, Change.decode? command data = .ok change) ↔ Decodes data command := by
  have hmap : ∀ {β : Type} (decoded : Except Fault β) (f : β → Change),
      (∃ change, decoded.map f = .ok change) ↔ ∃ x, decoded = .ok x := by
    intro β decoded f
    cases decoded <;> simp [Except.map]
  cases command with
  | imageList | containerList => exact (hmap _ _).trans exists_decodeList?_iff
  | imageCreated | imageUpdated | imageDeleted | containerCreated | containerUpdated =>
    exact (hmap _ _).trans exists_decodeOne?_iff
  | containerDeleted =>
    refine (hmap _ _).trans ?_
    simp only [containerId?_eq_ok_iff, Decodes]

/-! ## Opening -/

theorem opened?_eq_ok_iff : opened? payload = .ok (command, data) ↔
    data ≠ [] ∧ payload = Envelope.join data command.wireName := by
  have hsplit : opened? payload = .ok (command, data) ↔
      ∃ name, Envelope.split payload = some (data, name) ∧
        ReportCommand.ofWire? name = some command := by
    unfold opened?
    cases Envelope.split payload with
    | none => simp
    | some found =>
      obtain ⟨data', name⟩ := found
      dsimp only
      cases hcommand : ReportCommand.ofWire? name with
      | none => simp; grind
      | some command' => simp; grind
  rw [hsplit]
  simp only [Envelope.split_eq_some_iff, ReportCommand.ofWire?_eq_some_iff]
  constructor
  · rintro ⟨name, ⟨hdata, hpayload, -⟩, rfl⟩
    exact ⟨hdata, hpayload⟩
  · rintro ⟨hdata, hpayload⟩
    exact ⟨Bytes.ofText command.wireName, ⟨hdata, hpayload, command.space_not_mem_wireName⟩, rfl⟩

theorem exists_change?_iff :
    (∃ change, Reporter.change? payload = .ok change) ↔ Acceptable payload := by
  unfold Reporter.change? Acceptable
  constructor
  · rintro ⟨change, h⟩
    cases hopened : opened? payload with
    | error fault =>
      rw [hopened] at h
      cases h
    | ok found =>
      obtain ⟨command, data⟩ := found
      rw [hopened] at h
      obtain ⟨hdata, hpayload⟩ := opened?_eq_ok_iff.1 hopened
      exact ⟨data, command, hdata, hpayload, exists_decode?_iff.1 ⟨change, h⟩⟩
  · rintro ⟨data, command, hdata, hpayload, hdecodes⟩
    obtain ⟨change, hchange⟩ := exists_decode?_iff.2 hdecodes
    refine ⟨change, ?_⟩
    rw [opened?_eq_ok_iff.2 ⟨hdata, hpayload⟩]
    exact hchange

end HostFleet.Report
