import HostFleet.Engine.Basic
import HostFleet.Proofs.Record.Layout
import HostFleet.Record.Image

/-! # Records are written as they were read

* `ContainerRecord.layout`, `ImageRecord.layout`, `Engine.Options.layout`: the layouts of the records that
  keep other fields.
* `records_are_faithful`: each of them is read again from what is written.
-/

set_option autoImplicit false

namespace HostFleet

open ContainerRecord.toJson (textField textsField)
open Json (IsWhole Node Parts toNode)

namespace ContainerRecord

/-- The known fields as they are written. -/
def known (r : ContainerRecord) : List (String × Json) :=
  [("Id", .text r.id)] ++ textField "Image" r.image ++ textField "Command" r.command ++
    [("Created", Json.ofInt r.created)] ++ textField "Status" r.status ++
    textsField "Names" r.names ++ textField "Host" r.host

def build? (depth : Nat) (p : Parts) : Option ContainerRecord := do
  return {
    id := ← p.required "Id" (·.string?)
    image := ← p.optional "Image" "" (·.string?)
    command := ← p.optional "Command" "" (·.string?)
    created := ← p.optional "Created" 0 (·.int64?)
    status := ← p.optional "Status" "" (·.string?)
    names := ← p.optional "Names" [] (·.strings?)
    host := ← p.optional "Host" "" (·.string?)
    extra := ← p.extra? depth }

theorem build?_eq_some_iff {depth : Nat} {p : Parts} {r : ContainerRecord} :
    build? depth p = some r ↔
      p.required "Id" (·.string?) = some r.id ∧ p.optional "Image" "" (·.string?) = some r.image ∧
      p.optional "Command" "" (·.string?) = some r.command ∧
      p.optional "Created" 0 (·.int64?) = some r.created ∧
      p.optional "Status" "" (·.string?) = some r.status ∧
      p.optional "Names" [] (·.strings?) = some r.names ∧
      p.optional "Host" "" (·.string?) = some r.host ∧ p.extra? depth = some r.extra := by
  unfold build?
  simp only [Option.bind_eq_bind, Option.bind_eq_some_iff, Option.pure_def, Option.some.injEq]
  constructor
  · rintro ⟨id, hid, image, himage, command, hcommand, created, hcreated, status, hstatus, names,
      hnames, host, hhost, extra, hextra, rfl⟩
    exact ⟨hid, himage, hcommand, hcreated, hstatus, hnames, hhost, hextra⟩
  · rintro ⟨hid, himage, hcommand, hcreated, hstatus, hnames, hhost, hextra⟩
    exact ⟨_, hid, _, himage, _, hcommand, _, hcreated, _, hstatus, _, hnames, _, hhost, _, hextra, rfl⟩

theorem build?_again {depth : Nat} {p q : Parts} {r : ContainerRecord} (h : build? depth p = some r)
    (hq : ∀ name ∈ fieldNames, q.known.lookup name = (r.known.lookup name).map toNode)
    (hextra : q.extra? depth = some r.extra) : build? depth q = some r := by
  obtain ⟨-, -, -, hcreated, -, -, -, -⟩ := build?_eq_some_iff.1 h
  simp only [fieldNames, List.forall_mem_cons, known, List.lookup_append, Json.lookup_textField,
    Json.lookup_textsField, Book.lookup_cons, List.lookup_nil, String.reduceEq, if_true, if_false,
    Option.or_none, Option.none_or, Option.map_some] at hq
  obtain ⟨hid, himage, hcommand, hcreated', hstatus, hnames, hhost, -⟩ := hq
  exact build?_eq_some_iff.2 ⟨Json.required_text hid, Json.optional_text himage,
    Json.optional_text hcommand, Json.optional_int64 hcreated hcreated', Json.optional_text hstatus,
    Json.optional_texts hnames, Json.optional_text hhost, hextra⟩

def layout : Layout ContainerRecord where
  canonical := canonical
  names := fieldNames
  build? := build?
  known := known
  extra := extra
  nodup := by decide
  canonical_of_mem := by decide
  sublist r := by
    have hnames : fieldNames = ["Id"] ++ ["Image"] ++ ["Command"] ++ ["Created"] ++ ["Status"] ++
      ["Names"] ++ ["Host"] := rfl
    unfold known
    rw [hnames]
    simp only [List.map_append]
    exact ((((((List.Sublist.refl _).append (Json.names_textField ..)).append
      (Json.names_textField ..)).append (.refl _)).append (Json.names_textField ..)).append
      (Json.names_textsField ..)).append (Json.names_textField ..)
  extra?_of_build? h := (build?_eq_some_iff.1 h).2.2.2.2.2.2.2
  build?_again := build?_again

theorem read_layout : layout.read = ofNode? := by
  funext depth node
  cases node <;> rfl

theorem written_layout (r : ContainerRecord) : .object (layout.written r) = r.toJson := by
  show Json.object (r.known ++ r.extra) = r.toJson
  unfold known toJson
  simp only [List.append_assoc, List.cons_append, List.nil_append]

theorem ofNode?_succ {depth : Nat} {node : Node} {r : ContainerRecord}
    (h : ofNode? depth node = some r) : ofNode? (depth + 1) node = some r := by
  rw [← read_layout] at h ⊢
  refine layout.read_succ (fun hbuild => ?_) h
  obtain ⟨hid, himage, hcommand, hcreated, hstatus, hnames, hhost, hextra⟩ :=
    build?_eq_some_iff.1 hbuild
  exact build?_eq_some_iff.2
    ⟨hid, himage, hcommand, hcreated, hstatus, hnames, hhost, Parts.extra?_succ hextra⟩

theorem ofNode?_toNode {depth : Nat} {fields : List (Option String × Node)} {r : ContainerRecord}
    (h : ofNode? depth (.object fields) = some r) : ofNode? depth r.toJson.toNode = some r := by
  rw [← read_layout] at h ⊢
  rw [← written_layout]
  exact layout.read_written h

end ContainerRecord

/-! ## Images -/

namespace ImageRecord

/-- The known fields as they are written. -/
def known (r : ImageRecord) : List (String × Json) :=
  [("Id", .text r.id)] ++ textsField "RepoTags" r.repoTags ++
    [("Created", Json.ofInt r.created)] ++ [("Size", Json.ofInt r.size)] ++
    [("VirtualSize", Json.ofInt r.virtualSize)] ++ textField "ParentId" r.parentId ++
    textField "Host" r.host

def build? (depth : Nat) (p : Parts) : Option ImageRecord := do
  return {
    id := ← p.required "Id" (·.string?)
    repoTags := ← p.optional "RepoTags" [] (·.strings?)
    created := ← p.optional "Created" 0 (·.int64?)
    size := ← p.optional "Size" 0 (·.nat64?)
    virtualSize := ← p.optional "VirtualSize" 0 (·.nat64?)
    parentId := ← p.optional "ParentId" "" (·.string?)
    host := ← p.optional "Host" "" (·.string?)
    extra := ← p.extra? depth }

theorem build?_eq_some_iff {depth : Nat} {p : Parts} {r : ImageRecord} :
    build? depth p = some r ↔
      p.required "Id" (·.string?) = some r.id ∧
      p.optional "RepoTags" [] (·.strings?) = some r.repoTags ∧
      p.optional "Created" 0 (·.int64?) = some r.created ∧
      p.optional "Size" 0 (·.nat64?) = some r.size ∧
      p.optional "VirtualSize" 0 (·.nat64?) = some r.virtualSize ∧
      p.optional "ParentId" "" (·.string?) = some r.parentId ∧
      p.optional "Host" "" (·.string?) = some r.host ∧ p.extra? depth = some r.extra := by
  unfold build?
  simp only [Option.bind_eq_bind, Option.bind_eq_some_iff, Option.pure_def, Option.some.injEq]
  constructor
  · rintro ⟨id, hid, repoTags, hrepoTags, created, hcreated, size, hsize, virtualSize, hvirtualSize,
      parentId, hparentId, host, hhost, extra, hextra, rfl⟩
    exact ⟨hid, hrepoTags, hcreated, hsize, hvirtualSize, hparentId, hhost, hextra⟩
  · rintro ⟨hid, hrepoTags, hcreated, hsize, hvirtualSize, hparentId, hhost, hextra⟩
    exact ⟨_, hid, _, hrepoTags, _, hcreated, _, hsize, _, hvirtualSize, _, hparentId, _, hhost, _,
      hextra, rfl⟩

theorem build?_again {depth : Nat} {p q : Parts} {r : ImageRecord} (h : build? depth p = some r)
    (hq : ∀ name ∈ fieldNames, q.known.lookup name = (r.known.lookup name).map toNode)
    (hextra : q.extra? depth = some r.extra) : build? depth q = some r := by
  obtain ⟨-, -, hcreated, hsize, hvirtualSize, -, -, -⟩ := build?_eq_some_iff.1 h
  simp only [fieldNames, List.forall_mem_cons, known, List.lookup_append, Json.lookup_textField,
    Json.lookup_textsField, Book.lookup_cons, List.lookup_nil, String.reduceEq, if_true, if_false,
    Option.or_none, Option.none_or, Option.map_some] at hq
  obtain ⟨hid, hrepoTags, hcreated', hsize', hvirtualSize', hparentId, hhost, -⟩ := hq
  exact build?_eq_some_iff.2 ⟨Json.required_text hid, Json.optional_texts hrepoTags,
    Json.optional_int64 hcreated hcreated', Json.optional_nat64 hsize hsize',
    Json.optional_nat64 hvirtualSize hvirtualSize', Json.optional_text hparentId,
    Json.optional_text hhost, hextra⟩

def layout : Layout ImageRecord where
  canonical := canonical
  names := fieldNames
  build? := build?
  known := known
  extra := extra
  nodup := by decide
  canonical_of_mem := by decide
  sublist r := by
    have hnames : fieldNames = ["Id"] ++ ["RepoTags"] ++ ["Created"] ++ ["Size"] ++ ["VirtualSize"] ++
      ["ParentId"] ++ ["Host"] := rfl
    unfold known
    rw [hnames]
    simp only [List.map_append]
    exact ((((((List.Sublist.refl _).append (Json.names_textsField ..)).append (.refl _)).append
      (.refl _)).append (.refl _)).append (Json.names_textField ..)).append (Json.names_textField ..)
  extra?_of_build? h := (build?_eq_some_iff.1 h).2.2.2.2.2.2.2
  build?_again := build?_again

theorem read_layout : layout.read = ofNode? := by
  funext depth node
  cases node <;> rfl

theorem written_layout (r : ImageRecord) : .object (layout.written r) = r.toJson := by
  show Json.object (r.known ++ r.extra) = r.toJson
  unfold known toJson
  simp only [List.append_assoc, List.cons_append, List.nil_append]

theorem ofNode?_succ {depth : Nat} {node : Node} {r : ImageRecord}
    (h : ofNode? depth node = some r) : ofNode? (depth + 1) node = some r := by
  rw [← read_layout] at h ⊢
  refine layout.read_succ (fun hbuild => ?_) h
  obtain ⟨hid, hrepoTags, hcreated, hsize, hvirtualSize, hparentId, hhost, hextra⟩ :=
    build?_eq_some_iff.1 hbuild
  exact build?_eq_some_iff.2
    ⟨hid, hrepoTags, hcreated, hsize, hvirtualSize, hparentId, hhost, Parts.extra?_succ hextra⟩

theorem ofNode?_toNode {depth : Nat} {fields : List (Option String × Node)} {r : ImageRecord}
    (h : ofNode? depth (.object fields) = some r) : ofNode? depth r.toJson.toNode = some r := by
  rw [← read_layout] at h ⊢
  rw [← written_layout]
  exact layout.read_written h

end ImageRecord

/-! ## Options -/

namespace Engine.Options

/-- The known fields as they are written. -/
def known (o : Options) : List (String × Json) :=
  [("Image", .text o.image)] ++ textsField "Cmd" o.cmd ++ textsField "Env" o.env

def build? (depth : Nat) (p : Parts) : Option Options := do
  return {
    image := ← p.required "Image" (·.string?)
    cmd := ← p.optional "Cmd" [] (·.strings?)
    env := ← p.optional "Env" [] (·.strings?)
    extra := ← p.extra? depth }

theorem build?_eq_some_iff {depth : Nat} {p : Parts} {o : Options} :
    build? depth p = some o ↔
      p.required "Image" (·.string?) = some o.image ∧ p.optional "Cmd" [] (·.strings?) = some o.cmd ∧
      p.optional "Env" [] (·.strings?) = some o.env ∧ p.extra? depth = some o.extra := by
  unfold build?
  simp only [Option.bind_eq_bind, Option.bind_eq_some_iff, Option.pure_def, Option.some.injEq]
  constructor
  · rintro ⟨image, himage, cmd, hcmd, env, henv, extra, hextra, rfl⟩
    exact ⟨himage, hcmd, henv, hextra⟩
  · rintro ⟨himage, hcmd, henv, hextra⟩
    exact ⟨_, himage, _, hcmd, _, henv, _, hextra, rfl⟩

theorem build?_again {depth : Nat} {q : Parts} {o : Options}
    (hq : ∀ name ∈ fieldNames, q.known.lookup name = (o.known.lookup name).map toNode)
    (hextra : q.extra? depth = some o.extra) : build? depth q = some o := by
  simp only [fieldNames, List.forall_mem_cons, known, List.lookup_append, Json.lookup_textsField,
    Book.lookup_cons, List.lookup_nil, String.reduceEq, if_true, if_false, Option.or_none,
    Option.none_or, Option.map_some] at hq
  obtain ⟨himage, hcmd, henv, -⟩ := hq
  exact build?_eq_some_iff.2 ⟨Json.required_text himage, Json.optional_texts hcmd,
    Json.optional_texts henv, hextra⟩

def layout : Layout Options where
  canonical := Json.oneOf fieldNames
  names := fieldNames
  build? := build?
  known := known
  extra := extra
  nodup := by decide
  canonical_of_mem := by decide
  sublist o := by
    have hnames : fieldNames = ["Image"] ++ ["Cmd"] ++ ["Env"] := rfl
    unfold known
    rw [hnames]
    simp only [List.map_append]
    exact ((List.Sublist.refl _).append (Json.names_textsField ..)).append (Json.names_textsField ..)
  extra?_of_build? h := (build?_eq_some_iff.1 h).2.2.2
  build?_again _ := build?_again

theorem read_layout : layout.read = ofNode? := by
  funext depth node
  cases node <;> rfl

theorem written_layout (o : Options) : .object (layout.written o) = o.toJson := by
  show Json.object (o.known ++ o.extra) = o.toJson
  unfold known toJson
  simp only [List.append_assoc, List.cons_append, List.nil_append]

end Engine.Options

/-- Containers, images and options that were read are written so that they are read as the same again. -/
theorem records_are_faithful :
    IsFaithful ContainerRecord.canonical ContainerRecord.ofNode? ContainerRecord.toJson ∧
      IsFaithful ImageRecord.canonical ImageRecord.ofNode? ImageRecord.toJson ∧
      IsFaithful (Json.oneOf Engine.Options.fieldNames) Engine.Options.ofNode?
        Engine.Options.toJson := by
  have hcontainer := ContainerRecord.layout.isFaithful
  have himage := ImageRecord.layout.isFaithful
  have hoptions := Engine.Options.layout.isFaithful
  simp only [ContainerRecord.read_layout, ContainerRecord.written_layout] at hcontainer
  simp only [ImageRecord.read_layout, ImageRecord.written_layout] at himage
  simp only [Engine.Options.read_layout, Engine.Options.written_layout] at hoptions
  exact ⟨hcontainer, himage, hoptions⟩

/-- A container whose id is called by its other name, and which has a field twice. -/
theorem repeated_field_is_written_once :
    let fields : List (Option String × Node) := [(some "x", .null), (some "ID", .string (some "c1")),
      (some "x", .array [.number (some (.integer (-1)))]), (some "Names", .array [])]
    let r : ContainerRecord := ⟨"c1", "", "", 0, "", [], "", [("x", .array [Json.ofInt (-1)])]⟩
    ContainerRecord.ofNode? 126 (.object fields) = some r ∧ IsWhole r.toJson ∧
      (Node.parse? (Bytes.ofText r.toJson.render)).bind (ContainerRecord.ofNode? 126) = some r := by
  intro fields r
  have hread : ContainerRecord.ofNode? 126 (.object fields) = some r := rfl
  have hwhole : IsWhole r.toJson := by
    refine .object (List.forall_mem_cons.2 ⟨.text "c1", List.forall_mem_cons.2 ⟨?_, ?_⟩⟩)
    · exact .number (by decide) (by decide)
    · refine List.forall_mem_singleton.2 (.array (List.forall_mem_singleton.2 ?_))
      exact .number (by decide) (by decide)
  exact ⟨hread, hwhole, (records_are_faithful.1 126 fields r hread hwhole).1⟩

end HostFleet
