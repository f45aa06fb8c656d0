import HostFleet.Proofs.Json.Strings
import HostFleet.Proofs.Record.Faithful
import HostFleet.Proofs.Report.Acceptable
import HostFleet.Proofs.Report.Writes
import HostFleet.Proofs.Text.Trim

/-! # Deleting undoes creating

A record is reported as it is written, and it is deleted by its id: a container by the text of the id, as a
JSON string or bare, an image by the record itself.

* `Removes`, `Deletes`: one record is gone and nothing else is changed; a report does that.
* `IsBare`: the ids that are read as they are.
* `Reports`: how a container is reported; `IsForwarded`: reports that are accepted for sure.
* `deletion_undoes_creation`: what is reported can be deleted, and by which text.
-/

set_option autoImplicit false

namespace HostFleet

open Json (Node)

namespace Registry

/-- The record of a kind and id is gone; every other record, every other owner and all members are the
same. -/
structure Removes (r : Registry) (kind : Kind) (id : String) (s : Registry) : Prop where
  gone : s.record? kind id = none
  unowned : s.owner? kind id = none
  records : ∀ kind' id', ¬(kind' = kind ∧ id' = id) → s.record? kind' id' = r.record? kind' id'
  owners : ∀ kind' id', ¬(kind' = kind ∧ id' = id) → s.owner? kind' id' = r.owner? kind' id'
  members : SameMembers r s

theorem owner?_drop (r : Registry) (kind kind' : Kind) (id id' : String) :
    (r.drop kind id).owner? kind' id' =
      if kind' = kind ∧ id' = id then none else r.owner? kind' id' := by
  cases kind <;> cases kind' <;>
    simp only [drop, unregisterContainer, unregisterImage, owner?, containerOwner?, imageOwner?,
      Book.get?_erase, true_and, reduceCtorEq, false_and, if_false] <;>
    split <;> rfl

theorem sameMembers_drop (r : Registry) (kind : Kind) (id : String) :
    SameMembers r (r.drop kind id) := by
  cases kind with
  | container => exact sameMembers_unregisterContainer r id
  | image => exact sameMembers_unregisterImage r id

theorem removes_drop (r : Registry) (kind : Kind) (id : String) :
    Removes r kind id (r.drop kind id) := by
  refine ⟨?_, ?_, ?_, ?_, sameMembers_drop r kind id⟩
  · rw [record?_drop]
    cases r.record? kind id <;> simp [Option.filter]
  · rw [owner?_drop, if_pos ⟨rfl, rfl⟩]
  · intro kind' id' hne
    rw [record?_drop]
    exact filter_of_forall (fun _ => by rw [decide_eq_false hne]; rfl) _
  · intro kind' id' hne
    rw [owner?_drop, if_neg hne]

/-- Only the deletion of a record takes it away. -/
theorem eq_of_removes_drop {r : Registry} {kind : Kind} {id id' : String} {x : Report.Resource}
    (hx : r.record? kind id = some x) (h : Removes r kind id (r.drop kind id')) : id' = id := by
  refine Decidable.byContradiction fun hne => ?_
  have hkept := (removes_drop r kind id').records kind id fun hsame => hne hsame.2.symm
  rw [h.gone, hx] at hkept
  cases hkept

end Registry

namespace Report

variable {r : Registry} {peer : Option Ip} {data : Bytes} {command : ReportCommand}

/-! ## Payloads -/

/-- A report of a value. -/
def payloadOf (command : ReportCommand) (value : Json) : Bytes :=
  Envelope.join (Bytes.ofText value.render) command.wireName

theorem change?_join (hdata : data ≠ []) :
    Reporter.change? (Envelope.join data command.wireName) = Change.decode? command data := by
  unfold Reporter.change?
  rw [opened?_eq_ok_iff.2 ⟨hdata, rfl⟩]
  rfl

theorem handlePayload_join (hdata : data ≠ []) :
    handlePayload r peer (Envelope.join data command.wireName) =
      ((handle r peer command data).1, (handle r peer command data).2.map fun _ => command) := by
  unfold handlePayload
  rw [opened?_eq_ok_iff.2 ⟨hdata, rfl⟩]

/-- The report is accepted, and it takes the record of the kind and id away and changes nothing else. -/
def Deletes (r : Registry) (peer : Option Ip) (command : ReportCommand) (data : Bytes) (kind : Kind)
    (id : String) : Prop :=
  let after := handlePayload r peer (Envelope.join data command.wireName)
  after.2 = .ok command ∧ r.Removes kind id after.1

theorem deletes_of_decode? (hdata : data ≠ []) {change : Change} {kind : Kind} {id : String}
    (hchange : Change.decode? command data = .ok change) (hdrop : change.apply r peer = r.drop kind id) :
    Deletes r peer command data kind id := by
  have hhandle : handle r peer command data = (r.drop kind id, .ok ()) := by
    unfold handle
    simp only [hchange, hdrop]
  unfold Deletes
  rw [handlePayload_join hdata, hhandle]
  exact ⟨rfl, r.removes_drop kind id⟩

/-! ## Ids of containers -/

theorem deletes_container (hdata : data ≠ []) {id : String} (h : Change.containerId? data = .ok id) :
    Deletes r peer .containerDeleted data .container id := by
  have hdecode : Change.decode? .containerDeleted data = .ok (.dropContainer id) := by
    show (Change.containerId? data).map Change.dropContainer = _
    rw [h]
    rfl
  exact deletes_of_decode? hdata hdecode rfl

/-- A record that is there is deleted by the texts that its id is read from. -/
theorem containerId?_of_deletes (hdata : data ≠ []) {id : String} {x : Resource}
    (hx : r.record? .container id = some x)
    (h : Deletes r peer .containerDeleted data .container id) : Change.containerId? data = .ok id := by
  unfold Deletes at h
  rw [handlePayload_join hdata] at h
  cases hfound : Change.containerId? data with
  | error fault =>
    have hhandle : handle r peer .containerDeleted data = (r, .error fault) := by
      unfold handle
      simp only [Change.decode?, hfound]
      rfl
    rw [hhandle] at h
    cases h.1
  | ok found =>
    have hhandle : handle r peer .containerDeleted data = (r.drop .container found, .ok ()) := by
      unfold handle
      simp only [Change.decode?, hfound]
      rfl
    rw [hhandle] at h
    rw [Registry.eq_of_removes_drop hx h.2]

/-- The id is not white space at either end, and does not begin like a JSON string. -/
structure IsBare (id : String) : Prop where
  front : ∀ c ∈ id.toList.head?, Text.isBlank c = false ∧ c ≠ '"'
  back : ∀ c ∈ id.toList.getLast?, Text.isBlank c = false

/-- An id is read from a JSON string of it. -/
theorem containerId?_render {id : String} (hid : id ≠ "") :
    Change.containerId? (Bytes.ofText (Json.text id).render) = .ok id := by
  have hchars : (Json.text id).render.toList = '"' :: (id.toList.flatMap Json.escape ++ ['"']) :=
    String.toList_ofList ..
  have htrim : Text.trimList (Json.text id).render.toList = (Json.text id).render.toList := by
    refine Text.trimList_eq_self_iff.2 ⟨?_, ?_⟩
    · rw [hchars]
      intro c hc
      obtain rfl := Option.some.inj hc
      rfl
    · rw [hchars, ← List.cons_append, List.getLast?_concat]
      intro c hc
      obtain rfl := Option.some.inj hc
      rfl
  refine containerId?_eq_ok_iff.2 ⟨hid, _, rfl, .inr ⟨?_, ?_⟩⟩
  · rw [htrim, hchars]
    rfl
  · rw [htrim, String.ofList_toList, Json.parse?_render]
    rfl

/-- An id is read from itself exactly if it is bare: a text is no string of itself. -/
theorem containerId?_ofText_iff {id : String} (hid : id ≠ "") :
    Change.containerId? (Bytes.ofText id) = .ok id ↔ IsBare id := by
  rw [containerId?_eq_ok_iff]
  constructor
  · rintro ⟨-, text, htext, hnamed⟩
    obtain rfl := Bytes.ofText_injective htext
    rcases hnamed with ⟨hhead, hinner⟩ | ⟨-, hparse⟩
    · have htrim : Text.trimList id.toList = id.toList := by
        rw [← String.toList_ofList (l := Text.trimList id.toList), hinner]
      obtain ⟨hfront, hback⟩ := Text.trimList_eq_self_iff.1 htrim
      rw [htrim] at hhead
      refine ⟨fun c hc => ⟨hfront c hc, ?_⟩, hback⟩
      rintro rfl
      exact hhead hc
    · have hlt := Node.length_lt_of_parse? hparse
      obtain ⟨front, back, hid⟩ := Text.exists_append_trimList id.toList
      have hlength : (Bytes.ofText (String.ofList (Text.trimList id.toList))).length ≤
          (Bytes.ofText id).length := by
        rw [Bytes.ofText_ofList, Bytes.ofText_eq_flatMap]
        conv => rhs; rw [hid]
        rw [List.flatMap_append, List.flatMap_append, List.length_append, List.length_append]
        omega
      omega
  · intro hbare
    have htrim : Text.trimList id.toList = id.toList :=
      Text.trimList_eq_self_iff.2 ⟨fun c hc => (hbare.front c hc).1, hbare.back⟩
    refine ⟨hid, id, rfl, .inl ⟨?_, ?_⟩⟩
    · rw [htrim]
      intro hquote
      exact (hbare.front '"' hquote).2 rfl
    · rw [htrim, String.ofList_toList]

/-! ## Reported containers -/

/-- How a container is reported: as created, as updated, or among others. -/
inductive Reports (x : ContainerRecord) : Bytes → Prop where
  | created : Reports x (payloadOf .containerCreated x.toJson)
  | updated : Reports x (payloadOf .containerUpdated x.toJson)
  | listed {xs : List ContainerRecord} (h : x ∈ xs) :
    Reports x (payloadOf .containerList (.array (xs.map (·.toJson))))

theorem change?_payloadOf (command : ReportCommand) (value : Json) :
    Reporter.change? (payloadOf command value) =
      Change.decode? command (Bytes.ofText value.render) :=
  change?_join value.ofText_render_ne_nil

theorem decodeOne?_render {α : Type} {read : Nat → Node → Option α} {value : Json} {x : α} :
    Change.decodeOne? read (Bytes.ofText value.render) = .ok x ↔
      ∃ node, value.reread? = some node ∧ read Change.recordDepth node = some x := by
  unfold Change.decodeOne?
  rw [Json.parse?_render]
  cases value.reread? with
  | none => simp
  | some node =>
    rw [Option.bind_some]
    cases hread : read Change.recordDepth node with
    | none => simp [hread]
    | some y => simp [hread]

/-- However much of a container is read again, its id is. -/
theorem id_of_reread? {x y : ContainerRecord} {node : Node} {depth : Nat}
    (hnode : x.toJson.reread? = some node) (hread : ContainerRecord.ofNode? depth node = some y) :
    y.id = x.id := by
  obtain ⟨nodes, rfl⟩ := Json.reread?_object_cons hnode
  rw [← ContainerRecord.read_layout] at hread
  obtain ⟨p, hbuild, hfirst⟩ := ContainerRecord.layout.exists_parts_of_first (by decide) hread
  have hid := (ContainerRecord.build?_eq_some_iff.1 hbuild).1
  exact Option.some.inj (hid.symm.trans hfirst)

theorem image_id_of_reread? {x y : ImageRecord} {node : Node} {depth : Nat}
    (hnode : x.toJson.reread? = some node) (hread : ImageRecord.ofNode? depth node = some y) :
    y.id = x.id := by
  obtain ⟨nodes, rfl⟩ := Json.reread?_object_cons hnode
  rw [← ImageRecord.read_layout] at hread
  obtain ⟨p, hbuild, hfirst⟩ := ImageRecord.layout.exists_parts_of_first (by decide) hread
  have hid := (ImageRecord.build?_eq_some_iff.1 hbuild).1
  exact Option.some.inj (hid.symm.trans hfirst)

theorem map_eq_ok_iff {α β : Type} {f : α → β} {found : Except Fault α} {b : β} :
    found.map f = .ok b ↔ ∃ a, found = .ok a ∧ f a = b := by
  cases found with
  | error fault => simp [Except.map]
  | ok a => simp [Except.map]

/-- An accepted report of a container asks for a container of its id to be taken over. -/
theorem exists_take_of_reports {x : ContainerRecord} {payload : Bytes} {change : Change}
    (h : Reports x payload) (hchange : Reporter.change? payload = .ok change) :
    ∃ resources y, change = .take resources ∧ Resource.container y ∈ resources ∧ y.id = x.id := by
  have hone : ∀ {change}, (Change.decodeOne? ContainerRecord.ofNode?
      (Bytes.ofText x.toJson.render)).map (fun y => Change.take [.container y]) = .ok change →
        ∃ resources y, change = .take resources ∧ Resource.container y ∈ resources ∧ y.id = x.id := by
    intro change hmap
    obtain ⟨y, hy, rfl⟩ := map_eq_ok_iff.1 hmap
    obtain ⟨node, hnode, hread⟩ := decodeOne?_render.1 hy
    exact ⟨_, y, rfl, List.mem_singleton.2 rfl, id_of_reread? hnode hread⟩
  cases h with
  | created =>
    rw [change?_payloadOf] at hchange
    exact hone hchange
  | updated =>
    rw [change?_payloadOf] at hchange
    exact hone hchange
  | @listed xs hx =>
    rw [change?_payloadOf] at hchange
    obtain ⟨ys, hys, rfl⟩ := map_eq_ok_iff.1 hchange
    unfold Change.decodeList? at hys
    rw [Json.parse?_render] at hys
    split at hys
    · next ys' hread =>
      cases hys
      obtain ⟨list, hlist, hread⟩ := Option.bind_eq_some_iff.1 hread
      obtain ⟨nodes, hnodes, rfl⟩ := Option.map_eq_some_iff.1 hlist
      rw [Json.rereadItems?_eq_mapM] at hnodes
      obtain ⟨node, hmem, hnode⟩ := Json.exists_mem_of_mapM hnodes (List.mem_map_of_mem hx)
      obtain ⟨y, hy, hrecord⟩ := Json.exists_mem_of_mapM hread hmem
      exact ⟨_, y, rfl, List.mem_map_of_mem hy, id_of_reread? hnode hrecord⟩
    · cases hys

/-- What is taken over is there afterwards, unless the same report replaces it. -/
theorem exists_record?_take {resources : List Resource} {y : Resource} (hy : y ∈ resources) :
    ∃ z, ((Change.take resources).apply r peer).record? y.kind y.id = some z := by
  have hlast : (lastOf? y.kind y.id (resources.map fun x => x.withOwner r peer)).isSome = true := by
    unfold lastOf?
    rw [List.find?_isSome]
    refine ⟨y.withOwner r peer, List.mem_reverse.2 (List.mem_map_of_mem hy), ?_⟩
    unfold Resource.isOf
    rw [kind_withOwner, id_withOwner]
    simp
  obtain ⟨z, hz⟩ := Option.isSome_iff_exists.1 hlast
  refine ⟨z, ?_⟩
  rw [record?_take, hz]
  rfl

theorem exists_change?_of_ok {payload : Bytes}
    (h : (handlePayload r peer payload).2 = .ok command) :
    ∃ change, Reporter.change? payload = .ok change ∧
      (handlePayload r peer payload).1 = change.apply r peer := by
  cases hchange : Reporter.change? payload with
  | error fault =>
    rw [handlePayload_of_error hchange] at h
    cases h
  | ok change => exact ⟨change, rfl, (handlePayload_of_ok hchange).1⟩

theorem exists_record?_of_reports {x : ContainerRecord} {payload : Bytes} (h : Reports x payload)
    (hok : (handlePayload r peer payload).2 = .ok command) :
    ∃ z, (handlePayload r peer payload).1.record? .container x.id = some z := by
  obtain ⟨change, hchange, hafter⟩ := exists_change?_of_ok hok
  obtain ⟨resources, y, rfl, hy, hid⟩ := exists_take_of_reports h hchange
  rw [hafter, ← hid]
  exact exists_record?_take hy

/-! ## Reports that are accepted -/

/-- The record was read from an object, and has no other numbers than integers of 64 bits. -/
structure IsRestored {α : Type} (read : Nat → Node → Option α) (write : α → Json) (depth : Nat)
    (x : α) : Prop where
  origin : ∃ fields, read depth (.object fields) = some x
  whole : Json.IsWhole (write x)

/-- A report of containers that were read themselves. -/
inductive IsForwarded : Bytes → Prop where
  | created {x : ContainerRecord}
    (h : IsRestored ContainerRecord.ofNode? ContainerRecord.toJson Change.recordDepth x) :
    IsForwarded (payloadOf .containerCreated x.toJson)
  | updated {x : ContainerRecord}
    (h : IsRestored ContainerRecord.ofNode? ContainerRecord.toJson Change.recordDepth x) :
    IsForwarded (payloadOf .containerUpdated x.toJson)
  | listed {xs : List ContainerRecord}
    (h : ∀ x ∈ xs,
      IsRestored ContainerRecord.ofNode? ContainerRecord.toJson (Change.recordDepth - 1) x) :
    IsForwarded (payloadOf .containerList (.array (xs.map (·.toJson))))

theorem handlePayload_of_decode? {value : Json} {change : Change}
    (h : Change.decode? command (Bytes.ofText value.render) = .ok change) (r : Registry)
    (peer : Option Ip) :
    handlePayload r peer (payloadOf command value) = (change.apply r peer, .ok command) := by
  unfold payloadOf
  rw [handlePayload_join value.ofText_render_ne_nil]
  unfold handle
  simp only [h]
  rfl

theorem accepts_of_decode? {value : Json} {change : Change}
    (h : Change.decode? command (Bytes.ofText value.render) = .ok change) :
    (handlePayload r peer (payloadOf command value)).2 = .ok command :=
  congrArg Prod.snd (handlePayload_of_decode? h r peer)

/-- Records that are read from their own trees are read in a list. -/
theorem decodeList?_render {α : Type} {read : Nat → Node → Option α} {write : α → Json} {xs : List α}
    (hwhole : Json.IsWhole (.array (xs.map write)))
    (hread : ∀ x ∈ xs, read (Change.recordDepth - 1) (write x).toNode = some x) :
    Change.decodeList? read (Bytes.ofText (Json.array (xs.map write)).render) = .ok xs := by
  have hlist : (xs.map fun x => (write x).toNode).mapM (read (Change.recordDepth - 1)) = some xs :=
    Json.mapM_map_eq_some hread
  unfold Change.decodeList?
  rw [hwhole.parse?_render, Json.toNode, Json.toNodes_eq_map, List.map_map, Option.bind_some]
  unfold Change.readList?
  simp only [Function.comp_def, hlist]

theorem decode?_container {x : ContainerRecord}
    (h : IsRestored ContainerRecord.ofNode? ContainerRecord.toJson Change.recordDepth x) :
    Change.decodeOne? ContainerRecord.ofNode? (Bytes.ofText x.toJson.render) = .ok x := by
  obtain ⟨fields, hread⟩ := h.origin
  exact decodeOne?_render.2 ⟨_, h.whole.reread?_eq, ContainerRecord.ofNode?_toNode hread⟩

theorem decode?_containers {xs : List ContainerRecord}
    (h : ∀ x ∈ xs,
      IsRestored ContainerRecord.ofNode? ContainerRecord.toJson (Change.recordDepth - 1) x) :
    Change.decodeList? ContainerRecord.ofNode?
      (Bytes.ofText (Json.array (xs.map (·.toJson))).render) = .ok xs := by
  have hwhole : Json.IsWhole (.array (xs.map (·.toJson))) :=
    .array (List.forall_mem_map.2 fun x hx => (h x hx).whole)
  refine decodeList?_render hwhole fun x hx => ?_
  obtain ⟨fields, hread⟩ := (h x hx).origin
  exact ContainerRecord.ofNode?_toNode hread

theorem accepts_forwarded {payload : Bytes} (h : IsForwarded payload) :
    ∃ command, (handlePayload r peer payload).2 = .ok command := by
  cases h with
  | created h =>
    exact ⟨_, accepts_of_decode? (map_eq_ok_iff.2 ⟨_, decode?_container h, rfl⟩)⟩
  | updated h =>
    exact ⟨_, accepts_of_decode? (map_eq_ok_iff.2 ⟨_, decode?_container h, rfl⟩)⟩
  | listed h =>
    exact ⟨_, accepts_of_decode? (map_eq_ok_iff.2 ⟨_, decode?_containers h, rfl⟩)⟩

theorem accepts_image {y : ImageRecord}
    (h : IsRestored ImageRecord.ofNode? ImageRecord.toJson Change.recordDepth y) :
    (handlePayload r peer (payloadOf .imageCreated y.toJson)).2 = .ok .imageCreated := by
  obtain ⟨fields, hread⟩ := h.origin
  exact accepts_of_decode? (map_eq_ok_iff.2
    ⟨y, decodeOne?_render.2 ⟨_, h.whole.reread?_eq, ImageRecord.ofNode?_toNode hread⟩, rfl⟩)

/-! ## Reported images -/

theorem exists_image_of_created (hdata : data ≠ [])
    (hok : (handlePayload r peer (Envelope.join data ReportCommand.imageCreated.wireName)).2 =
      .ok command) :
    ∃ image, Change.decodeOne? ImageRecord.ofNode? data = .ok image ∧
      ∃ z, (handlePayload r peer (Envelope.join data ReportCommand.imageCreated.wireName)).1.record?
        .image image.id = some z := by
  obtain ⟨change, hchange, hafter⟩ := exists_change?_of_ok hok
  rw [change?_join hdata] at hchange
  obtain ⟨image, himage, rfl⟩ := map_eq_ok_iff.1 hchange
  refine ⟨image, himage, ?_⟩
  rw [hafter]
  exact exists_record?_take (List.mem_singleton.2 rfl)

theorem deletes_image (hdata : data ≠ []) {image : ImageRecord}
    (h : Change.decodeOne? ImageRecord.ofNode? data = .ok image) :
    Deletes r peer .imageDeleted data .image image.id :=
  deletes_of_decode? hdata (map_eq_ok_iff.2 ⟨image, h, rfl⟩) rfl

/-! ## The two directions -/

/-- After any report of a container its id as a JSON string deletes the container and nothing else. If the
report was accepted, as it is of containers that were read themselves, the container was there, and the id
as it is does the same exactly if it is bare. After an image was reported as created, the same data deletes
that image and nothing else. -/
theorem deletion_undoes_creation (r : Registry) (peer peer' : Option Ip) :
    (∀ (x : ContainerRecord) (payload : Bytes), x.id ≠ "" → Reports x payload →
      let after := handlePayload r peer payload
      Deletes after.1 peer' .containerDeleted (Bytes.ofText (Json.text x.id).render) .container x.id ∧
        (IsBare x.id → Deletes after.1 peer' .containerDeleted (Bytes.ofText x.id) .container x.id) ∧
        (IsForwarded payload → ∃ command, after.2 = .ok command) ∧
        ∀ command, after.2 = .ok command →
          (∃ z, after.1.record? .container x.id = some z) ∧
            (Deletes after.1 peer' .containerDeleted (Bytes.ofText x.id) .container x.id ↔
              IsBare x.id)) ∧
      (∀ y : ImageRecord,
        IsRestored ImageRecord.ofNode? ImageRecord.toJson Change.recordDepth y →
          (handlePayload r peer (payloadOf .imageCreated y.toJson)).2 = .ok .imageCreated) ∧
      ∀ (data : Bytes) (command : ReportCommand), data ≠ [] →
        let after := handlePayload r peer (Envelope.join data ReportCommand.imageCreated.wireName)
        after.2 = .ok command →
          ∃ image, Change.decodeOne? ImageRecord.ofNode? data = .ok image ∧
            (∃ z, after.1.record? .image image.id = some z) ∧
            Deletes after.1 peer' .imageDeleted data .image image.id ∧
            ∀ y : ImageRecord, data = Bytes.ofText y.toJson.render → image.id = y.id := by
  refine ⟨?_, fun y hy => accepts_image hy, ?_⟩
  · intro x payload hid hreports after
    have hbytes : Bytes.ofText x.id ≠ [] := Bytes.ofText_ne_nil hid
    have hbare : IsBare x.id →
        Deletes after.1 peer' .containerDeleted (Bytes.ofText x.id) .container x.id :=
      fun h => deletes_container hbytes ((containerId?_ofText_iff hid).2 h)
    refine ⟨deletes_container (Json.ofText_render_ne_nil _) (containerId?_render hid), hbare,
      accepts_forwarded, ?_⟩
    intro command hok
    obtain ⟨z, hz⟩ := exists_record?_of_reports hreports hok
    refine ⟨⟨z, hz⟩, ?_, hbare⟩
    intro hdeletes
    exact (containerId?_ofText_iff hid).1 (containerId?_of_deletes hbytes hz hdeletes)
  · intro data command hdata after hok
    obtain ⟨image, himage, hstored⟩ := exists_image_of_created hdata hok
    refine ⟨image, himage, hstored, deletes_image hdata himage, ?_⟩
    rintro y rfl
    obtain ⟨node, hnode, hread⟩ := decodeOne?_render.1 himage
    exact image_id_of_reread? hnode hread

/-- A container whose id begins with a blank is deleted by a JSON string of the id, and not by the id
itself. An image without any id is deleted by itself. -/
theorem blank_id_is_deleted_in_quotes :
    let x : ContainerRecord := ⟨" c1", "", "", 0, "", [], "", []⟩
    let after := handlePayload (.empty false) none (payloadOf .containerCreated x.toJson)
    let y : ImageRecord := ⟨"", [], 0, 0, 0, "", "", []⟩
    let data := Bytes.ofText y.toJson.render
    (∃ command, after.2 = .ok command) ∧
      Deletes after.1 none .containerDeleted (Bytes.ofText (Json.text " c1").render) .container " c1" ∧
      ¬Deletes after.1 none .containerDeleted (Bytes.ofText " c1") .container " c1" ∧
      Deletes (handlePayload (.empty false) none (payloadOf .imageCreated y.toJson)).1 none .imageDeleted
        data .image "" := by
  intro x after y data
  obtain ⟨hcontainer, himage, hdeleted⟩ := deletion_undoes_creation (.empty false) none none
  have hzero : Json.IsWhole (Json.ofInt 0) := .number (by decide) (by decide)
  have hx : IsRestored ContainerRecord.ofNode? ContainerRecord.toJson Change.recordDepth x :=
    ⟨⟨[(some "Id", .string (some " c1"))], rfl⟩, .object (List.forall_mem_cons.2 ⟨.text " c1",
      List.forall_mem_singleton.2 hzero⟩)⟩
  have hy : IsRestored ImageRecord.ofNode? ImageRecord.toJson Change.recordDepth y :=
    ⟨⟨[(some "Id", .string (some ""))], rfl⟩, .object (List.forall_mem_cons.2 ⟨.text "",
      List.forall_mem_cons.2 ⟨hzero, List.forall_mem_cons.2 ⟨hzero,
        List.forall_mem_singleton.2 hzero⟩⟩⟩)⟩
  obtain ⟨hquoted, -, haccepts, hstored⟩ := hcontainer x _ (by decide) .created
  obtain ⟨command, haccepted⟩ := haccepts (.created hx)
  refine ⟨⟨command, haccepted⟩, hquoted, ?_, ?_⟩
  · rw [(hstored command haccepted).2]
    intro hbare
    have hfirst : ' ' ∈ (" c1" : String).toList.head? := by decide
    exact absurd (hbare.front ' ' hfirst).1 (by decide)
  · obtain ⟨image, -, -, hgone, hid⟩ := hdeleted data _ y.toJson.ofText_render_ne_nil (himage y hy)
    rwa [hid y rfl] at hgone

end Report

end HostFleet
