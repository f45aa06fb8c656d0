import HostFleet.Proofs.Report.Deletion
import Mathlib.Data.List.Induction

/-! # Reports that are repeated, and reports of many records

A host that comes back sends its reports again, and it may send its records one by one or in a list.

* `Write.applyAll_applyAll`: writes that are done again change nothing; `handlePayload_handlePayload`.
* `Registry.DiffersIn`: nothing but the records of one kind and their owners may differ.
* `Form`: how records of one kind are read, written and reported; `Form.IsBatch`: a list of them is
  reported like its records one after another, and the last record of an id is the one that is kept.
* `reports_repeat_and_batch`: every report can be repeated, and every list that is read is a batch.
-/

set_option autoImplicit false

namespace HostFleet

open Json (Node)

namespace Book

variable {α : Type}

theorem put_put (b : Book α) (name : String) (value value' : Option α) :
    (b.put name value).put name value' = b.put name value' := by
  refine ext_get? fun other => ?_
  rw [get?_put, get?_put, get?_put]
  by_cases hname : other = name
  · rw [if_pos hname, if_pos hname]
  · rw [if_neg hname, if_neg hname, if_neg hname]

end Book

namespace Registry

/-- Nothing but the records of a kind and their owners differs. -/
def DiffersIn (kind : Kind) (r s : Registry) : Prop :=
  match kind with
  | .container => s = { r with containers := s.containers, containerOwners := s.containerOwners }
  | .image => s = { r with images := s.images, imageOwners := s.imageOwners }

namespace DiffersIn

variable {kind : Kind} {r s t : Registry}

theorem refl (kind : Kind) (r : Registry) : DiffersIn kind r r := by
  cases kind <;> rfl

theorem trans (h : DiffersIn kind r s) (h' : DiffersIn kind s t) : DiffersIn kind r t := by
  cases kind with
  | container =>
    unfold DiffersIn at h h' ⊢
    exact h'.trans (by rw [h])
  | image =>
    unfold DiffersIn at h h' ⊢
    exact h'.trans (by rw [h])

end DiffersIn

end Registry

namespace Report

open Registry

variable {r s : Registry} {peer : Option Ip} {payload : Bytes}

/-! ## Writing again -/

namespace Write

theorem apply_apply {w v : Write} (h : w.key = v.key) (r : Registry) :
    v.apply (w.apply r) = v.apply r := by
  cases w with
  | container id record =>
    cases v with
    | image id' record' => cases h
    | container id' record' =>
      injection h with hkind hid
      subst hid
      simp only [apply, Book.put_put]
  | image id record =>
    cases v with
    | container id' record' => cases h
    | image id' record' =>
      injection h with hkind hid
      subst hid
      simp only [apply, Book.put_put]

/-- A write is of no account if its record is written again, whatever is written in between. -/
theorem apply_applyAll_apply {w v : Write} (h : w.key = v.key) (writes : List Write) (r : Registry) :
    v.apply (applyAll (w.apply r) writes) = v.apply (applyAll r writes) := by
  induction writes generalizing r with
  | nil => exact apply_apply h r
  | cons u writes ih =>
    show v.apply (applyAll (u.apply (w.apply r)) writes) = v.apply (applyAll (u.apply r) writes)
    by_cases hu : w.key = u.key
    · rw [apply_apply hu]
    · rw [apply_comm hu, ih]

/-- Writes that are done again change nothing. -/
theorem applyAll_applyAll (r : Registry) (writes : List Write) :
    applyAll (applyAll r writes) writes = applyAll r writes := by
  induction writes using List.reverseRecOn with
  | nil => rfl
  | append_singleton writes w ih =>
    have hlast : ∀ s, applyAll s (writes ++ [w]) = w.apply (applyAll s writes) :=
      fun s => applyAll_append s writes [w]
    rw [hlast, hlast, apply_applyAll_apply rfl, ih]

end Write

theorem handlePayload_fst (r : Registry) (peer : Option Ip) (payload : Bytes) :
    (handlePayload r peer payload).1 = Write.applyAll r (payloadWrites r peer payload) :=
  congrArg Prod.fst (acknowledge_eq peer r payload)

/-- What is answered to a payload does not depend on the registry. -/
theorem handlePayload_snd (r s : Registry) (peer : Option Ip) (payload : Bytes) :
    (handlePayload r peer payload).2 = (handlePayload s peer payload).2 := by
  unfold handlePayload handle
  cases opened? payload with
  | error fault => rfl
  | ok found =>
    obtain ⟨command, data⟩ := found
    dsimp only
    cases Change.decode? command data <;> rfl

/-- A payload that is sent again changes nothing and is answered as before. -/
theorem handlePayload_handlePayload (r : Registry) (peer : Option Ip) (payload : Bytes) :
    handlePayload (handlePayload r peer payload).1 peer payload = handlePayload r peer payload := by
  have hsame := sameMembers_handlePayload r peer payload
  refine Prod.ext ?_ (handlePayload_snd _ r peer payload)
  rw [handlePayload_fst (handlePayload r peer payload).1, payloadWrites_of_sameMembers hsame,
    handlePayload_fst r, Write.applyAll_applyAll]

/-! ## Records of the other kind -/

theorem Write.differsIn_applyAll {kind : Kind} {writes : List Write}
    (h : ∀ w ∈ writes, w.key.1 = kind) (r : Registry) : DiffersIn kind r (applyAll r writes) := by
  induction writes generalizing r with
  | nil => exact .refl kind r
  | cons w writes ih =>
    obtain ⟨hw, hwrites⟩ := List.forall_mem_cons.1 h
    have hone : DiffersIn kind r (w.apply r) := by
      subst hw
      cases w <;> rfl
    exact hone.trans (ih hwrites (w.apply r))

/-- The kind of the records that a command is about. -/
def kindOf : ReportCommand → Kind
  | .imageList | .imageCreated | .imageUpdated | .imageDeleted => .image
  | .containerList | .containerCreated | .containerUpdated | .containerDeleted => .container

theorem kind_of_mem_names {command : ReportCommand} {data : Bytes} {change : Change}
    (h : Change.decode? command data = .ok change) {key : Kind × String} (hkey : key ∈ change.names) :
    key.1 = kindOf command := by
  have htake : ∀ {α : Type} {found : Except Fault α} {f : α → List Resource} {kind : Kind},
      found.map (fun x => Change.take (f x)) = .ok change → (∀ x, ∀ y ∈ f x, y.kind = kind) →
        key.1 = kind := by
    intro α found f kind hfound hkind
    obtain ⟨x, -, rfl⟩ := map_eq_ok_iff.1 hfound
    obtain ⟨y, hy, rfl⟩ := List.mem_map.1 hkey
    exact hkind x y hy
  cases command with
  | imageList => exact htake h fun x y hy => by obtain ⟨z, -, rfl⟩ := List.mem_map.1 hy; rfl
  | imageCreated => exact htake h fun x y hy => by obtain rfl := List.mem_singleton.1 hy; rfl
  | imageUpdated => exact htake h fun x y hy => by obtain rfl := List.mem_singleton.1 hy; rfl
  | imageDeleted =>
    obtain ⟨x, -, rfl⟩ := map_eq_ok_iff.1 h
    exact congrArg Prod.fst (List.mem_singleton.1 hkey)
  | containerList => exact htake h fun x y hy => by obtain ⟨z, -, rfl⟩ := List.mem_map.1 hy; rfl
  | containerCreated => exact htake h fun x y hy => by obtain rfl := List.mem_singleton.1 hy; rfl
  | containerUpdated => exact htake h fun x y hy => by obtain rfl := List.mem_singleton.1 hy; rfl
  | containerDeleted =>
    obtain ⟨x, -, rfl⟩ := map_eq_ok_iff.1 h
    exact congrArg Prod.fst (List.mem_singleton.1 hkey)

/-- A payload changes nothing but the records that its command is about. -/
theorem differsIn_handlePayload {command : ReportCommand} {data : Bytes}
    (h : opened? payload = .ok (command, data)) (r : Registry) (peer : Option Ip) :
    DiffersIn (kindOf command) r (handlePayload r peer payload).1 := by
  have hchange : Reporter.change? payload = Change.decode? command data := by
    unfold Reporter.change?
    rw [h]
    rfl
  cases hdecode : Change.decode? command data with
  | error fault =>
    rw [handlePayload_of_error (hchange.trans hdecode)]
    exact .refl _ r
  | ok change =>
    rw [(handlePayload_of_ok (hchange.trans hdecode)).1, change.apply_eq_applyAll]
    refine Write.differsIn_applyAll (fun w hw => kind_of_mem_names hdecode ?_) r
    rw [← change.key_writes r peer]
    exact List.mem_map_of_mem hw

/-! ## Single records -/

/-- The owner that is found for a record. -/
def Resource.owner? (x : Resource) : Option String := if x.host.isEmpty then none else some x.host

theorem owner?_store (r : Registry) (x : Resource) (kind : Kind) (id : String) :
    (x.store r).owner? kind id = if x.isOf kind id then x.owner? else r.owner? kind id := by
  cases x with
  | container record =>
    cases kind with
    | image => simp [Resource.isOf, Resource.kind, Resource.store, registerContainer, Registry.owner?,
        imageOwner?]
    | container =>
      simp only [Resource.store, registerContainer, Registry.owner?, containerOwner?, Resource.isOf,
        Resource.kind, Resource.id, Book.get?_set, Resource.owner?, Resource.host]
      by_cases hid : id = record.id
      · rw [if_pos hid]
        simp [hid, Option.filter]
      · rw [if_neg hid]
        simp [Ne.symm hid]
  | image record =>
    cases kind with
    | container => simp [Resource.isOf, Resource.kind, Resource.store, registerImage, Registry.owner?,
        containerOwner?]
    | image =>
      simp only [Resource.store, registerImage, Registry.owner?, imageOwner?, Resource.isOf,
        Resource.kind, Resource.id, Book.get?_set, Resource.owner?, Resource.host]
      by_cases hid : id = record.id
      · rw [if_pos hid]
        simp [hid, Option.filter]
      · rw [if_neg hid]
        simp [Ne.symm hid]

theorem Write.owner?_apply_of_ne {w : Write} {kind : Kind} {id : String} (h : w.key ≠ (kind, id))
    (r : Registry) : (w.apply r).owner? kind id = r.owner? kind id := by
  cases w with
  | container id' record =>
    cases kind with
    | image => rfl
    | container =>
      have hid : id ≠ id' := fun hid => h (by rw [hid]; rfl)
      simp only [Registry.owner?, containerOwner?, apply, Book.get?_put, if_neg hid]
  | image id' record =>
    cases kind with
    | container => rfl
    | image =>
      have hid : id ≠ id' := fun hid => h (by rw [hid]; rfl)
      simp only [Registry.owner?, imageOwner?, apply, Book.get?_put, if_neg hid]

theorem Write.owner?_applyAll_of_forall_ne {writes : List Write} {kind : Kind} {id : String}
    (h : ∀ w ∈ writes, w.key ≠ (kind, id)) (r : Registry) :
    (applyAll r writes).owner? kind id = r.owner? kind id := by
  induction writes generalizing r with
  | nil => rfl
  | cons w writes ih =>
    have hrest := ih (fun v hv => h v (List.mem_cons_of_mem w hv)) (w.apply r)
    exact hrest.trans (owner?_apply_of_ne (h w List.mem_cons_self) r)

/-! ## Lists -/

/-- How records of one kind are read, written and reported. -/
structure Form (α : Type) where
  kind : Kind
  read : Nat → Node → Option α
  write : α → Json
  resource : α → Resource
  /-- The command that reports a list of them. -/
  list : ReportCommand
  /-- The commands that report one that is there. -/
  single : List ReportCommand
  kind_resource : ∀ x, (resource x).kind = kind
  decode_list : ∀ data, Change.decode? list data =
    (Change.decodeList? read data).map fun xs => .take (xs.map resource)
  decode_single : ∀ command ∈ single, ∀ data, Change.decode? command data =
    (Change.decodeOne? read data).map fun x => .take [resource x]
  /-- More brackets are no hindrance. -/
  read_succ : ∀ {depth node x}, read depth node = some x → read (depth + 1) node = some x
  /-- However much of a record is read again, its id is. -/
  id_of_reread? : ∀ {depth node x y}, (write x).reread? = some node → read depth node = some y →
    (resource y).id = (resource x).id

namespace Form

variable {α : Type} (f : Form α) {xs ys : List α} {x y : α}

def id (x : α) : String := (f.resource x).id

/-- The text of a list of records. -/
def listData (xs : List α) : Bytes := Bytes.ofText (Json.array (xs.map f.write)).render

/-- The report of a list of records. -/
def listPayload (xs : List α) : Bytes := payloadOf f.list (.array (xs.map f.write))

/-- What a record is read as once it was written. -/
def Rereads (x y : α) : Prop :=
  Change.decodeOne? f.read (Bytes.ofText (f.write x).render) = .ok y ∧ f.id y = f.id x

/-- Two readings of a list, one after the other, are two readings of each of its items. -/
theorem forall₂_of_mapM {β γ : Type} {first : α → Option β} {second : β → Option γ}
    {R : α → γ → Prop} (hR : ∀ {a b c}, first a = some b → second b = some c → R a c) {as : List α}
    {bs : List β} {cs : List γ} (hfirst : as.mapM first = some bs)
    (hsecond : bs.mapM second = some cs) : List.Forall₂ R as cs := by
  induction as generalizing bs cs with
  | nil =>
    cases hfirst
    cases hsecond
    exact .nil
  | cons a as ih =>
    rw [List.mapM_cons] at hfirst
    obtain ⟨b, hb, hfirst⟩ := Option.bind_eq_some_iff.1 hfirst
    obtain ⟨bs', hbs, hfirst⟩ := Option.bind_eq_some_iff.1 hfirst
    cases hfirst
    rw [List.mapM_cons] at hsecond
    obtain ⟨c, hc, hsecond⟩ := Option.bind_eq_some_iff.1 hsecond
    obtain ⟨cs', hcs, hsecond⟩ := Option.bind_eq_some_iff.1 hsecond
    cases hsecond
    exact .cons (hR hb hc) (ih hbs hcs)

/-- Records that are read in a list are read one by one. -/
theorem forall₂_rereads (h : Change.decodeList? f.read (f.listData xs) = .ok ys) :
    List.Forall₂ f.Rereads xs ys := by
  unfold Change.decodeList? listData at h
  rw [Json.parse?_render] at h
  split at h
  · next ys' hread =>
    injection h with h
    subst h
    obtain ⟨list, hlist, hread⟩ := Option.bind_eq_some_iff.1 hread
    obtain ⟨nodes, hnodes, rfl⟩ := Option.map_eq_some_iff.1 hlist
    rw [Json.rereadItems?_eq_mapM, List.mapM_map] at hnodes
    refine forall₂_of_mapM (fun hnode hread => ?_) hnodes hread
    exact ⟨decodeOne?_render.2 ⟨_, hnode, f.read_succ hread⟩, f.id_of_reread? hnode hread⟩
  · cases h

theorem map_id_of_rereads (h : List.Forall₂ f.Rereads xs ys) : ys.map f.id = xs.map f.id := by
  induction h with
  | nil => rfl
  | cons hxy _ ih => rw [List.map_cons, List.map_cons, hxy.2, ih]

theorem handlePayload_single (h : f.Rereads x y) {command : ReportCommand}
    (hcommand : command ∈ f.single) (r : Registry) (peer : Option Ip) :
    handlePayload r peer (payloadOf command (f.write x)) =
      ((f.resource y).report r peer, .ok command) := by
  have hdecode : Change.decode? command (Bytes.ofText (f.write x).render) =
      .ok (.take [f.resource y]) := by
    rw [f.decode_single command hcommand, h.1]
    rfl
  exact handlePayload_of_decode? hdecode r peer

theorem handlePayload_list (h : Change.decodeList? f.read (f.listData xs) = .ok ys) (r : Registry)
    (peer : Option Ip) :
    handlePayload r peer (f.listPayload xs) =
      ((Change.take (ys.map f.resource)).apply r peer, .ok f.list) := by
  have hdecode : Change.decode? f.list (f.listData xs) = .ok (.take (ys.map f.resource)) := by
    rw [f.decode_list, h]
    rfl
  exact handlePayload_of_decode? hdecode r peer

/-- Records that are reported one by one are taken over as if in a list. -/
theorem acknowledgeAll_single (h : List.Forall₂ f.Rereads xs ys) {command : ReportCommand}
    (hcommand : command ∈ f.single) (r : Registry) (peer : Option Ip) :
    acknowledgeAll peer r (xs.map fun x => payloadOf command (f.write x)) =
      ((Change.take (ys.map f.resource)).apply r peer, xs.map fun _ => true) := by
  induction h generalizing r with
  | nil => rfl
  | @cons x y xs ys hxy _ ih =>
    have hfirst : acknowledge peer r (payloadOf command (f.write x)) =
        ((f.resource y).report r peer, true) := by
      unfold acknowledge
      rw [f.handlePayload_single hxy hcommand]
      rfl
    simp only [List.map_cons, acknowledgeAll, hfirst, ih]
    rfl

/-! ## What a list leaves -/

/-- A list of records is reported like its records one after another. The last record of an id is the one
that is kept, and nothing else is touched. -/
structure IsBatch (r : Registry) (peer : Option Ip) (xs : List α) : Prop where
  accepted : (handlePayload r peer (f.listPayload xs)).2 = .ok f.list
  one_by_one : ∀ command ∈ f.single,
    acknowledgeAll peer r (xs.map fun x => payloadOf command (f.write x)) =
      ((handlePayload r peer (f.listPayload xs)).1, xs.map fun _ => true)
  last_wins : ∀ before x rest, xs = before ++ x :: rest → (∀ z ∈ rest, f.id z ≠ f.id x) →
    ∃ y, f.Rereads x y ∧
      let kept := (f.resource y).withOwner r peer
      (handlePayload r peer (f.listPayload xs)).1.record? f.kind (f.id x) = some kept ∧
        (handlePayload r peer (f.listPayload xs)).1.owner? f.kind (f.id x) = kept.owner?
  others : ∀ kind id, ¬(kind = f.kind ∧ id ∈ xs.map f.id) →
    (handlePayload r peer (f.listPayload xs)).1.record? kind id = r.record? kind id ∧
      (handlePayload r peer (f.listPayload xs)).1.owner? kind id = r.owner? kind id

/-- What is written for records that were read. -/
def writes (r : Registry) (peer : Option Ip) (ys : List α) : List Write :=
  ys.map fun y => .storing ((f.resource y).withOwner r peer)

theorem key_of_mem_writes {w : Write} (hw : w ∈ f.writes r peer ys) :
    ∃ y ∈ ys, w.key = (f.kind, f.id y) := by
  obtain ⟨y, hy, rfl⟩ := List.mem_map.1 hw
  refine ⟨y, hy, ?_⟩
  rw [Write.key_storing, kind_withOwner, id_withOwner, f.kind_resource]
  rfl

theorem apply_eq_writes (r : Registry) (peer : Option Ip) (ys : List α) :
    (Change.take (ys.map f.resource)).apply r peer = Write.applyAll r (f.writes r peer ys) := by
  rw [Change.apply_eq_applyAll, Change.writes_take, List.map_map]
  rfl

theorem others_of_writes {kind : Kind} {id : String}
    (h : ¬(kind = f.kind ∧ id ∈ ys.map f.id)) (s : Registry) :
    (Write.applyAll s (f.writes r peer ys)).record? kind id = s.record? kind id ∧
      (Write.applyAll s (f.writes r peer ys)).owner? kind id = s.owner? kind id := by
  have hkeys : ∀ w ∈ f.writes r peer ys, w.key ≠ (kind, id) := by
    intro w hw heq
    obtain ⟨y, hy, hkey⟩ := f.key_of_mem_writes hw
    injection hkey.symm.trans heq with hkind hid
    exact h ⟨hkind.symm, hid ▸ List.mem_map_of_mem hy⟩
  exact ⟨Write.record?_applyAll_of_forall_ne hkeys s, Write.owner?_applyAll_of_forall_ne hkeys s⟩

/-- The records that follow one in a list, and what they are read as. -/
theorem exists_of_forall₂_append {before rest : List α}
    (h : List.Forall₂ f.Rereads (before ++ x :: rest) ys) :
    ∃ before' y rest', ys = before' ++ y :: rest' ∧ f.Rereads x y ∧
      List.Forall₂ f.Rereads rest rest' := by
  induction before generalizing ys with
  | nil =>
    cases h with
    | @cons _ y _ rest' hxy hrest => exact ⟨[], y, rest', rfl, hxy, hrest⟩
  | cons z before ih =>
    cases h with
    | @cons _ z' _ more _ hmore =>
      obtain ⟨before', y, rest', rfl, hxy, hrest⟩ := ih hmore
      exact ⟨z' :: before', y, rest', rfl, hxy, hrest⟩

theorem last_of_writes {before rest : List α}
    (h : List.Forall₂ f.Rereads (before ++ x :: rest) ys) (hlast : ∀ z ∈ rest, f.id z ≠ f.id x)
    (r : Registry) (peer : Option Ip) :
    ∃ y, f.Rereads x y ∧
      let kept := (f.resource y).withOwner r peer
      (Write.applyAll r (f.writes r peer ys)).record? f.kind (f.id x) = some kept ∧
        (Write.applyAll r (f.writes r peer ys)).owner? f.kind (f.id x) = kept.owner? := by
  obtain ⟨before', y, rest', rfl, hxy, hrest⟩ := f.exists_of_forall₂_append h
  refine ⟨y, hxy, ?_⟩
  intro kept
  have hsplit : Write.applyAll r (f.writes r peer (before' ++ y :: rest')) =
      Write.applyAll (kept.store (Write.applyAll r (f.writes r peer before')))
        (f.writes r peer rest') := by
    unfold writes
    rw [List.map_append, Write.applyAll_append, List.map_cons]
    exact congrArg (Write.applyAll · _) (Write.apply_storing _ kept)
  have hrest' : ¬(f.kind = f.kind ∧ f.id x ∈ rest'.map f.id) := by
    rintro ⟨-, hmem⟩
    rw [f.map_id_of_rereads hrest] at hmem
    obtain ⟨z, hz, hid⟩ := List.mem_map.1 hmem
    exact hlast z hz hid
  have hkept : kept.isOf f.kind (f.id x) = true := by
    unfold Resource.isOf
    rw [kind_withOwner, id_withOwner, f.kind_resource, ← hxy.2]
    exact decide_eq_true ⟨rfl, rfl⟩
  obtain ⟨hrecord, howner⟩ := f.others_of_writes hrest'
    (kept.store (Write.applyAll r (f.writes r peer before')))
  rw [hsplit, hrecord, howner, record?_store, owner?_store, if_pos hkept, if_pos hkept]
  exact ⟨rfl, rfl⟩

theorem isBatch (h : Change.decodeList? f.read (f.listData xs) = .ok ys) (r : Registry)
    (peer : Option Ip) : f.IsBatch r peer xs := by
  have hrereads := f.forall₂_rereads h
  have hlist := f.handlePayload_list h r peer
  have hafter : (handlePayload r peer (f.listPayload xs)).1 =
      Write.applyAll r (f.writes r peer ys) := by
    rw [hlist, f.apply_eq_writes]
  refine ⟨by rw [hlist], ?_, ?_, ?_⟩
  · intro command hcommand
    rw [hlist]
    exact f.acknowledgeAll_single hrereads hcommand r peer
  · rintro before x rest rfl hlast
    rw [hafter]
    exact f.last_of_writes hrereads hlast r peer
  · intro kind id hother
    rw [hafter]
    refine f.others_of_writes ?_ r
    rwa [f.map_id_of_rereads hrereads]

end Form

/-- The containers. -/
def containers : Form ContainerRecord where
  kind := .container
  read := ContainerRecord.ofNode?
  write := ContainerRecord.toJson
  resource := .container
  list := .containerList
  single := [.containerCreated, .containerUpdated]
  kind_resource _ := rfl
  decode_list _ := rfl
  decode_single := by
    simp only [List.forall_mem_cons]
    exact ⟨fun _ => rfl, fun _ => rfl, nofun⟩
  read_succ := ContainerRecord.ofNode?_succ
  id_of_reread? hnode hread := id_of_reread? hnode hread

/-- The images. -/
def images : Form ImageRecord where
  kind := .image
  read := ImageRecord.ofNode?
  write := ImageRecord.toJson
  resource := .image
  list := .imageList
  single := [.imageCreated, .imageUpdated]
  kind_resource _ := rfl
  decode_list _ := rfl
  decode_single := by
    simp only [List.forall_mem_cons]
    exact ⟨fun _ => rfl, fun _ => rfl, nofun⟩
  read_succ := ImageRecord.ofNode?_succ
  id_of_reread? hnode hread := image_id_of_reread? hnode hread

/-- A report that is sent again changes nothing and is answered as before. A report changes nothing but
the records that its command is about. A list of containers or images that is read is a batch. -/
theorem reports_repeat_and_batch (r : Registry) (peer : Option Ip) :
    (∀ payload, handlePayload (handlePayload r peer payload).1 peer payload =
      handlePayload r peer payload) ∧
    (∀ payload command data, opened? payload = .ok (command, data) →
      DiffersIn (kindOf command) r (handlePayload r peer payload).1) ∧
    (∀ xs ys, Change.decodeList? containers.read (containers.listData xs) = .ok ys →
      containers.IsBatch r peer xs) ∧
    ∀ xs ys, Change.decodeList? images.read (images.listData xs) = .ok ys →
      images.IsBatch r peer xs :=
  ⟨handlePayload_handlePayload r peer, fun _ _ _ h => differsIn_handlePayload h r peer,
    fun _ _ h => containers.isBatch h r peer, fun _ _ h => images.isBatch h r peer⟩

/-- A container comes twice in a list, and the second is kept. -/
theorem second_of_two_is_kept :
    let x : ContainerRecord := ⟨"c1", "", "", 1, "", [], "", []⟩
    let x' : ContainerRecord := ⟨"c1", "", "", 2, "", [], "", []⟩
    let y : ImageRecord := ⟨"i1", [], 0, 0, 0, "", "", []⟩
    let after := (handlePayload (.empty false) none (containers.listPayload [x, x'])).1
    Change.decodeList? containers.read (containers.listData [x, x']) = .ok [x, x'] ∧
      Change.decodeList? images.read (images.listData [y]) = .ok [y] ∧
      opened? (containers.listPayload [x, x']) = .ok (.containerList, containers.listData [x, x']) ∧
      containers.IsBatch (.empty false) none [x, x'] ∧ images.IsBatch (.empty false) none [y] ∧
      DiffersIn .container (.empty false) after ∧
      after.record? .container "c1" = some (.container x') := by
  intro x x' y after
  obtain ⟨-, hdiffers, hcontainers, himages⟩ := reports_repeat_and_batch (.empty false) none
  have hzero : Json.IsWhole (Json.ofInt 0) := .number (by decide) (by decide)
  have hx : Json.IsWhole x.toJson := .object (List.forall_mem_cons.2 ⟨.text "c1",
    List.forall_mem_singleton.2 (.number (by decide) (by decide))⟩)
  have hx' : Json.IsWhole x'.toJson := .object (List.forall_mem_cons.2 ⟨.text "c1",
    List.forall_mem_singleton.2 (.number (by decide) (by decide))⟩)
  have hy : Json.IsWhole y.toJson := .object (List.forall_mem_cons.2 ⟨.text "i1",
    List.forall_mem_cons.2 ⟨hzero, List.forall_mem_cons.2 ⟨hzero,
      List.forall_mem_singleton.2 hzero⟩⟩⟩)
  have hdecode : Change.decodeList? containers.read (containers.listData [x, x']) = .ok [x, x'] :=
    decodeList?_render
      (.array (List.forall_mem_cons.2 ⟨hx, List.forall_mem_singleton.2 hx'⟩))
      (List.forall_mem_cons.2 ⟨rfl, List.forall_mem_singleton.2 rfl⟩)
  have himage : Change.decodeList? images.read (images.listData [y]) = .ok [y] :=
    decodeList?_render (.array (List.forall_mem_singleton.2 hy))
      (List.forall_mem_singleton.2 rfl)
  have hopened : opened? (containers.listPayload [x, x']) =
      .ok (.containerList, containers.listData [x, x']) :=
    opened?_eq_ok_iff.2 ⟨Json.ofText_render_ne_nil _, rfl⟩
  have hbatch := hcontainers [x, x'] [x, x'] hdecode
  refine ⟨hdecode, himage, hopened, hbatch, himages [y] [y] himage, hdiffers _ _ _ hopened, ?_⟩
  obtain ⟨z, hz, hrecord, -⟩ := hbatch.last_wins [x] x' [] rfl nofun
  have hone : Change.decodeOne? containers.read (Bytes.ofText (containers.write x').render) = .ok x' :=
    decodeOne?_render.2 ⟨_, hx'.reread?_eq, rfl⟩
  obtain rfl : x' = z := Except.ok.inj (hone.symm.trans hz.1)
  exact hrecord

end Report

end HostFleet
