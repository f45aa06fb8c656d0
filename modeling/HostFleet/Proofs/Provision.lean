import HostFleet.Provision
import HostFleet.Proofs.Text.Trim

/-! # White space around the name of an image

A request names an image. The name is validated and told to the engine without the white space around it,
but looked up in the registry with it.

* `Alike`: two orders that differ at most in the white space around the image, and in the request's id.
* `Alike.accept_host`, `Alike.imageReference_eq`: they are accepted alike, for the same image.
* `run_eq`: an order is a connection, perhaps a pull, and what comes behind it.
* `runs_differ_by_the_pull`: two such orders run alike exactly if both or neither of the names is known,
  and otherwise one of them pulls the image and the other does not.
-/

set_option autoImplicit false

namespace HostFleet

/-- Has some host the image under just this name? -/
def Registry.hasImage (r : Registry) (imageId : String) : Bool := (r.imageOwner? imageId).isSome

/-- Is the call a pull? -/
def Engine.Call.isPull : Engine.Call → Bool
  | .pull _ => true
  | _ => false

namespace Provision

variable {σ : Type} {p q : Provision}

/-- The same order, but for the white space around the image and the id of the request. -/
structure Alike (p q : Provision) : Prop where
  host : q.host = p.host
  image : Text.SameWithin p.request.imageId q.request.imageId
  cmd : q.request.cmd = p.request.cmd
  env : q.request.env = p.request.env
  hostConfig : q.request.hostConfig = p.request.hostConfig
  imageRegistry : q.imageRegistry = p.imageRegistry

/-! ## What does not depend on the white space -/

/-- What the registry becomes, and the host or the fault. -/
theorem accept_eq (r : Registry) (request : CreateRequest) (imageRegistry requestId : String) :
    accept r request imageRegistry requestId =
      if (Text.trim request.imageId).isEmpty then (r, .error (.badParameter "image_id is required"))
      else (r.selectHost.1, match r.selectHost.2 with
        | some host => .ok ⟨requestId, host, request, imageRegistry⟩
        | none => .error .missingRoute) := by
  unfold accept
  split
  · rfl
  · obtain ⟨after, host⟩ := r.selectHost
    cases host <;> rfl

namespace Alike

theorem trim_eq (h : Alike p q) : Text.trim q.request.imageId = Text.trim p.request.imageId :=
  (Text.sameWithin_iff.1 h.image).symm

/-- Both are accepted, on the same host, or both are refused with the same fault. -/
theorem accept_host (h : Alike p q) (r : Registry) (imageRegistry requestId requestId' : String) :
    (accept r q.request imageRegistry requestId').1 = (accept r p.request imageRegistry requestId).1 ∧
      (accept r q.request imageRegistry requestId').2.map (·.host) =
        (accept r p.request imageRegistry requestId).2.map (·.host) := by
  rw [Provision.accept_eq, Provision.accept_eq, h.trim_eq]
  split
  · exact ⟨rfl, rfl⟩
  · cases r.selectHost.2 <;> exact ⟨rfl, rfl⟩

theorem imageReference_eq (h : Alike p q) : q.imageReference = p.imageReference := by
  unfold imageReference
  simp only [h.trim_eq, h.imageRegistry]

theorem options_eq (h : Alike p q) : q.options = p.options := by
  unfold options
  rw [h.imageReference_eq, h.cmd, h.env]

end Alike

/-! ## Runs in parts -/

/-- Creates the container and starts it. -/
def finish (engine : Engine σ) (s : σ) (calls : List Engine.Call) (p : Provision) : Outcome σ :=
  let calls := .create p.options :: calls
  match engine.create s p.options with
  | (s, .error fault) => ⟨s, calls, .error fault⟩
  | (s, .ok id) =>
    let hostConfig := p.request.hostConfig.getD (.object [])
    let calls := .start id hostConfig :: calls
    match engine.start s id hostConfig with
    | (s, .error fault) => ⟨s, calls, .error fault⟩
    | (s, .ok ()) => ⟨s, calls, .ok id⟩

/-- An order connects to its host, pulls the image unless its name is known, and finishes. -/
theorem run_eq (engine : Engine σ) (s : σ) (r : Registry) (p : Provision) :
    run engine s r p =
      match engine.connect s p.host.address with
      | (s, .error fault) => ⟨s, [.connect p.host.address], .error fault⟩
      | (s, .ok ()) =>
        if r.hasImage p.request.imageId then finish engine s [.connect p.host.address] p
        else match engine.pull s p.imageReference with
          | (s, .error fault) =>
            ⟨s, [.pull p.imageReference, .connect p.host.address], .error fault⟩
          | (s, .ok ()) =>
            finish engine s [.pull p.imageReference, .connect p.host.address] p := by
  unfold run Registry.hasImage
  obtain ⟨s, _ | ⟨⟨⟩⟩⟩ := engine.connect s p.host.address
  · rfl
  · cases (r.imageOwner? p.request.imageId).isSome with
    | true => rfl
    | false =>
      rcases hpull : engine.pull s p.imageReference with ⟨pulled, _ | ⟨⟨⟩⟩⟩
      · simp only [hpull, Bool.false_eq_true, if_false]
      · simp only [hpull, Bool.false_eq_true, if_false]
        rfl

/-- The calls that are made behind others are the same whatever those are. -/
theorem finish_eq_append (engine : Engine σ) (s : σ) (calls : List Engine.Call) (p : Provision) :
    finish engine s calls p =
      ⟨(finish engine s [] p).state, (finish engine s [] p).calls ++ calls,
        (finish engine s [] p).result⟩ := by
  unfold finish
  obtain ⟨s, _ | id⟩ := engine.create s p.options
  · rfl
  · dsimp only
    obtain ⟨s, _ | ⟨⟨⟩⟩⟩ := engine.start s id (p.request.hostConfig.getD (.object [])) <;> rfl

theorem Alike.finish_eq (h : Alike p q) (engine : Engine σ) (s : σ) (calls : List Engine.Call) :
    finish engine s calls q = finish engine s calls p := by
  unfold finish
  rw [h.options_eq, h.hostConfig]

/-! ## Two runs -/

theorem Alike.run_eq_of_hasImage (h : Alike p q) {r : Registry}
    (hknown : r.hasImage q.request.imageId = r.hasImage p.request.imageId) (engine : Engine σ) (s : σ) :
    run engine s r q = run engine s r p := by
  rw [run_eq, run_eq, hknown, h.host, h.imageReference_eq]
  simp only [h.finish_eq]

/-- Every call succeeds. -/
def willing : Engine Unit where
  connect s _ := (s, .ok ())
  pull s _ := (s, .ok ())
  create s _ := (s, .ok "c1")
  start s _ _ := (s, .ok ())

theorem length_calls_willing (r : Registry) (p : Provision) :
    (run willing () r p).calls.length = if r.hasImage p.request.imageId then 3 else 4 := by
  rw [run_eq]
  cases r.hasImage p.request.imageId <;> rfl

/-- Without its pulls a run is the same for all names, if pulling does nothing. -/
theorem Alike.run_without_pulls (h : Alike p q) (engine : Engine σ) (s : σ) (r : Registry)
    (hpull : ∀ s, engine.pull s p.imageReference = (s, .ok ())) :
    (run engine s r q).state = (run engine s r p).state ∧
      (run engine s r q).result = (run engine s r p).result ∧
      (run engine s r q).calls.filter (!·.isPull) = (run engine s r p).calls.filter (!·.isPull) := by
  rw [run_eq, run_eq, h.host, h.imageReference_eq]
  obtain ⟨s, _ | ⟨⟨⟩⟩⟩ := engine.connect s p.host.address
  · exact ⟨rfl, rfl, rfl⟩
  · simp only [hpull, h.finish_eq]
    rw [finish_eq_append engine s [.connect p.host.address] p,
      finish_eq_append engine s [.pull p.imageReference, .connect p.host.address] p]
    split <;> split <;> simp [List.filter_append, Engine.Call.isPull]

/-- Two orders that differ at most in the white space around the image are accepted alike, on the same
host, and are for the same image. They run alike on every engine if and only if the registry knows both or
neither of the two names as they stand. Where it knows just one, only one of them pulls: an engine on
which pulling does nothing ends in the same state with the same result, asked the same but for the pull. -/
theorem runs_differ_by_the_pull (h : Alike p q) (r : Registry) :
    (∀ imageRegistry requestId requestId',
      (accept r q.request imageRegistry requestId').1 = (accept r p.request imageRegistry requestId).1 ∧
      (accept r q.request imageRegistry requestId').2.map (·.host) =
        (accept r p.request imageRegistry requestId).2.map (·.host)) ∧
    q.imageReference = p.imageReference ∧
    ((∀ (σ : Type) (engine : Engine σ) (s : σ), run engine s r q = run engine s r p) ↔
      r.hasImage q.request.imageId = r.hasImage p.request.imageId) ∧
    ∀ (σ : Type) (engine : Engine σ) (s : σ),
      (∀ s, engine.pull s p.imageReference = (s, .ok ())) →
        (run engine s r q).state = (run engine s r p).state ∧
        (run engine s r q).result = (run engine s r p).result ∧
        (run engine s r q).calls.filter (!·.isPull) = (run engine s r p).calls.filter (!·.isPull) := by
  refine ⟨h.accept_host r, h.imageReference_eq, ⟨fun hsame => ?_, ?_⟩, ?_⟩
  · have hlength := congrArg (·.calls.length) (hsame Unit willing ())
    simp only [length_calls_willing] at hlength
    cases hq : r.hasImage q.request.imageId <;> cases hp : r.hasImage p.request.imageId <;>
      simp [hq, hp] at hlength ⊢
  · intro hknown σ engine s
    exact h.run_eq_of_hasImage hknown engine s
  · intro σ engine s hpull
    exact h.run_without_pulls engine s r hpull

/-! ## A padded name -/

/-- A host on which containers are made. -/
def maker : Endpoint := ⟨"tcp://10.0.0.1:4243", "node1", .containerRuntimeInternal, 1, ⟨0⟩, .peer⟩

/-- An order for an image. -/
def order (requestId imageId : String) : Provision := ⟨requestId, maker, ⟨imageId, [], [], none⟩, ""⟩

/-- The host and one image, which another host has. -/
def stocked : Registry :=
  ((Registry.empty false).addEndpoint maker).registerImage "busybox"
    ⟨"busybox", [], 0, 0, 0, "", "tcp://10.0.0.2:4243", []⟩

theorem alike_padded : Alike (order "r1" "busybox") (order "r2" " busybox") where
  host := rfl
  image := by decide +kernel
  cmd := rfl
  env := rfl
  hostConfig := rfl
  imageRegistry := rfl

theorem hasImage_stocked :
    stocked.hasImage (order "r1" "busybox").request.imageId = true ∧
      stocked.hasImage (order "r2" " busybox").request.imageId = false := by
  decide +kernel

theorem imageReference_order :
    (order "r1" "busybox").imageReference = "busybox" ∧
      (order "r2" " busybox").imageReference = "busybox" := by
  decide +kernel

/-- Where nothing is known a padded name is as good as the plain one, and where the plain one is known
the runs still end alike. -/
theorem padded_name_is_made_alike :
    Alike (order "r1" "busybox") (order "r2" " busybox") ∧
      (∀ (σ : Type) (engine : Engine σ) (s : σ),
        run engine s (.empty false) (order "r2" " busybox") =
          run engine s (.empty false) (order "r1" "busybox")) ∧
      (∀ s, willing.pull s (order "r1" "busybox").imageReference = (s, .ok ())) ∧
      (run willing () stocked (order "r2" " busybox")).result =
        (run willing () stocked (order "r1" "busybox")).result :=
  ⟨alike_padded, (runs_differ_by_the_pull alike_padded (.empty false)).2.2.1.2 rfl, fun _ => rfl,
    ((runs_differ_by_the_pull alike_padded stocked).2.2.2 Unit willing () fun _ => rfl).2.1⟩

/-- Both orders are accepted, for one host and one image; the padded one pulls what is there. -/
theorem padded_name_is_pulled_again :
    Alike (order "r1" "busybox") (order "r2" " busybox") ∧
      (accept stocked (order "r1" "busybox").request "" "r1").2 = .ok (order "r1" "busybox") ∧
      (accept stocked (order "r2" " busybox").request "" "r2").2 = .ok (order "r2" " busybox") ∧
      (run willing () stocked (order "r1" "busybox")).calls =
        [.start "c1" (.object []), .create (.forImage "busybox"), .connect "tcp://10.0.0.1:4243"] ∧
      (run willing () stocked (order "r2" " busybox")).calls =
        [.start "c1" (.object []), .create (.forImage "busybox"), .pull "busybox",
          .connect "tcp://10.0.0.1:4243"] := by
  have hselect : stocked.selectHost.2 = some maker := by decide +kernel
  have hplain : ¬(Text.trim (order "r1" "busybox").request.imageId).isEmpty = true := by
    decide +kernel
  have hpadded : ¬(Text.trim (order "r2" " busybox").request.imageId).isEmpty = true := by
    decide +kernel
  refine ⟨alike_padded, ?_, ?_, ?_, ?_⟩
  · rw [accept_eq, if_neg hplain, hselect]
    rfl
  · rw [accept_eq, if_neg hpadded, hselect]
    rfl
  · rw [run_eq, hasImage_stocked.1]
    unfold finish options
    rw [imageReference_order.1]
    rfl
  · rw [run_eq, hasImage_stocked.2]
    unfold finish options
    rw [imageReference_order.2]
    rfl

end Provision

end HostFleet
