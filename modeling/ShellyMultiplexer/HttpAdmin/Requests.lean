import Mathlib.Logic.Function.Basic
import ShellyMultiplexer.HttpAdmin.Update

/-! # Requests side by side

Each request to replace a section reads the live configuration, validates its own version of it,
writes the temporary file, renames it and stores what it has. Nothing keeps another request from
running between two of these steps.
-/
namespace ShellyMultiplexer
open Foundation

inductive RequestPhase
  | waiting
  | read (new : Config)
  | validated (new : Config)
  | written (new : Config)
  | renamed (new : Config)
  | finished (response : AdminResponse)
  deriving DecidableEq

structure PutRequest where
  update : SectionUpdate
  phase : RequestPhase := .waiting

structure RequestSystem extends AdminSystem where
  requests : ℕ → PutRequest

def RequestSystem.start (env : AdminEnv) (cfg : Config) (updates : ℕ → SectionUpdate) :
    RequestSystem where
  toAdminSystem := AdminSystem.start env cfg
  requests i := { update := updates i }

namespace RequestSystem

/-- Request `i` has come to a phase and left the rest as given. -/
def moveTo (sys : RequestSystem) (i : ℕ) (phase : RequestPhase) (admin : AdminSystem) :
    RequestSystem where
  toAdminSystem := admin
  requests := Function.update sys.requests i { sys.requests i with phase := phase }

/-- The next step of request `i`. -/
def advance (env : AdminEnv) (sys : RequestSystem) (i : ℕ) (io : IoOutcome) : RequestSystem :=
  match (sys.requests i).phase with
  | .waiting =>
    match (sys.requests i).update.merge sys.live with
    | .error response => sys.moveTo i (.finished response) sys.toAdminSystem
    | .ok new => sys.moveTo i (.read new) sys.toAdminSystem
  | .read new =>
    match validateNew env new with
    | .error response => sys.moveTo i (.finished response) sys.toAdminSystem
    | .ok new => sys.moveTo i (.validated new) sys.toAdminSystem
  | .validated new =>
    match writeTmp env sys.disk new io with
    | (disk,.error response) =>
      sys.moveTo i (.finished response) { sys.toAdminSystem with disk := disk }
    | (disk,.ok ()) => sys.moveTo i (.written new) { sys.toAdminSystem with disk := disk }
  | .written new =>
    match renameTmp env sys.disk io with
    | (disk,.error response) =>
      sys.moveTo i (.finished response) { sys.toAdminSystem with disk := disk }
    | (disk,.ok ()) => sys.moveTo i (.renamed new) { sys.toAdminSystem with disk := disk }
  | .renamed new => sys.moveTo i (.finished .ok) (sys.toAdminSystem.store new)
  | .finished _ => sys

end RequestSystem

/-- A request takes its next step, and the file system answers it. -/
structure RequestEvent where
  request : ℕ
  io : IoOutcome := {}

def requestStep (env : AdminEnv) (sys : RequestSystem) (e : RequestEvent) : RequestSystem :=
  sys.advance env e.request e.io

variable {env : AdminEnv} {sys : RequestSystem} {i : ℕ} {io : IoOutcome}

namespace RequestSystem

@[simp] theorem moveTo_admin (phase : RequestPhase) (admin : AdminSystem) :
    (sys.moveTo i phase admin).toAdminSystem = admin := rfl

@[simp] theorem moveTo_self (phase : RequestPhase) (admin : AdminSystem) :
    (sys.moveTo i phase admin).requests i = { sys.requests i with phase := phase } := by
  simp [moveTo]

theorem moveTo_other {j : ℕ} (h : j ≠ i) (phase : RequestPhase) (admin : AdminSystem) :
    (sys.moveTo i phase admin).requests j = sys.requests j := by simp [moveTo,h]

@[simp] theorem moveTo_update (j : ℕ) (phase : RequestPhase) (admin : AdminSystem) :
    ((sys.moveTo i phase admin).requests j).update = (sys.requests j).update := by
  by_cases h : j = i
  · subst h
    simp
  · rw [moveTo_other h]

/-- A request that has been answered takes no further step. -/
theorem advance_finished {response : AdminResponse}
    (h : (sys.requests i).phase = .finished response) : sys.advance env i io = sys := by
  simp only [advance,h]

end RequestSystem

/-- Undisturbed, a request does what `api_put_section` does in one go. -/
theorem run_undisturbed (env : AdminEnv) (sys : RequestSystem) (i : ℕ) (io : IoOutcome)
    (h : (sys.requests i).phase = .waiting) :
    (run (requestStep env) sys (List.replicate 5 ⟨i,io⟩)).toAdminSystem =
      (apiPutSection env sys.toAdminSystem (sys.requests i).update io).1 ∧
    ((run (requestStep env) sys (List.replicate 5 ⟨i,io⟩)).requests i).phase =
      .finished (apiPutSection env sys.toAdminSystem (sys.requests i).update io).2 := by
  change (sys.advance env i io |>.advance env i io |>.advance env i io |>.advance env i io
      |>.advance env i io).toAdminSystem = _ ∧
    ((sys.advance env i io |>.advance env i io |>.advance env i io |>.advance env i io
      |>.advance env i io).requests i).phase = _
  unfold apiPutSection applyNewConfig
  cases hm : (sys.requests i).update.merge sys.live with
  | error response => simp [RequestSystem.advance,h,hm]
  | ok merged =>
    cases hv : validateNew env merged with
    | error response => simp [RequestSystem.advance,h,hm,hv]
    | ok new =>
      rcases hw : writeTmp env sys.disk new io with ⟨disk,written⟩
      cases written with
      | error response => simp [RequestSystem.advance,h,hm,hv,hw]
      | ok _ =>
        rcases hr : renameTmp env disk io with ⟨disk',renamed⟩
        cases renamed with
        | error response => simp [RequestSystem.advance,h,hm,hv,hw,hr]
        | ok _ => simp [RequestSystem.advance,h,hm,hv,hw,hr]

end ShellyMultiplexer
