import ShellyMultiplexer.Foundation.Fold
import ShellyMultiplexer.HttpAdmin.Requests
import ShellyMultiplexer.Model.Topology

/-! # Concurrent section updates

A request stores the configuration that it has read, with its own section replaced, and the file
that it renames is the one that was written last. Another request in between loses its section, or
leaves a file that is not what is live.
-/
namespace ShellyMultiplexer
open Foundation

/-- The section of the configuration is the one of the update, up to the token. -/
def SectionUpdate.Holds (env : AdminEnv) (u : SectionUpdate) (cfg : Config) : Prop :=
  match u with
  | realShelly v => cfg.realShelly = v
  | virtualShelly v => cfg.virtualShelly = v
  | virtualModbus v => cfg.virtualModbus = v
  | management v => cfg.management = v
  | dispatcher v => cfg.dispatcher = v
  | homeAssistant v => cfg.homeAssistant = env.reinject v
  | location v => cfg.location = v
  | circuits v => cfg.circuits = v
  | batteries v => cfg.batteries = v
  | unknown _ => False
  | unparsable _ _ => False

/-- The configuration that a request stores when it has read this one. -/
def SectionUpdate.Carries (env : AdminEnv) (u : SectionUpdate) (live new : Config) : Prop :=
  ∃ merged, u.merge live = .ok merged ∧
    new = { merged with homeAssistant := env.reinject merged.homeAssistant }

/-- A configuration without the token of the environment. -/
def AdminEnv.masked (env : AdminEnv) (cfg : Config) : Config :=
  if isBlank cfg.homeAssistant.token ∨ env.token? = some cfg.homeAssistant.token then
    { cfg with homeAssistant := { cfg.homeAssistant with token := "" } }
  else cfg

namespace RequestSystem

def Accepted (sys : RequestSystem) (i : ℕ) : Prop := (sys.requests i).phase = .finished .ok

/-- Every request that has begun has been answered. -/
def Quiet (sys : RequestSystem) : Prop :=
  ∀ i, (sys.requests i).phase = .waiting ∨ ∃ response, (sys.requests i).phase = .finished response

/-- Every accepted update that no other one for the same section competes with is live, and the file
says what is live. -/
structure NoneLost (env : AdminEnv) (sys : RequestSystem) : Prop where
  kept : ∀ i, sys.Accepted i →
    (∀ j, j ≠ i → sys.Accepted j → (sys.requests j).update.name ≠ (sys.requests i).update.name) →
      (sys.requests i).update.Holds env sys.live
  persisted : ∃ cfg, sys.disk.file = .toml cfg ∧ env.masked cfg = env.masked sys.live

/-- A request stores what it would read now with its section replaced, and the file is its own. -/
def StoresItsOwn (env : AdminEnv) (sys : RequestSystem) (e : RequestEvent) : Prop :=
  ∀ new, (sys.requests e.request).phase = .renamed new →
    (sys.requests e.request).update.Carries env sys.live new ∧
      sys.disk.file = .toml (env.forDisk new)

end RequestSystem

/-! ## Sections and tokens -/

variable {env : AdminEnv}

theorem reinject_reinject (h : HomeAssistantConfig) :
    env.reinject (env.reinject h) = env.reinject h := by
  unfold AdminEnv.reinject
  cases env.token? <;> by_cases hb : isBlank h.token = true <;> simp [hb]

theorem holds_of_merge {u : SectionUpdate} {cfg merged : Config} (h : u.merge cfg = .ok merged) :
    u.Holds env { merged with homeAssistant := env.reinject merged.homeAssistant } := by
  cases u <;> cases h <;> rfl

/-- An update of another section is left in place. -/
theorem holds_of_merge_other {u v : SectionUpdate} {cfg merged : Config}
    (h : u.merge cfg = .ok merged) (hname : u.name ≠ v.name) (hv : v.Holds env cfg) :
    v.Holds env { merged with homeAssistant := env.reinject merged.homeAssistant } := by
  cases u <;> cases h <;> cases v <;> first
    | exact hv
    | exact absurd rfl hname
    | (simp only [SectionUpdate.Holds] at hv ⊢; simp [hv,reinject_reinject])

theorem masked_forDisk (env : AdminEnv) (cfg : Config) :
    env.masked (env.forDisk cfg) = env.masked cfg := by
  unfold AdminEnv.forDisk
  by_cases h : env.token? = some cfg.homeAssistant.token
  · have hblank : isBlank "" = true := rfl
    simp [AdminEnv.masked,h,hblank]
  · simp [h]

theorem masked_atStartup (env : AdminEnv) (cfg : Config) :
    env.masked (env.atStartup cfg) = env.masked cfg := by
  unfold AdminEnv.atStartup
  by_cases h : cfg.homeAssistant.token = ""
  · have hblank : isBlank "" = true := rfl
    cases ht : env.token? with
    | none => simp [AdminEnv.masked,h,hblank,ht]
    | some t => simp [AdminEnv.masked,h,hblank,ht]
  · simp [h]

/-! ## What a step can do -/

variable {sys : RequestSystem} {i : ℕ} {io : IoOutcome}

theorem merge_error {u : SectionUpdate} {cfg : Config} {response : AdminResponse}
    (h : u.merge cfg = .error response) : response ≠ .ok := by
  cases u <;> cases h <;> simp

theorem validateNew_error {new : Config} {response : AdminResponse}
    (h : validateNew env new = .error response) : response ≠ .ok := by
  unfold validateNew at h
  split at h <;> cases h
  simp

theorem validateNew_ok {merged new : Config} (h : validateNew env merged = .ok new) :
    new = { merged with homeAssistant := env.reinject merged.homeAssistant } := by
  unfold validateNew at h
  split at h <;> cases h
  rfl

theorem writeTmp_spec {disk disk' : AdminDisk} {cfg : Config} {r : Except AdminResponse Unit}
    (h : writeTmp env disk cfg io = (disk',r)) : disk'.file = disk.file ∧ r ≠ .error .ok := by
  unfold writeTmp at h
  split at h
  · cases h
    simp
  · split at h <;> cases h <;> simp

theorem writeTmp_ok {disk disk' : AdminDisk} {cfg : Config}
    (h : writeTmp env disk cfg io = (disk',.ok ())) :
    disk'.tmp = some (.toml (env.forDisk cfg)) := by
  unfold writeTmp at h
  split at h
  · cases h
  · split at h <;> cases h
    rfl

theorem renameTmp_ok {disk disk' : AdminDisk} (h : renameTmp env disk io = (disk',.ok ())) :
    disk.tmp = some disk'.file := by
  unfold renameTmp at h
  dsimp only at h
  split at h <;> cases h
  assumption

theorem renameTmp_error {disk disk' : AdminDisk} {response : AdminResponse}
    (h : renameTmp env disk io = (disk',.error response)) :
    disk'.file = disk.file ∧ response ≠ .ok := by
  unfold renameTmp at h
  dsimp only at h
  split at h <;> cases h <;> simp

/-- Before the rename. -/
def RequestPhase.early : RequestPhase → Bool
  | waiting => true
  | read _ => true
  | validated _ => true
  | written _ => true
  | renamed _ => false
  | finished _ => false

namespace RequestSystem

/-- A step that stores nothing: the live configuration stays, the request is not accepted by it, and
the file stays as well unless the request has renamed it. -/
structure Prepares (sys : RequestSystem) (i : ℕ) (phase : RequestPhase) (admin : AdminSystem) :
    Prop where
  live : admin.live = sys.live
  before : ¬ sys.Accepted i
  after : phase ≠ .finished .ok
  file : (admin.disk.file = sys.disk.file ∧ ∀ new, (sys.requests i).phase ≠ .renamed new) ∨
    ∃ new, phase = .renamed new

/-- A request that has neither stored nor come to its end, and a step that leaves the file. -/
theorem Prepares.of_file {phase : RequestPhase} {admin : AdminSystem}
    (hearly : (sys.requests i).phase.early = true) (hlive : admin.live = sys.live)
    (hfile : admin.disk.file = sys.disk.file) (hafter : phase ≠ .finished .ok) :
    sys.Prepares i phase admin where
  live := hlive
  before := fun ha => by rw [ha] at hearly; cases hearly
  after := hafter
  file := Or.inl ⟨hfile,fun new hn => by rw [hn] at hearly; cases hearly⟩

theorem advance_cases (env : AdminEnv) (sys : RequestSystem) (i : ℕ) (io : IoOutcome) :
    sys.advance env i io = sys ∨
      (∃ phase admin, sys.advance env i io = sys.moveTo i phase admin ∧
        sys.Prepares i phase admin) ∨
      ∃ new, (sys.requests i).phase = .renamed new ∧
        sys.advance env i io = sys.moveTo i (.finished .ok) (sys.toAdminSystem.store new) := by
  cases h : (sys.requests i).phase with
  | waiting =>
    have hearly : (sys.requests i).phase.early = true := by rw [h]; rfl
    refine Or.inr (Or.inl ?_)
    cases hm : (sys.requests i).update.merge sys.live with
    | error response =>
      refine ⟨.finished response,sys.toAdminSystem,by simp only [advance,h,hm],?_⟩
      exact .of_file hearly rfl rfl (by simpa using merge_error hm)
    | ok new =>
      refine ⟨.read new,sys.toAdminSystem,by simp only [advance,h,hm],?_⟩
      exact .of_file hearly rfl rfl (by simp)
  | read merged =>
    have hearly : (sys.requests i).phase.early = true := by rw [h]; rfl
    refine Or.inr (Or.inl ?_)
    cases hv : validateNew env merged with
    | error response =>
      refine ⟨.finished response,sys.toAdminSystem,by simp only [advance,h,hv],?_⟩
      exact .of_file hearly rfl rfl (by simpa using validateNew_error hv)
    | ok new =>
      refine ⟨.validated new,sys.toAdminSystem,by simp only [advance,h,hv],?_⟩
      exact .of_file hearly rfl rfl (by simp)
  | validated new =>
    have hearly : (sys.requests i).phase.early = true := by rw [h]; rfl
    refine Or.inr (Or.inl ?_)
    rcases hw : writeTmp env sys.disk new io with ⟨disk,written⟩
    obtain ⟨hfile,hno⟩ := writeTmp_spec hw
    cases written with
    | error response =>
      refine ⟨.finished response,{ sys.toAdminSystem with disk := disk },
        by simp only [advance,h,hw],?_⟩
      exact .of_file hearly rfl hfile (by simpa using hno)
    | ok _ =>
      refine ⟨.written new,{ sys.toAdminSystem with disk := disk },
        by simp only [advance,h,hw],?_⟩
      exact .of_file hearly rfl hfile (by simp)
  | written new =>
    have hearly : (sys.requests i).phase.early = true := by rw [h]; rfl
    refine Or.inr (Or.inl ?_)
    rcases hr : renameTmp env sys.disk io with ⟨disk,renamed⟩
    cases renamed with
    | error response =>
      obtain ⟨hfile,hno⟩ := renameTmp_error hr
      refine ⟨.finished response,{ sys.toAdminSystem with disk := disk },
        by simp only [advance,h,hr],?_⟩
      exact .of_file hearly rfl hfile (by simpa using hno)
    | ok _ =>
      refine ⟨.renamed new,{ sys.toAdminSystem with disk := disk },
        by simp only [advance,h,hr],rfl,?_,by simp,Or.inr ⟨new,rfl⟩⟩
      simp [Accepted,h]
  | renamed new => exact Or.inr (Or.inr ⟨new,rfl,by simp only [advance,h]⟩)
  | finished response => exact Or.inl (advance_finished h)

/-! ## The invariant -/

/-- Until a request that has renamed the file stores its configuration, the file is ahead. -/
structure Consistent (env : AdminEnv) (sys : RequestSystem) : Prop where
  kept : ∀ i, sys.Accepted i → (sys.requests i).update.Holds env sys.live ∨
    ∃ j, j ≠ i ∧ sys.Accepted j ∧ (sys.requests j).update.name = (sys.requests i).update.name
  persisted : (∃ cfg, sys.disk.file = .toml cfg ∧ env.masked cfg = env.masked sys.live) ∨
    ∃ i new, (sys.requests i).phase = .renamed new

theorem accepted_moveTo_of_ne {phase : RequestPhase} {admin : AdminSystem} {j : ℕ} (h : j ≠ i) :
    (sys.moveTo i phase admin).Accepted j ↔ sys.Accepted j := by
  rw [Accepted, Accepted, moveTo_other h]

theorem consistent_prepare {phase : RequestPhase} {admin : AdminSystem} (h : sys.Consistent env)
    (hp : sys.Prepares i phase admin) : (sys.moveTo i phase admin).Consistent env := by
  have hacc : ∀ j, (sys.moveTo i phase admin).Accepted j ↔ sys.Accepted j := by
    intro j
    by_cases hj : j = i
    · subst hj
      refine iff_of_false (fun ha => hp.after ?_) hp.before
      simpa [Accepted] using ha
    · exact accepted_moveTo_of_ne hj
  constructor
  · intro k hk
    simpa [hp.live,hacc] using h.kept k ((hacc k).mp hk)
  · rcases hp.file with ⟨hfile,hnot⟩ | ⟨new,rfl⟩
    · rcases h.persisted with hsaved | ⟨j,new,hj⟩
      · exact Or.inl (by simpa [hfile,hp.live] using hsaved)
      · have hji : j ≠ i := fun he => hnot new (he ▸ hj)
        exact Or.inr ⟨j,new,by rw [moveTo_other hji, hj]⟩
    · exact Or.inr ⟨i,new,by simp⟩

theorem consistent_store {new : Config} (h : sys.Consistent env)
    (hphase : (sys.requests i).phase = .renamed new) (hown : sys.StoresItsOwn env ⟨i,io⟩) :
    (sys.moveTo i (.finished .ok) (sys.toAdminSystem.store new)).Consistent env := by
  obtain ⟨⟨merged,hmerge,hnew⟩,hfile⟩ := hown new hphase
  subst hnew
  have hmine : (sys.moveTo i (.finished .ok) (sys.toAdminSystem.store
      { merged with homeAssistant := env.reinject merged.homeAssistant })).Accepted i := by
    simp [Accepted]
  constructor
  · intro k hk
    rw [moveTo_update, moveTo_admin]
    by_cases hki : k = i
    · subst hki
      exact Or.inl (holds_of_merge hmerge)
    by_cases hname : (sys.requests i).update.name = (sys.requests k).update.name
    · exact Or.inr ⟨i,Ne.symm hki,hmine,by rw [moveTo_update, hname]⟩
    · rcases h.kept k ((accepted_moveTo_of_ne hki).mp hk) with hold | ⟨j,hjk,hj,hjname⟩
      · exact Or.inl (holds_of_merge_other hmerge hname hold)
      · refine Or.inr ⟨j,hjk,?_,by rw [moveTo_update, hjname]⟩
        by_cases hji : j = i
        · exact hji ▸ hmine
        · exact (accepted_moveTo_of_ne hji).mpr hj
  · exact Or.inl ⟨_,hfile,masked_forDisk env _⟩

theorem consistent_start (env : AdminEnv) (cfg : Config) (updates : ℕ → SectionUpdate) :
    (RequestSystem.start env cfg updates).Consistent env where
  kept i h := by cases h
  persisted := Or.inl ⟨cfg,rfl,(masked_atStartup env cfg).symm⟩

end RequestSystem

/-- When every store of a run meets the condition, nothing is lost once all requests are answered. -/
theorem no_update_lost (env : AdminEnv) (cfg : Config) (updates : ℕ → SectionUpdate)
    (events : List RequestEvent) (h : StepsMeet (requestStep env)
      (fun sys e => sys.StoresItsOwn env e) (RequestSystem.start env cfg updates) events)
    (hquiet : (run (requestStep env) (RequestSystem.start env cfg updates) events).Quiet) :
    (run (requestStep env) (RequestSystem.start env cfg updates) events).NoneLost env := by
  have hinv : (run (requestStep env) (RequestSystem.start env cfg updates) events).Consistent env := by
    refine run_inv (fun sys => sys.Consistent env)
      (RequestSystem.consistent_start env cfg updates) ?_ h
    intro sys e hs he
    rcases RequestSystem.advance_cases env sys e.request e.io with
      hsame | ⟨phase,admin,hmove,hp⟩ | ⟨new,hphase,hstore⟩
    · rwa [requestStep, hsame]
    · rw [requestStep, hmove]
      exact RequestSystem.consistent_prepare hs hp
    · rw [requestStep, hstore]
      exact RequestSystem.consistent_store hs hphase he
  constructor
  · intro i hi halone
    rcases hinv.kept i hi with hheld | ⟨j,hji,hj,hname⟩
    · exact hheld
    · exact absurd hname (halone j hji hj)
  · rcases hinv.persisted with hsaved | ⟨i,new,hi⟩
    · exact hsaved
    · rcases hquiet i with hw | ⟨response,hf⟩
      · rw [hi] at hw
        cases hw
      · rw [hi] at hf
        cases hf

/-! ## Requests that keep apart -/

namespace RequestPhase

/-- Between reading the live configuration and storing a new one. -/
def pending : RequestPhase → Bool
  | waiting => false
  | read _ => true
  | validated _ => true
  | written _ => true
  | renamed _ => true
  | finished _ => false

/-- Between writing the temporary file and storing. -/
def holdsFile : RequestPhase → Bool
  | waiting => false
  | read _ => false
  | validated _ => false
  | written _ => true
  | renamed _ => true
  | finished _ => false

/-- What the request carries is what it would carry if it began now, and so is its file. -/
def Current (env : AdminEnv) (admin : AdminSystem) (u : SectionUpdate) : RequestPhase → Prop
  | waiting => True
  | read merged => u.merge admin.live = .ok merged
  | validated new => u.Carries env admin.live new
  | written new => u.Carries env admin.live new ∧ admin.disk.tmp = some (.toml (env.forDisk new))
  | renamed new => u.Carries env admin.live new ∧ admin.disk.file = .toml (env.forDisk new)
  | finished _ => True

end RequestPhase

namespace RequestSystem

/-- No request stores while another one is on its way, and none touches the files while another one
has written its own. -/
def KeepsApart (sys : RequestSystem) (e : RequestEvent) : Prop :=
  ∀ j, j ≠ e.request → match (sys.requests e.request).phase with
    | .waiting => True
    | .read _ => True
    | .validated _ => (sys.requests j).phase.holdsFile = false
    | .written _ => (sys.requests j).phase.holdsFile = false
    | .renamed _ => (sys.requests j).phase.pending = false
    | .finished _ => True

def AllCurrent (env : AdminEnv) (sys : RequestSystem) : Prop :=
  ∀ i, (sys.requests i).phase.Current env sys.toAdminSystem (sys.requests i).update

end RequestSystem

theorem RequestPhase.Current.of_disk {admin admin' : AdminSystem} {u : SectionUpdate}
    {phase : RequestPhase} (h : phase.Current env admin u) (hlive : admin'.live = admin.live)
    (hfree : phase.holdsFile = false) : phase.Current env admin' u := by
  cases phase with
  | waiting => trivial
  | read merged => simpa [RequestPhase.Current,hlive] using h
  | validated new => simpa [RequestPhase.Current,hlive] using h
  | written new => cases hfree
  | renamed new => cases hfree
  | finished response => trivial

theorem RequestPhase.current_of_idle {admin : AdminSystem} {u : SectionUpdate}
    {phase : RequestPhase} (h : phase.pending = false) : phase.Current env admin u := by
  cases phase with
  | waiting => trivial
  | read merged => cases h
  | validated new => cases h
  | written new => cases h
  | renamed new => cases h
  | finished response => trivial

namespace RequestSystem

theorem AllCurrent.moveTo (phase : RequestPhase) {admin : AdminSystem}
    (hmine : phase.Current env admin (sys.requests i).update)
    (hothers : ∀ j, j ≠ i → (sys.requests j).phase.Current env admin (sys.requests j).update) :
    (sys.moveTo i phase admin).AllCurrent env := by
  intro j
  rw [moveTo_admin, moveTo_update]
  by_cases hj : j = i
  · subst hj
    simpa using hmine
  · rw [moveTo_other hj]
    exact hothers j hj

theorem AllCurrent.step (h : sys.AllCurrent env) {e : RequestEvent} (he : sys.KeepsApart e) :
    (requestStep env sys e).AllCurrent env := by
  obtain ⟨i,io⟩ := e
  have hmine := h i
  unfold KeepsApart at he
  rw [requestStep]
  cases hphase : (sys.requests i).phase with
  | waiting =>
    cases hm : (sys.requests i).update.merge sys.live with
    | error response =>
      simp only [advance,hphase,hm]
      exact .moveTo _ trivial (fun j _ => h j)
    | ok merged =>
      simp only [advance,hphase,hm]
      exact .moveTo _ hm (fun j _ => h j)
  | read merged =>
    rw [hphase] at hmine
    cases hv : validateNew env merged with
    | error response =>
      simp only [advance,hphase,hv]
      exact .moveTo _ trivial (fun j _ => h j)
    | ok new =>
      simp only [advance,hphase,hv]
      exact .moveTo _ ⟨merged,hmine,validateNew_ok hv⟩ (fun j _ => h j)
  | validated new =>
    simp only [hphase] at hmine he
    rcases hw : writeTmp env sys.disk new io with ⟨disk,written⟩
    cases written with
    | error response =>
      simp only [advance,hphase,hw]
      exact .moveTo _ trivial (fun j hj => (h j).of_disk rfl (he j hj))
    | ok _ =>
      simp only [advance,hphase,hw]
      exact .moveTo _ ⟨hmine,writeTmp_ok hw⟩ (fun j hj => (h j).of_disk rfl (he j hj))
  | written new =>
    simp only [hphase] at hmine he
    rcases hr : renameTmp env sys.disk io with ⟨disk,renamed⟩
    cases renamed with
    | error response =>
      simp only [advance,hphase,hr]
      exact .moveTo _ trivial (fun j hj => (h j).of_disk rfl (he j hj))
    | ok _ =>
      have hfile : disk.file = .toml (env.forDisk new) :=
        Option.some.inj ((renameTmp_ok hr).symm.trans hmine.2)
      simp only [advance,hphase,hr]
      exact .moveTo _ ⟨hmine.1,hfile⟩ (fun j hj => (h j).of_disk rfl (he j hj))
  | renamed new =>
    simp only [hphase] at he
    simp only [advance,hphase]
    exact .moveTo _ trivial (fun j hj => RequestPhase.current_of_idle (he j hj))
  | finished response =>
    rw [advance_finished hphase]
    exact h

theorem AllCurrent.storesItsOwn (h : sys.AllCurrent env) (e : RequestEvent) :
    sys.StoresItsOwn env e := by
  intro new hphase
  have hmine := h e.request
  rw [hphase] at hmine
  exact hmine

end RequestSystem

/-- Requests that keep apart store their own. -/
theorem storesItsOwn_of_keepsApart (env : AdminEnv) (cfg : Config) (updates : ℕ → SectionUpdate)
    {events : List RequestEvent} (h : StepsMeet (requestStep env) RequestSystem.KeepsApart
      (RequestSystem.start env cfg updates) events) :
    StepsMeet (requestStep env) (fun sys e => sys.StoresItsOwn env e)
      (RequestSystem.start env cfg updates) events := by
  intro pre e post hsplit
  rw [hsplit] at h
  have hcurrent : (run (requestStep env) (RequestSystem.start env cfg updates) pre).AllCurrent env :=
    run_inv (fun sys => sys.AllCurrent env) (fun _ => trivial) (fun _ _ hs he => hs.step he) h.prefix
  exact hcurrent.storesItsOwn e

/-! ## Requests of a house -/

theorem RequestSystem.advance_other {j : ℕ} (h : j ≠ i) :
    (sys.advance env i io).requests j = sys.requests j := by
  rcases advance_cases env sys i io with hsame | ⟨phase,admin,hmove,-⟩ | ⟨new,-,hstore⟩
  · rw [hsame]
  · rw [hmove, moveTo_other h]
  · rw [hstore, moveTo_other h]

/-- A request that takes no step stays as it is. -/
theorem requests_of_idle (env : AdminEnv) (sys : RequestSystem) {events : List RequestEvent} {j : ℕ}
    (h : ∀ e ∈ events, e.request ≠ j) :
    (run (requestStep env) sys events).requests j = sys.requests j := by
  refine foldl_inv (requestStep env) (fun sys' => sys'.requests j = sys.requests j) events sys rfl ?_
  intro sys' e he hsys
  rw [requestStep, RequestSystem.advance_other (h e he).symm, hsys]

/-- No step changes what a request asks for. -/
theorem requests_update (env : AdminEnv) (sys : RequestSystem) (events : List RequestEvent) (j : ℕ) :
    ((run (requestStep env) sys events).requests j).update = (sys.requests j).update := by
  refine foldl_inv (requestStep env)
    (fun sys' => (sys'.requests j).update = (sys.requests j).update) events sys rfl ?_
  intro sys' e _ hsys
  rw [requestStep, ← hsys]
  rcases RequestSystem.advance_cases env sys' e.request e.io with
    hsame | ⟨phase,admin,hmove,-⟩ | ⟨new,-,hstore⟩
  · rw [hsame]
  · rw [hmove, RequestSystem.moveTo_update]
  · rw [hstore, RequestSystem.moveTo_update]

/-- A request that runs alone keeps apart. -/
theorem keepsApart_alone (env : AdminEnv) (cfg : Config) (updates : ℕ → SectionUpdate)
    {events : List RequestEvent} (h : ∀ e ∈ events, e.request = i) :
    StepsMeet (requestStep env) RequestSystem.KeepsApart (RequestSystem.start env cfg updates)
      events := by
  rintro pre e post rfl j hj
  have hpre : ∀ d ∈ pre, d.request ≠ j := by
    intro d hd hdj
    have he := h e (by simp)
    exact hj (hdj.symm.trans ((h d (List.mem_append_left _ hd)).trans he.symm))
  rw [requests_of_idle env _ hpre]
  split <;> trivial

/-- Request 0 sets the dispatcher, every other one the location. -/
def twoUpdates (i : ℕ) : SectionUpdate :=
  if i = 0 then .dispatcher { cycleMs := 1000 } else .location ⟨some 34,some (-118)⟩

/-- The one for the dispatcher alone. -/
theorem no_update_lost_house :
    let sys := run (requestStep {}) (RequestSystem.start {} house twoUpdates)
      (List.replicate 5 ⟨0,{}⟩)
    sys.Quiet ∧ sys.Accepted 0 ∧ sys.NoneLost {} := by
  intro sys
  have haccepted : sys.Accepted 0 := by
    have hok : (apiPutSection {} (AdminSystem.start {} house) (twoUpdates 0) {}).2 = .ok := by
      decide +kernel
    exact (run_undisturbed {} (RequestSystem.start {} house twoUpdates) 0 {} rfl).2.trans
      (congrArg _ hok)
  have hquiet : sys.Quiet := by
    intro i
    by_cases hi : i = 0
    · exact Or.inr ⟨.ok,hi ▸ haccepted⟩
    · have hidle : sys.requests i = (RequestSystem.start {} house twoUpdates).requests i :=
        requests_of_idle {} _ (fun e he => by simpa [List.eq_of_mem_replicate he] using Ne.symm hi)
      exact Or.inl (by rw [hidle]; rfl)
  exact ⟨hquiet,haccepted,no_update_lost {} house twoUpdates _
    (storesItsOwn_of_keepsApart {} house twoUpdates (keepsApart_alone {} house twoUpdates
      (fun e he => by rw [List.eq_of_mem_replicate he]))) hquiet⟩

def inTurn (order : List ℕ) : List RequestEvent := order.map (fun i => ⟨i,{}⟩)

/-- Both requests read before either has stored, and the second one puts the old dispatcher back. -/
def overlapping : List RequestEvent := inTurn [0,1,0,0,0,0,1,1,1,1]

/-- Request 0 renames what request 1 has written; that one finds nothing to rename and is turned
down. -/
def crossing : List RequestEvent := inTurn [0,1,0,1,0,1,0,1,0]

def afterTurns (events : List RequestEvent) : RequestSystem :=
  run (requestStep {}) (RequestSystem.start {} house twoUpdates) events

theorem afterTurns_idle {events : List RequestEvent} {i : ℕ} (h : ∀ e ∈ events, e.request ≠ i) :
    (afterTurns events).requests i = { update := twoUpdates i } := requests_of_idle {} _ h

theorem afterTurns_quiet {order : List ℕ} (hwho : ∀ i ∈ order, i = 0 ∨ i = 1)
    {first second : AdminResponse}
    (h0 : ((afterTurns (inTurn order)).requests 0).phase = .finished first)
    (h1 : ((afterTurns (inTurn order)).requests 1).phase = .finished second) :
    (afterTurns (inTurn order)).Quiet := by
  intro i
  by_cases hi : i = 0 ∨ i = 1
  · rcases hi with rfl | rfl
    · exact Or.inr ⟨first,h0⟩
    · exact Or.inr ⟨second,h1⟩
  · refine Or.inl (congrArg PutRequest.phase (afterTurns_idle (fun e he hei => hi ?_)))
    obtain ⟨k,hk,rfl⟩ := List.mem_map.mp he
    exact hei ▸ hwho k hk

theorem overlapping_updates_lost : house.validate (fun _ => true) = .ok () ∧
    (afterTurns overlapping).Quiet ∧ (afterTurns overlapping).Accepted 0 ∧
    (afterTurns overlapping).Accepted 1 ∧
    (afterTurns overlapping).live.dispatcher = house.dispatcher ∧
    ¬ (afterTurns overlapping).NoneLost {} ∧
    (afterTurns crossing).Quiet ∧ ¬ (afterTurns crossing).Accepted 1 ∧
    (afterTurns crossing).disk.file = .toml { house with location := ⟨some 34,some (-118)⟩ } ∧
    ¬ (afterTurns crossing).NoneLost {} := by
  have h0 : (afterTurns overlapping).Accepted 0 := by
    change ((afterTurns overlapping).requests 0).phase = _
    decide +kernel
  have h1 : (afterTurns overlapping).Accepted 1 := by
    change ((afterTurns overlapping).requests 1).phase = _
    decide +kernel
  have hlive : (afterTurns overlapping).live.dispatcher = house.dispatcher := by decide +kernel
  have hcross0 : ((afterTurns crossing).requests 0).phase = .finished .ok := by decide +kernel
  have hcross1 : ((afterTurns crossing).requests 1).phase = .finished (.internalServerError
      "rename config.toml.tmp -> config.toml: No such file or directory (os error 2)") := by
    decide +kernel
  have hfile : (afterTurns crossing).disk.file =
      .toml { house with location := ⟨some 34,some (-118)⟩ } := by decide +kernel
  refine ⟨house_valid,afterTurns_quiet (by decide) h0 h1,h0,h1,hlive,fun h => ?_,
    afterTurns_quiet (by decide) hcross0 hcross1,?_,hfile,fun h => ?_⟩
  · have hupdate : ∀ i, ((afterTurns overlapping).requests i).update = twoUpdates i :=
      requests_update {} _ overlapping
    have hkept := h.kept 0 h0 (fun j hj _ => by simp [hupdate,twoUpdates,hj,SectionUpdate.name])
    rw [hupdate] at hkept
    have hcycle : (afterTurns overlapping).live.dispatcher = { cycleMs := 1000 } := hkept
    rw [hlive] at hcycle
    revert hcycle
    decide +kernel
  · rw [RequestSystem.Accepted, hcross1]
    simp
  · obtain ⟨cfg,hcfg,hmasked⟩ := h.persisted
    rw [hfile] at hcfg
    cases hcfg
    revert hmasked
    decide +kernel

end ShellyMultiplexer
