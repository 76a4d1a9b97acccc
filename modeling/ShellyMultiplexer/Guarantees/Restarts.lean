import ShellyMultiplexer.Guarantees.SectionUpdates
import ShellyMultiplexer.HttpAdmin.Startup

/-! # Restarts

The file is replaced by a rename, so that it is whole at every moment. Whenever the process is
killed it starts again, with the configuration that was live, or with that of an update that was
about to be stored.
-/
namespace ShellyMultiplexer
open Foundation
variable {env : AdminEnv} {cli : Cli} {cfg : Config}

/-! ## Tokens and options -/

theorem validate_override (isSocketAddr : String → Bool) (cfg : Config) :
    (cli.override cfg).validate isSocketAddr = cfg.validate isSocketAddr := rfl

theorem validate_atStartup (isSocketAddr : String → Bool) (cfg : Config) :
    (env.atStartup cfg).validate isSocketAddr = cfg.validate isSocketAddr := by
  unfold AdminEnv.atStartup
  split <;> rfl

theorem validate_forDisk (isSocketAddr : String → Bool) (cfg : Config) :
    (env.forDisk cfg).validate isSocketAddr = cfg.validate isSocketAddr := by
  unfold AdminEnv.forDisk
  split <;> rfl

@[simp] theorem override_override (cfg : Config) :
    cli.override (cli.override cfg) = cli.override cfg := by
  unfold Cli.override
  cases cli.realShellyHost <;> cases cli.realShellyUdpPort <;> rfl

theorem override_atStartup (cfg : Config) :
    cli.override (env.atStartup cfg) = env.atStartup (cli.override cfg) := by
  unfold AdminEnv.atStartup Cli.override
  dsimp only
  split <;> rfl

/-- What is saved of the configuration is started as the configuration itself. -/
def StartsAs (env : AdminEnv) (cfg : Config) : Prop := env.atStartup (env.forDisk cfg) = cfg

theorem startsAs_of_token (h : env.token? = some cfg.homeAssistant.token ∨
    (cfg.homeAssistant.token = "" → env.token? = none)) : StartsAs env cfg := by
  unfold StartsAs AdminEnv.forDisk
  by_cases ht : env.token? = some cfg.homeAssistant.token
  · rw [if_pos ht, AdminEnv.atStartup, if_pos rfl, ht, Option.getD_some]
  · rw [if_neg ht, AdminEnv.atStartup]
    split
    · rename_i hempty
      rw [h.resolve_left ht hempty, Option.getD_none]
    · rfl

theorem startsAs_atStartup (env : AdminEnv) (cfg : Config) : StartsAs env (env.atStartup cfg) := by
  refine startsAs_of_token ?_
  unfold AdminEnv.atStartup
  split
  · cases ht : env.token? with
    | none => exact Or.inr (fun _ => rfl)
    | some t => exact Or.inl rfl
  · rename_i hno
    exact Or.inr (fun hempty => absurd hempty hno)

theorem startsAs_reinject (env : AdminEnv) (cfg : Config) :
    StartsAs env { cfg with homeAssistant := env.reinject cfg.homeAssistant } := by
  refine startsAs_of_token ?_
  unfold AdminEnv.reinject
  split
  · cases ht : env.token? with
    | none => exact Or.inr (fun _ => rfl)
    | some t => exact Or.inl rfl
  · rename_i hno
    refine Or.inr (fun hempty => absurd ?_ hno)
    change cfg.homeAssistant.token = "" at hempty
    rw [hempty]
    rfl

/-- A start from what an update has saved brings the update back, under the options. -/
theorem override_of_startsAs (h : StartsAs env cfg) :
    env.atStartup (cli.override (env.forDisk cfg)) = cli.override cfg := by
  rw [← override_atStartup, h]

/-! ## What a request carries -/

/-- A configuration that has passed the checks and waits to be written, renamed or stored. -/
inductive RequestPhase.Carried : RequestPhase → Config → Prop
  | validated (new : Config) : Carried (.validated new) new
  | written (new : Config) : Carried (.written new) new
  | renamed (new : Config) : Carried (.renamed new) new

namespace RequestSystem
variable {sys : RequestSystem} {i j : ℕ} {io : IoOutcome} {new : Config}

/-- What is carried on has passed the checks. -/
def Checked (env : AdminEnv) (sys : RequestSystem) : Prop :=
  ∀ i new, (sys.requests i).phase.Carried new → new.validate env.isSocketAddr = .ok ()

theorem Checked.moveTo (h : sys.Checked env) {phase : RequestPhase} (admin : AdminSystem)
    (hmine : ∀ new, phase.Carried new → new.validate env.isSocketAddr = .ok ()) :
    (sys.moveTo i phase admin).Checked env := by
  intro j new hnew
  by_cases hj : j = i
  · subst hj
    rw [moveTo_self] at hnew
    exact hmine new hnew
  · rw [moveTo_other hj] at hnew
    exact h j new hnew

theorem validate_of_validateNew {merged : Config} (h : validateNew env merged = .ok new) :
    new.validate env.isSocketAddr = .ok () := by
  unfold validateNew at h
  split at h
  · cases h
  · rename_i hok
    cases h
    exact hok

theorem Checked.step (h : sys.Checked env) (e : RequestEvent) : (requestStep env sys e).Checked env := by
  obtain ⟨i,io⟩ := e
  rw [requestStep]
  cases hphase : (sys.requests i).phase with
  | waiting =>
    cases hm : (sys.requests i).update.merge sys.live with
    | error response =>
      simp only [advance,hphase,hm]
      exact h.moveTo _ (fun new hnew => by cases hnew)
    | ok merged =>
      simp only [advance,hphase,hm]
      exact h.moveTo _ (fun new hnew => by cases hnew)
  | read merged =>
    cases hv : validateNew env merged with
    | error response =>
      simp only [advance,hphase,hv]
      exact h.moveTo _ (fun new hnew => by cases hnew)
    | ok valid =>
      simp only [advance,hphase,hv]
      refine h.moveTo _ (fun new hnew => ?_)
      cases hnew
      exact validate_of_validateNew hv
  | validated valid =>
    have hvalid := h i valid (by rw [hphase]; exact .validated valid)
    rcases hw : writeTmp env sys.disk valid io with ⟨disk,written⟩
    cases written with
    | error response =>
      simp only [advance,hphase,hw]
      exact h.moveTo _ (fun new hnew => by cases hnew)
    | ok _ =>
      simp only [advance,hphase,hw]
      refine h.moveTo _ (fun new hnew => ?_)
      cases hnew
      exact hvalid
  | written valid =>
    have hvalid := h i valid (by rw [hphase]; exact .written valid)
    rcases hr : renameTmp env sys.disk io with ⟨disk,renamed⟩
    cases renamed with
    | error response =>
      simp only [advance,hphase,hr]
      exact h.moveTo _ (fun new hnew => by cases hnew)
    | ok _ =>
      simp only [advance,hphase,hr]
      refine h.moveTo _ (fun new hnew => ?_)
      cases hnew
      exact hvalid
  | renamed valid =>
    simp only [advance,hphase]
    exact h.moveTo _ (fun new hnew => by cases hnew)
  | finished response =>
    rw [advance_finished hphase]
    exact h

/-- A step leaves the file alone, or puts there what its request carries. -/
theorem file_step (hcur : (requestStep env sys ⟨i,io⟩).AllCurrent env) :
    (requestStep env sys ⟨i,io⟩).disk.file = sys.disk.file ∨
      ∃ new, ((requestStep env sys ⟨i,io⟩).requests i).phase = .renamed new ∧
        (requestStep env sys ⟨i,io⟩).disk.file = .toml (env.forDisk new) := by
  have hmine := hcur i
  rw [requestStep] at hmine ⊢
  rcases advance_cases env sys i io with hsame | ⟨phase,admin,hmove,hprep⟩ | ⟨new,-,hstore⟩
  · exact Or.inl (by rw [hsame])
  · rw [hmove] at hmine ⊢
    rw [moveTo_self] at hmine ⊢
    rcases hprep.file with ⟨hfile,-⟩ | ⟨new,rfl⟩
    · exact Or.inl hfile
    · exact Or.inr ⟨new,rfl,hmine.2⟩
  · exact Or.inl (by rw [hstore]; rfl)

end RequestSystem

/-! ## The invariant -/

/-- No two requests get in each other's way. -/
def AdminProcess.Apart (p : AdminProcess) : ProcessEvent → Prop
  | .request e => p.toRequestSystem.KeepsApart e
  | _ => True

/-- No request stands between its rename and its store. -/
def RequestSystem.Stored (sys : RequestSystem) : Prop :=
  ∀ i new, (sys.requests i).phase ≠ .renamed new

structure Recoverable (env : AdminEnv) (cli : Cli) (p : AdminProcess) : Prop where
  current : p.AllCurrent env
  checked : p.Checked env
  saved : ∃ c, p.disk.file = .toml c ∧ c.validate env.isSocketAddr = .ok ()
  live : p.running = true → p.live.validate env.isSocketAddr = .ok ()
  restores : p.running = true → p.Stored → ∀ c, p.disk.file = .toml c →
    env.atStartup (cli.override c) = cli.override p.live

namespace Recoverable
variable {p : AdminProcess}

theorem off (hcfg : cfg.validate env.isSocketAddr = .ok ()) :
    Recoverable env cli (AdminProcess.off cfg) where
  current _ := trivial
  checked i new h := by cases h
  saved := ⟨cfg,rfl,hcfg⟩
  live h := by cases h
  restores h := by cases h

theorem kill (h : Recoverable env cli p) : Recoverable env cli (processStep env cli p .kill) where
  current := h.current
  checked := h.checked
  saved := h.saved
  live h := by cases h
  restores h := by cases h

theorem request (h : Recoverable env cli p) (hrun : p.running = true) {e : RequestEvent}
    (he : p.KeepsApart e) : Recoverable env cli (processStep env cli p (.request e)) := by
  have hstep : processStep env cli p (.request e) =
      { requestStep env p.toRequestSystem e with running := true } := if_pos hrun
  have hcur := h.current.step he
  have hchecked := h.checked.step e
  obtain ⟨c,hfile,hc⟩ := h.saved
  rw [hstep]
  obtain ⟨i,io⟩ := e
  refine ⟨hcur,hchecked,?_,fun _ => ?_,fun _ hstored => ?_⟩
  · rcases RequestSystem.file_step hcur with hsame | ⟨new,hphase,hnew⟩
    · exact ⟨c,hsame.trans hfile,hc⟩
    · refine ⟨env.forDisk new,hnew,?_⟩
      rw [validate_forDisk]
      exact hchecked i new (by rw [hphase]; exact .renamed new)
  · rcases RequestSystem.advance_cases env p.toRequestSystem i io with
      hsame | ⟨phase,admin,hmove,hprep⟩ | ⟨new,hphase,hstore⟩
    · change (p.advance env i io).live.validate _ = _
      rw [hsame]
      exact h.live hrun
    · change (p.advance env i io).live.validate _ = _
      rw [hmove, RequestSystem.moveTo_admin, hprep.live]
      exact h.live hrun
    · change (p.advance env i io).live.validate _ = _
      rw [hstore]
      exact h.checked i new (by rw [hphase]; exact .renamed new)
  · change ∀ c, (p.advance env i io).disk.file = .toml c →
      env.atStartup (cli.override c) = cli.override (p.advance env i io).live
    change (p.advance env i io).Stored at hstored
    rcases RequestSystem.advance_cases env p.toRequestSystem i io with
      hsame | ⟨phase,admin,hmove,hprep⟩ | ⟨new,hphase,hstore⟩
    · rw [hsame] at hstored ⊢
      exact h.restores hrun hstored
    · rw [hmove] at hstored ⊢
      rcases hprep.file with ⟨hsame,hnot⟩ | ⟨new,rfl⟩
      · have hpast : p.Stored := by
          intro j new hj
          by_cases hji : j = i
          · exact hnot new (hji ▸ hj)
          · exact hstored j new ((congrArg PutRequest.phase
              (RequestSystem.moveTo_other hji phase admin)).trans hj)
        rw [RequestSystem.moveTo_admin, hsame, hprep.live]
        exact h.restores hrun hpast
      · exact absurd (congrArg PutRequest.phase (RequestSystem.moveTo_self _ _)) (hstored i new)
    · -- what is stored has been renamed into the file before
      have hmine := h.current i
      rw [hphase] at hmine
      obtain ⟨⟨merged,-,rfl⟩,hown⟩ := hmine
      rw [hstore]
      intro c' hc'
      obtain rfl : env.forDisk _ = c' := ConfigFile.toml.inj (hown.symm.trans hc')
      exact override_of_startsAs (startsAs_reinject env merged)

end Recoverable

/-! ## A start -/

theorem persistOverrides_file (env : AdminEnv) (disk : AdminDisk) (live : Config) (io : IoOutcome) :
    (env.persistOverrides disk live io).file = disk.file ∨
      (env.persistOverrides disk live io).file = .toml (env.forDisk live) := by
  unfold AdminEnv.persistOverrides
  rcases hw : writeTmp env disk live io with ⟨written,result⟩
  obtain ⟨hfile,-⟩ := writeTmp_spec hw
  cases result with
  | error response => exact Or.inl hfile
  | ok u =>
    dsimp only
    rcases hr : renameTmp env written io with ⟨renamed,result⟩
    cases result with
    | error response => exact Or.inl ((renameTmp_error hr).1.trans hfile)
    | ok v => exact Or.inr (Option.some.inj ((renameTmp_ok hr).symm.trans (writeTmp_ok hw)))

/-- A start from a file that passes the checks succeeds, with the file under the options. -/
theorem boot_of_saved (env : AdminEnv) (cli : Cli) {disk : AdminDisk} {c : Config}
    (hfile : disk.file = .toml c)
    (hc : c.validate env.isSocketAddr = .ok ()) (io : IoOutcome) :
    ∃ sys, env.boot cli disk io = .ok sys ∧ sys.live = env.atStartup (cli.override c) ∧
      (sys.disk.file = disk.file ∨ sys.disk.file = .toml (env.forDisk sys.live)) := by
  have hload : env.load disk.file = .ok c := by
    rw [hfile, AdminEnv.load, hc]
    rfl
  refine ⟨_,by rw [AdminEnv.boot, hload]; rfl,rfl,?_⟩
  dsimp only
  split
  · exact persistOverrides_file env disk _ io
  · exact Or.inl rfl

namespace Recoverable
variable {p : AdminProcess}

theorem start (h : Recoverable env cli p) (hoff : p.running = false) (updates : ℕ → SectionUpdate)
    (io : IoOutcome) : Recoverable env cli (processStep env cli p (.start updates io)) ∧
      (processStep env cli p (.start updates io)).running = true ∧
      ∀ c, p.disk.file = .toml c → (processStep env cli p (.start updates io)).live =
        env.atStartup (cli.override c) := by
  obtain ⟨c,hfile,hc⟩ := h.saved
  obtain ⟨sys,hboot,hlive,hdisk⟩ := boot_of_saved env cli hfile hc io
  have hstep : processStep env cli p (.start updates io) =
      { sys with requests := fun i => { update := updates i }, running := true } := by
    simp only [processStep,hoff,hboot,Bool.false_eq_true,if_false]
  have hvalid : sys.live.validate env.isSocketAddr = .ok () := by
    rw [hlive, validate_atStartup, validate_override, hc]
  rw [hstep]
  have hfresh : ∀ (i : ℕ) new, ¬ (PutRequest.mk (updates i) .waiting).phase.Carried new := by
    intro i new hnew
    cases hnew
  refine ⟨⟨fun _ => trivial,fun i new hnew => absurd hnew (hfresh i new),?_,fun _ => hvalid,
    fun _ _ => ?_⟩,rfl,?_⟩
  · rcases hdisk with hsame | hnew
    · exact ⟨c,hsame.trans hfile,hc⟩
    · exact ⟨_,hnew,by rw [validate_forDisk, hvalid]⟩
  · intro c' hc'
    rcases hdisk with hsame | hnew
    · obtain rfl : c = c' := ConfigFile.toml.inj (hfile.symm.trans (hsame.symm.trans hc'))
      change _ = cli.override sys.live
      rw [hlive, override_atStartup, override_override]
    · obtain rfl : env.forDisk sys.live = c' := ConfigFile.toml.inj (hnew.symm.trans hc')
      refine override_of_startsAs ?_
      rw [hlive]
      exact startsAs_atStartup env _
  · intro c' hc'
    obtain rfl : c = c' := ConfigFile.toml.inj (hfile.symm.trans hc')
    exact hlive

theorem step (h : Recoverable env cli p) {e : ProcessEvent} (he : p.Apart e) :
    Recoverable env cli (processStep env cli p e) := by
  cases e with
  | start updates io =>
    cases hrun : p.running with
    | false => exact (h.start hrun updates io).1
    | true =>
      have hsame : processStep env cli p (.start updates io) = p := if_pos hrun
      rw [hsame]
      exact h
  | request e =>
    cases hrun : p.running with
    | false =>
      have hsame : processStep env cli p (.request e) = p := if_neg (by simp [hrun])
      rw [hsame]
      exact h
    | true => exact h.request hrun he
  | kill => exact h.kill

end Recoverable

/-- Killed at any moment, the process starts again with a configuration that passes the checks: the
one that was live, under the options of the command line, or that of an update that was about to be
stored. -/
theorem restart_restores (env : AdminEnv) (cli : Cli)
    (hcfg : cfg.validate env.isSocketAddr = .ok ()) {events : List ProcessEvent}
    (h : StepsMeet (processStep env cli) AdminProcess.Apart (.off cfg) events)
    (updates : ℕ → SectionUpdate) (io : IoOutcome) :
    let killed := run (processStep env cli) (.off cfg) events
    let again := run (processStep env cli) killed [.kill,.start updates io]
    again.running = true ∧ again.live.validate env.isSocketAddr = .ok () ∧
      (killed.running = true → killed.Stored → again.live = cli.override killed.live) ∧
      ∀ i new, (killed.requests i).phase = .renamed new → again.live = cli.override new := by
  intro killed again
  have hinv : Recoverable env cli killed :=
    run_inv (Recoverable env cli) (.off hcfg) (fun _ _ hp he => hp.step he) h
  obtain ⟨hagain,hrunning,hlive⟩ := hinv.kill.start rfl updates io
  refine ⟨hrunning,hagain.live hrunning,fun hrun hstored => ?_,fun i new hphase => ?_⟩
  · obtain ⟨c,hfile,-⟩ := hinv.saved
    exact (hlive c hfile).trans (hinv.restores hrun hstored c hfile)
  · have hmine := hinv.current i
    rw [hphase] at hmine
    obtain ⟨⟨merged,-,rfl⟩,hown⟩ := hmine
    exact (hlive _ hown).trans (override_of_startsAs (startsAs_reinject env merged))

/-! ## A house that restarts -/

/-- As long as only one request takes steps, it has nobody to keep apart from. -/
theorem apart_alone (env : AdminEnv) (cli : Cli) (cfg : Config) {i : ℕ} {events : List ProcessEvent}
    (hone : ∀ e ∈ events, ∀ r, e = .request r → r.request = i) :
    StepsMeet (processStep env cli) AdminProcess.Apart (.off cfg) events := by
  rintro pre e post rfl
  have hidle : ∀ j, j ≠ i →
      ((run (processStep env cli) (.off cfg) pre).requests j).phase = .waiting := by
    refine foldl_inv (processStep env cli)
      (fun p => ∀ j, j ≠ i → (p.requests j).phase = .waiting) pre (.off cfg) (fun _ _ => rfl) ?_
    intro p d hd hp j hj
    cases d with
    | start updates io =>
      rw [processStep]
      split
      · exact hp j hj
      · split
        · exact hp j hj
        · rfl
    | request r =>
      have hr := hone _ (List.mem_append_left _ hd) r rfl
      rw [processStep]
      split
      · change ((p.advance env r.request r.io).requests j).phase = .waiting
        rw [RequestSystem.advance_other (by rw [hr]; exact hj), hp j hj]
      · exact hp j hj
    | kill => exact hp j hj
  cases e with
  | request r =>
    intro j hj
    have hr := hone _ (by simp) r rfl
    rw [hidle j (by rwa [hr] at hj)]
    split <;> trivial
  | _ => trivial

/-- The environment has a token, and the add-on names the meter. -/
def addOnEnv : AdminEnv := { supervisorToken := some "secret" }

def addOnCli : Cli := { realShellyHost := some "10.0.0.9" }

/-- The update of the dispatcher comes as far as its rename. -/
def renamedHouse : List ProcessEvent :=
  .start twoUpdates {}::List.replicate 4 (.request ⟨0,{}⟩)

def renamedConfig : Config :=
  { house with
    realShelly := { host := "10.0.0.9" }
    dispatcher := { cycleMs := 1000 }
    homeAssistant := { token := "secret" } }

theorem renamedHouse_apart :
    StepsMeet (processStep addOnEnv addOnCli) AdminProcess.Apart (.off house) renamedHouse := by
  refine apart_alone addOnEnv addOnCli house (i := 0) (fun e he r hr => ?_)
  rcases List.mem_cons.mp he with rfl | he
  · cases hr
  · cases hr.symm.trans (List.eq_of_mem_replicate he)
    rfl

theorem restart_restores_house :
    (run (processStep addOnEnv addOnCli) (run (processStep addOnEnv addOnCli) (.off house)
      renamedHouse) [.kill,.start twoUpdates {}]).live = addOnCli.override renamedConfig := by
  have hphase : ((run (processStep addOnEnv addOnCli) (.off house) renamedHouse).requests 0).phase =
      .renamed renamedConfig := by decide +kernel
  exact (restart_restores addOnEnv addOnCli house_valid renamedHouse_apart twoUpdates {}).2.2.2 0
    renamedConfig hphase

end ShellyMultiplexer
