import ShellyMultiplexer.Guarantees.Restarts

/-! # What the admin UI is shown

The token of the environment is left out of the file and of what the admin UI is shown, and comes
back by itself. So a configuration that was read can be sent back as it is.
-/
namespace ShellyMultiplexer
open Foundation
variable {env : AdminEnv} {cli : Cli} {cfg : Config}

/-! ## The token -/

theorem forDisk_token_ne {t : String} (ht : env.token? = some t) (cfg : Config) :
    (env.forDisk cfg).homeAssistant.token ≠ t := by
  have hsome : t ≠ "" := by
    unfold AdminEnv.token? at ht
    simpa using (Option.filter_eq_some_iff.mp ht).2
  unfold AdminEnv.forDisk
  split
  · exact hsome.symm
  · rename_i hno
    exact fun he => hno (ht.trans (congrArg some he.symm))

/-- A token that would not do is replaced by that of the environment. -/
def Lent (env : AdminEnv) (cfg : Config) : Prop :=
  ∀ t, env.token? = some t → isBlank cfg.homeAssistant.token = true → cfg.homeAssistant.token = t

theorem lent_reinject (env : AdminEnv) (cfg : Config) :
    Lent env { cfg with homeAssistant := env.reinject cfg.homeAssistant } := by
  intro t ht hblank
  unfold AdminEnv.reinject at hblank ⊢
  dsimp only at hblank ⊢
  split at hblank
  · rename_i hb
    rw [if_pos hb, ht]
    rfl
  · rename_i hb
    exact absurd hblank hb

/-- What is shown of a live configuration, put back, is that configuration. -/
theorem reinject_forDisk (h : Lent env cfg) :
    { env.forDisk cfg with homeAssistant := env.reinject (env.forDisk cfg).homeAssistant } = cfg := by
  have hblank : isBlank "" = true := rfl
  unfold AdminEnv.forDisk AdminEnv.reinject
  by_cases ht : env.token? = some cfg.homeAssistant.token
  · simp [ht,hblank]
  · simp only [if_neg ht]
    split
    · rename_i hb
      cases htoken : env.token? with
      | none => rfl
      | some t => exact absurd (htoken.trans (congrArg some (h t htoken hb).symm)) ht
    · rfl

/-- The file has no token of the environment, and none that would not do. -/
structure Discreet (env : AdminEnv) (c : Config) : Prop where
  secret : env.token? ≠ some c.homeAssistant.token
  plain : isBlank c.homeAssistant.token = true → env.token?.isSome = true →
    c.homeAssistant.token = ""

theorem Discreet.forDisk (h : Lent env cfg) : Discreet env (env.forDisk cfg) where
  secret he := forDisk_token_ne he cfg rfl
  plain hblank hsome := by
    obtain ⟨t,ht⟩ := Option.isSome_iff_exists.mp hsome
    unfold AdminEnv.forDisk at hblank ⊢
    split
    · rfl
    · rename_i hno
      rw [if_neg hno] at hblank
      exact absurd (ht.trans (congrArg some (h t ht hblank).symm)) hno

theorem Discreet.atStartup {c : Config} (h : Discreet env c) (cli : Cli) :
    Lent env (env.atStartup (cli.override c)) := by
  intro t ht hblank
  have hplain := h.plain
  unfold AdminEnv.atStartup at hblank ⊢
  split
  · rw [ht]
    rfl
  · rename_i hno
    rw [if_neg hno] at hblank
    exact absurd (hplain hblank (by rw [ht]; rfl)) hno

structure Guarded (env : AdminEnv) (cli : Cli) (p : AdminProcess) : Prop
    extends Recoverable env cli p where
  file : ∀ c, p.disk.file = .toml c → Discreet env c
  lent : p.running = true → Lent env p.live

namespace Guarded
variable {p : AdminProcess}

theorem request (h : Guarded env cli p) (hrun : p.running = true) {e : RequestEvent}
    (he : p.KeepsApart e) : Guarded env cli (processStep env cli p (.request e)) := by
  have hrec := h.toRecoverable.request hrun he
  have hstep : processStep env cli p (.request e) =
      { requestStep env p.toRequestSystem e with running := true } := if_pos hrun
  have hcur := h.current.step he
  refine ⟨hrec,?_,?_⟩
  · rw [hstep]
    intro c hc
    obtain ⟨i,io⟩ := e
    rcases RequestSystem.file_step hcur with hsame | ⟨new,hphase,hnew⟩
    · exact h.file c (hsame.symm.trans hc)
    · have hmine := hcur i
      rw [hphase] at hmine
      obtain ⟨⟨merged,-,rfl⟩,-⟩ := hmine
      obtain rfl : env.forDisk _ = c := ConfigFile.toml.inj (hnew.symm.trans hc)
      exact .forDisk (lent_reinject env merged)
  · rw [hstep]
    intro _
    obtain ⟨i,io⟩ := e
    change Lent env (p.advance env i io).live
    rcases RequestSystem.advance_cases env p.toRequestSystem i io with
      hsame | ⟨phase,admin,hmove,hprep⟩ | ⟨new,hphase,hstore⟩
    · rw [hsame]
      exact h.lent hrun
    · rw [hmove, RequestSystem.moveTo_admin, hprep.live]
      exact h.lent hrun
    · have hmine := h.current i
      rw [hphase] at hmine
      obtain ⟨⟨merged,-,rfl⟩,-⟩ := hmine
      rw [hstore]
      exact lent_reinject env merged

theorem start (h : Guarded env cli p) (hoff : p.running = false) (updates : ℕ → SectionUpdate)
    (io : IoOutcome) : Guarded env cli (processStep env cli p (.start updates io)) := by
  obtain ⟨hrec,hrunning,hlive⟩ := h.toRecoverable.start hoff updates io
  obtain ⟨c,hfile,hc⟩ := h.saved
  have hlent : Lent env (processStep env cli p (.start updates io)).live := by
    rw [hlive c hfile]
    exact (h.file c hfile).atStartup cli
  refine ⟨hrec,fun c' hc' => ?_,fun _ => hlent⟩
  obtain ⟨sys,hboot,-,hdisk⟩ := boot_of_saved env cli hfile hc io
  have hstep : processStep env cli p (.start updates io) =
      { sys with requests := fun i => { update := updates i }, running := true } := by
    simp only [processStep,hoff,hboot,Bool.false_eq_true,if_false]
  rw [hstep] at hlent hc'
  rcases hdisk with hsame | hnew
  · exact h.file c' (hsame.symm.trans hc')
  · obtain rfl : env.forDisk sys.live = c' := ConfigFile.toml.inj (hnew.symm.trans hc')
    exact .forDisk hlent

theorem step (h : Guarded env cli p) {e : ProcessEvent} (he : p.Apart e) :
    Guarded env cli (processStep env cli p e) := by
  cases e with
  | start updates io =>
    cases hrun : p.running with
    | false => exact h.start hrun updates io
    | true =>
      have hsame : processStep env cli p (.start updates io) = p := if_pos hrun
      rw [hsame]
      exact h
  | request e =>
    cases hrun : p.running with
    | false =>
      have hsame : processStep env cli p (.request e) = p := if_neg (by simp [hrun])
      rw [hsame]
      exact h
    | true => exact h.request hrun he
  | kill => exact ⟨h.toRecoverable.kill,h.file,fun hrun => by cases hrun⟩

end Guarded

/-- The token of the environment never gets into the file nor into what the admin UI is shown. And
what it is shown, sent back as it is, is accepted and changes nothing. -/
theorem shown_config_put_back (env : AdminEnv) (cli : Cli)
    (hcfg : cfg.validate env.isSocketAddr = .ok ()) (hfirst : Discreet env cfg)
    {events : List ProcessEvent}
    (h : StepsMeet (processStep env cli) AdminProcess.Apart (.off cfg) events) :
    let p := run (processStep env cli) (.off cfg) events
    (∀ t, env.token? = some t → (env.apiGetConfig p.toAdminSystem).homeAssistant.token ≠ t ∧
      ∀ c, p.disk.file = .toml c → c.homeAssistant.token ≠ t) ∧
    (p.running = true →
      let put := applyNewConfig env p.toAdminSystem (env.apiGetConfig p.toAdminSystem) {}
      put.2 = .ok ∧ put.1.live = p.live ∧
        put.1.disk.file = .toml (env.apiGetConfig p.toAdminSystem)) := by
  intro p
  have hoff : Guarded env cli (.off cfg) :=
    ⟨.off hcfg,fun c hc => ConfigFile.toml.inj hc ▸ hfirst,fun hrun => by cases hrun⟩
  have hinv : Guarded env cli p := run_inv (Guarded env cli) hoff (fun _ _ hp he => hp.step he) h
  refine ⟨fun t ht => ⟨forDisk_token_ne ht p.live,fun c hc he => ?_⟩,fun hrun => ?_⟩
  · exact (hinv.file c hc).secret (ht.trans (congrArg some he.symm))
  · have hvalid : (env.forDisk p.live).validate env.isSocketAddr = .ok () := by
      rw [validate_forDisk, hinv.live hrun]
    have hnew : validateNew env (env.forDisk p.live) = .ok p.live := by
      rw [validateNew, hvalid, reinject_forDisk (hinv.lent hrun)]
    simp only [AdminEnv.apiGetConfig,applyNewConfig,hnew,writeTmp,renameTmp]
    exact ⟨trivial,rfl,rfl⟩

theorem shown_config_put_back_house :
    let p := run (processStep addOnEnv addOnCli) (.off house) renamedHouse
    (applyNewConfig addOnEnv p.toAdminSystem (addOnEnv.apiGetConfig p.toAdminSystem) {}).1.live =
      p.live :=
  have hfirst : Discreet addOnEnv house := ⟨by decide,fun _ _ => rfl⟩
  ((shown_config_put_back addOnEnv addOnCli house_valid hfirst renamedHouse_apart).2
    (by decide +kernel)).2.1

end ShellyMultiplexer
