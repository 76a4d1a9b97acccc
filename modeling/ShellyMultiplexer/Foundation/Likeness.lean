import ShellyMultiplexer.Foundation.Logs

/-! # Runs up to a likeness

A representation may change on its own between two steps, for as long as the states look alike. Where
the steps respect the likeness, this never shows.
-/
namespace Foundation
variable {σ ε ω : Type*}

/-- A run that may go over to a state that looks alike before every step and at its end, with what
its steps give out. -/
inductive RunsUpTo (alike : σ → σ → Prop) (step : σ → ε → σ) (out : σ → ε → ω) :
    σ → List ε → σ → List ω → Prop
  | done {s s'} (h : alike s s') : RunsUpTo alike step out s [] s' []
  | step {s s' e rest final log} (h : alike s s')
      (hrest : RunsUpTo alike step out (step s' e) rest final log) :
      RunsUpTo alike step out s (e::rest) final (out s' e::log)

variable {alike : σ → σ → Prop} {step : σ → ε → σ} {out : σ → ε → ω}

/-- A run up to a likeness that the steps respect ends alike, and gives out alike. -/
theorem RunsUpTo.like_run {inv : σ → Prop} {same : ω → ω → Prop}
    (hinv : ∀ s e, inv s → inv (step s e))
    (hstep : ∀ s s' e, inv s → alike s s' → alike (step s e) (step s' e))
    (hout : ∀ s s' e, inv s → alike s s' → same (out s e) (out s' e))
    (htrans : ∀ a b c, alike a b → alike b c → alike a c)
    {s start final : σ} {events : List ε} {log : List ω}
    (h : RunsUpTo alike step out start events final log) (hs : inv s) (hstart : alike s start) :
    alike (Foundation.run step s events) final ∧
      List.Forall₂ same (outputs step (fun s e => [out s e]) s events) log := by
  induction h generalizing s with
  | done h => exact ⟨htrans _ _ _ hstart h,.nil⟩
  | step h _ ih =>
    have hbefore := htrans _ _ _ hstart h
    obtain ⟨hend,hlog⟩ := ih (hinv _ _ hs) (hstep _ _ _ hs hbefore)
    exact ⟨hend,.cons (hout _ _ _ hs hbefore) hlog⟩

end Foundation
