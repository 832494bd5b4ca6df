import TunerControl.Proofs.Session.Gates

/-! Connecting asks the engine once if nothing speaks against it, and leaves no trace of a session if it
fails. -/

namespace TunerControl.Session.Controller

open Usb (Host)

variable {H G D : Type} {c : Controller H G D} {backend : Backend}

/-- A session that was only tried is not left behind. -/
theorem Settled.untried (settled : c.Settled) (idle : c.state = .idle) :
    ({ c with session := none, state := .idle } : Controller H G D) = c := by
  -- Without a session there is no number, and the state is idle.
  obtain ⟨state, -, session⟩ := Standing.mk.inj (settled.vacant_of_idle idle)
  rw [← session, ← state]

variable [Engine G]

/-- A backend is as valid as the need for it says. -/
theorem validNeed_met : (validNeed backend).met = true ↔ backend.validate = .ok () := by
  -- The need is the verdict on the backend, told as a truth value.
  unfold validNeed
  cases backend.validate with
  | ok => exact iff_of_true rfl rfl
  | error fault => exact iff_of_false Bool.false_ne_true nofun

/-- No need is left exactly if nothing speaks against connecting. -/
theorem connectNeeds_met :
    Need.refusal? (c.connectNeeds backend) = none ↔ c.Connectable backend := by
  -- There are three needs, and three things that speak against connecting.
  rw [Need.refusal?_eq_none]
  simp only [connectNeeds, List.mem_cons, List.not_mem_nil, or_false, forall_eq_or_imp, forall_eq,
    decide_eq_true_eq, validNeed_met]
  exact ⟨fun ⟨idle, valid, supported⟩ => ⟨idle, valid, supported⟩,
    fun ⟨idle, valid, supported⟩ => ⟨idle, valid, supported⟩⟩

/-- An engine that accepts to connect is all that is asked. -/
theorem issueConnect_accepted
    (supported : backend.kind = .rtlUsb → Engine.supportsRtlUsb c.engine = true)
    (accepts : (Engine.issue c.engine (.connecting backend)).1 = .ok ()) :
    c.issueConnect backend = (.ok (), (c.issue (.connecting backend)).2) := by
  -- For a dongle the engine is asked what it can use first; for a HackRF its answer is translated.
  have answer : c.issue (.connecting backend) = (.ok (), (c.issue (.connecting backend)).2) :=
    Prod.ext accepts rfl
  cases backend with
  | network t => exact answer
  | rtlUsb t =>
    rw [issueConnect, if_pos (supported rfl)]
    exact answer
  | hackRf t =>
    have answer : c.issue (.startHackRfMode t.frequency t.sampleRate) = _ := answer
    rw [issueConnect, answer]

/-- The refusal of an engine is told as it is, but for that of a HackRF. -/
theorem issueConnect_declined {refusal : Failure}
    (supported : backend.kind = .rtlUsb → Engine.supportsRtlUsb c.engine = true)
    (declines : (Engine.issue c.engine (.connecting backend)).1 = .error refusal) :
    c.issueConnect backend =
      (.error (connectFailure backend.kind refusal), (c.issue (.connecting backend)).2) := by
  -- Again only a dongle and a HackRF are not passed on as they are.
  have answer : c.issue (.connecting backend) =
      (.error refusal, (c.issue (.connecting backend)).2) := Prod.ext declines rfl
  cases backend with
  | network t => exact answer
  | rtlUsb t =>
    rw [issueConnect, if_pos (supported rfl)]
    exact answer
  | hackRf t =>
    -- The refusal is another one to callers, whatever the engine's own was.
    have answer : c.issue (.startHackRfMode t.frequency t.sampleRate) = _ := answer
    rw [issueConnect, answer]
    rfl

/-- What becomes of the session that was tried, by the answer to the attempt. -/
def concluded (kind : BackendKind) :
    Outcome Unit × Controller H G D → Outcome Unit × Controller H G D
  | (.ok (), c) => (.ok (), { c with backend := some kind, state := .active })
  | (.error failure, c) => (.error failure, { c with session := none, state := .idle })

/-- Without a session, a valid backend is tried. -/
theorem connect_of_valid (idle : c.state = .idle) (valid : backend.validate = .ok ()) :
    c.connect backend = concluded backend.kind (c.trying.issueConnect backend) := by
  -- Neither the state nor the backend is in the way.
  unfold Controller.connect
  rw [if_neg (not_not.mpr idle), valid]
  rfl

/-- What is refused beforehand is not asked of the engine, and leaves no session. -/
theorem Settled.connect_refused (settled : c.Settled) {failure : Failure}
    (refused : Need.refusal? (c.connectNeeds backend) = some failure) :
    ∃ sessions, c.connect backend = (.error failure, { c with sessions }) := by
  -- The needs are gone through in their order: the state, the backend, and what the engine can use.
  unfold connectNeeds at refused
  rw [Need.refusal?_cons, Need.refusal?_cons, Need.refusal?_cons] at refused
  split at refused
  · rename_i idle
    have idle : c.state = .idle := of_decide_eq_true idle
    cases valid : backend.validate with
    | error fault =>
      -- The backend is looked at before a session is tried.
      simp only [validNeed, valid, Bool.false_eq_true, if_false, Option.some.injEq] at refused
      refine ⟨c.sessions, ?_⟩
      unfold Controller.connect
      rw [if_neg (not_not.mpr idle), valid, ← refused]
    | ok =>
      simp only [validNeed, valid, if_true] at refused
      split at refused
      · simp [Need.refusal?] at refused
      · -- A session is tried for a dongle, and the engine is not asked.
        rename_i unsupported
        have unsupported : backend.kind = .rtlUsb ∧ Engine.supportsRtlUsb c.engine = false := by
          simpa using unsupported
        have unasked : c.trying.issueConnect backend = (.error failure, c.trying) := by
          cases backend with
          | network t => simp [Backend.kind] at unsupported
          | hackRf t => simp [Backend.kind] at unsupported
          | rtlUsb t =>
            have without : ¬Engine.supportsRtlUsb c.trying.engine = true :=
              ne_true_of_eq_false unsupported.2
            rw [issueConnect, if_neg without, Option.some.inj refused]
        have restored := settled.untried idle
        refine ⟨c.sessions + 1, ?_⟩
        rw [connect_of_valid idle valid, unasked]
        exact congrArg (fun d : Controller H G D =>
          (Except.error failure, { d with sessions := c.sessions + 1 })) restored
  · -- With a session live, nothing else is looked at.
    rename_i busy
    have busy : c.state ≠ .idle := by simpa using busy
    refine ⟨c.sessions, ?_⟩
    unfold Controller.connect
    rw [if_pos busy, ← Option.some.inj refused]

/-- A session is live once the engine was asked for it and accepted. -/
theorem connect_accepted (connectable : c.Connectable backend)
    (accepts : (Engine.issue c.engine (.connecting backend)).1 = .ok ()) :
    c.connect backend = (.ok (), { c with
      engine := (Engine.issue c.engine (.connecting backend)).2
      commands := c.commands ++ [c.issued (.connecting backend)]
      sessions := c.sessions + 1
      session := some c.sessions
      backend := some backend.kind
      state := .active }) := by
  -- The attempt is taken up, and the engine accepts.
  obtain ⟨idle, valid, supported⟩ := connectable
  have asked : c.trying.issueConnect backend = _ := issueConnect_accepted supported accepts
  rw [connect_of_valid idle valid, asked]
  rfl

/-- A refusal of the engine takes the session back that was tried. -/
theorem Settled.connect_declined (settled : c.Settled)
    (connectable : c.Connectable backend) {refusal : Failure}
    (declines : (Engine.issue c.engine (.connecting backend)).1 = .error refusal) :
    c.connect backend = (.error (connectFailure backend.kind refusal), { c with
      engine := (Engine.issue c.engine (.connecting backend)).2
      commands := c.commands ++ [c.issued (.connecting backend)]
      sessions := c.sessions + 1 }) := by
  obtain ⟨idle, valid, supported⟩ := connectable
  have asked : c.trying.issueConnect backend = _ := issueConnect_declined supported declines
  -- The session loses the number again, which only the count remembers.
  have restored := settled.untried idle
  rw [connect_of_valid idle valid, asked]
  exact congrArg (fun d : Controller H G D => (Except.error _, { d with
    engine := (Engine.issue c.engine (.connecting backend)).2
    commands := c.commands ++ [c.issued (.connecting backend)]
    sessions := c.sessions + 1 })) restored

/-- Connecting is tried in vain, or asks the engine, which accepts or declines. -/
theorem Settled.connect_outcome (settled : c.Settled) (backend : Backend) :
    (∃ failure sessions, ¬c.Connectable backend ∧
      Need.refusal? (c.connectNeeds backend) = some failure ∧
      c.connect backend = (.error failure, { c with sessions })) ∨
    (c.Connectable backend ∧ (Engine.issue c.engine (.connecting backend)).1 = .ok () ∧
      c.connect backend = (.ok (), { c with
        engine := (Engine.issue c.engine (.connecting backend)).2
        commands := c.commands ++ [c.issued (.connecting backend)]
        sessions := c.sessions + 1
        session := some c.sessions
        backend := some backend.kind
        state := .active })) ∨
    ∃ refusal, c.Connectable backend ∧
      (Engine.issue c.engine (.connecting backend)).1 = .error refusal ∧
      c.connect backend = (.error (connectFailure backend.kind refusal), { c with
        engine := (Engine.issue c.engine (.connecting backend)).2
        commands := c.commands ++ [c.issued (.connecting backend)]
        sessions := c.sessions + 1 }) := by
  -- Either something that is needed is missing, or it is the engine's answer that decides.
  cases refused : Need.refusal? (c.connectNeeds backend) with
  | some failure =>
    obtain ⟨sessions, answer⟩ := settled.connect_refused refused
    refine Or.inl ⟨failure, sessions, ?_, rfl, answer⟩
    intro connectable
    have met := connectNeeds_met.mpr connectable
    exact absurd (refused.symm.trans met) (by simp)
  | none =>
    have connectable := connectNeeds_met.mp refused
    cases accepts : (Engine.issue c.engine (.connecting backend)).1 with
    | ok => exact Or.inr (Or.inl ⟨connectable, rfl, connect_accepted connectable accepts⟩)
    | error refusal =>
      exact Or.inr (Or.inr ⟨refusal, connectable, rfl,
        settled.connect_declined connectable accepts⟩)

end TunerControl.Session.Controller
