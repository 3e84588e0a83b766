/-
One pass over the programs of the version 2 coordinator.

Two invariants are followed through the coordinator: that of one request's session and that of one job's transaction.
`Pass` is what they have in common. It names the condition of every point, what is known while the coordinator holds a
ledger in memory, and what an answer says; its second program is the one without validators. `Pass.Rules` lists what the
single steps have to keep, and the programs that put them together follow once, up to `Pass.Rules.advances`.
-/
import AutostreamUpdater.Port.Session

namespace AutostreamUpdater.Port

open Contract Base Prog

variable {β A α γ : Type} {E : PortEnv}

/-! ## The driver without its validators -/

/-- the driver with the validators of its ledgers and of its applied records taken out -/
def PortV2Driver.unchecked (D : PortV2Driver β A) : PortV2Driver β A :=
  { D with mode := { D.mode with validateLedger := fun _ _ => true, savable := fun _ => true } }

section Unchecked

variable (E : PortEnv) (D : PortV2Driver β A)

theorem unchecked_validateLedger (l : PortLedger β) (t : String) : D.unchecked.mode.validateLedger l t = true := rfl
theorem unchecked_savable (a : A) : D.unchecked.mode.savable a = true := rfl
theorem verifyPortV2_unchecked : verifyPortV2 E D.unchecked = verifyPortV2 E D := rfl
theorem verifyPortV2Root_unchecked : verifyPortV2Root E D.unchecked = verifyPortV2Root E D := rfl
theorem observedTarget_unchecked : observedTarget E D.unchecked = observedTarget E D := rfl

end Unchecked

/-! ## Reading programs of the coordinator -/

section Quiet

variable {D : PortV2Driver β A}

theorem verifyPortV2_quiet (hD : D.Lawful E) (l : PortLedger β) (ref : PortSnapshotRef) :
    Quietly (verifyPortV2 E D l ref) fun _ => True := by
  unfold verifyPortV2
  dsimp only
  split
  · trivial
  refine only_seq (policyVerify_quiet _) fun ok _ => ?_
  split
  · trivial
  · exact hD.verify _ _ _

theorem verifyPortV2Root_quiet (hD : D.Lawful E) (l : PortLedger β) (ref : PortSnapshotRef) :
    Quietly (verifyPortV2Root E D l ref) fun _ => True :=
  only_seq (verifyPortV2_quiet hD l ref) fun _ _ => trivial

theorem observedTarget_quiet (hD : D.Lawful E) (l : PortLedger β) (t : PortSnapshotRef) :
    Quietly (observedTarget E D l t) fun _ => True := by
  unfold observedTarget
  split
  · exact verifyPortV2Root_quiet hD l t
  · trivial

theorem deadlinePassed_quiet (deadline : Option ℕ) :
    Quietly (deadlinePassed deadline : PortProg β A Bool) fun _ => True := by
  cases deadline with
  | none => trivial
  | some d => exact ⟨rfl, fun _ => trivial⟩

end Quiet

/-! ## The rules -/

/-- a state in which a ledger has no result yet -/
def LedgerState.unfinished : LedgerState → Bool
  | .committing | .terminal | .envWritten | .recreated => false
  | _ => true

/-- an invariant of the coordinator: `holds paid l` while it works on `l`, having paid for `T` if `paid` says so -/
structure Pass (β A : Type) where
  live : PortTrace β A → Prop
  sound : PortTrace β A → PortWorld β A → Prop
  holds : Prop → PortLedger β → PortTrace β A → PortWorld β A → Prop
  answer : PortResponse → PortWorld β A → Prop
  /-- a forward request may still start the job -/
  unspent : Prop
  /-- the job was staged by an earlier request -/
  known : Prop

/-- the condition holds throughout `p`, which runs as `p'` while the answers are live -/
abbrev Pass.runs (P : Pass β A) (E : PortEnv) (p p' : PortProg β A α) (Q : α → PortTrace β A → PortWorld β A → Prop)
    (tr : PortTrace β A) (s : PortWorld β A) : Prop :=
  p.agrees (portNext E) P.live P.sound p' Q tr s

/-- `p` ends in an answer -/
abbrev Pass.answers (P : Pass β A) (E : PortEnv) (p p' : PortProg β A PortResponse) :=
  P.runs E p p' fun y _ s => P.answer y s

/-- what the steps keep, for a request on `plan` with the rollback snapshot `r` -/
structure Pass.Rules (P : Pass β A) (E : PortEnv) (D : PortV2Driver β A) (request : LocalExecutorRequest)
    (plan : SystemdPortReconfigurePlan) (r : PortSnapshotRef) : Prop where
  lawful : D.Lawful E
  earlier : ∀ tr tr', P.live (tr ++ tr') → P.live tr
  refuses : ∀ code s, P.answer (.failure code) s
  sound : ∀ {paid l tr s}, P.holds paid l tr s → P.sound tr s
  transition : ∀ {paid l tr s}, P.holds paid l tr s → l.policyTransition.isSome = true
  replans : ∀ {paid l tr s}, P.holds paid l tr s → P.holds paid { l with plan := plan } tr s
  doubts : ∀ {paid l tr s}, P.holds paid l tr s → P.holds paid { l with state := .ambiguous } tr s
  consumes : ∀ {paid l tr s}, P.holds paid l tr s →
    P.holds paid (l.withTransition fun t => { t with consumed := true }) tr s
  latches : ∀ {paid l tr s}, P.holds paid l tr s →
    P.holds paid (l.withTransition fun t => { t with rollbackLatched := true, recoveryRequired := true }) tr s
  mildly : ∀ {α paid l tr s} {p : PortProg β A α} {Q : α → Prop}, p.Only (fun o => o.mild = true) Q →
    P.holds paid l tr s → p.wp (portNext E) P.sound
      (fun _ tr' s' => P.holds paid l tr' s' ∧ ledgerOf plan s' = ledgerOf plan s) tr s
  saves : ∀ {paid l tr s} st, (st.unfinished && st != .staged) = true → P.holds paid l tr s →
    P.runs E (portV2Save D { l with state := st } false) (portV2Save D.unchecked { l with state := st } false)
      (fun ok tr' s' => P.holds paid { l with state := st } tr' s' ∧
        (ok = true → ledgerOf plan s' = some { l with state := st })) tr s
  writesPolicy : ∀ {paid l tr s ref}, ref = r ∨ paid → P.holds paid l tr s →
    (policyWrite E ((l.policyTransition.map (·.candidates)).getD ⟨[], [], []⟩) (portV2PolicyBytes l ref)).wp (portNext E) P.sound
      (fun _ tr' s' => P.holds paid l tr' s') tr s
  reloads : ∀ {paid l tr s} payload, P.holds paid l tr s →
    (policyReload payload).wp (portNext E) P.sound (fun _ tr' s' => P.holds paid l tr' s') tr s
  writes : ∀ {paid l tr s ref} policy, ref = r ∨ paid → P.holds paid l tr s →
    (D.write l policy ref).wp (portNext E) P.sound (fun _ tr' s' => P.holds paid l tr' s') tr s
  pays : ∀ {paid l tr s} version, request.operation = .portReconfigure → P.unspent → l.state ≠ .staged →
    ledgerOf plan s = some l → P.holds paid l tr s →
    (consumeGrant plan request.operation version request.mutationGrant).wp (portNext E) P.sound
      (fun ok tr' s' => P.holds paid l tr' s' ∧ (ok = true → P.holds True l tr' s')) tr s
  redeems : ∀ {paid l tr s} version, P.known → P.holds paid l tr s →
    (consumeGrant plan request.operation version request.mutationGrant).wp (portNext E) P.sound
      (fun _ tr' s' => P.holds paid l tr' s') tr s
  finishes : ∀ {paid l tr s} kind, P.holds paid l tr s →
    P.answers E (finishPortV2 E D l plan kind) (finishPortV2 E D.unchecked l plan kind) tr s
  fails : ∀ {paid l tr s}, P.holds paid l tr s → l.rollbackIsLatched = true →
    P.answers E (failPortV2Recovery D l plan) (failPortV2Recovery D.unchecked l plan) tr s
  defers : ∀ {paid l tr s}, P.holds paid l tr s → P.answers E (deferRecovery D l) (deferRecovery D.unchecked l) tr s

/-! ## The programs -/

namespace Pass.Rules

variable {P : Pass β A} {D : PortV2Driver β A} {request : LocalExecutorRequest} {plan : SystemdPortReconfigurePlan}
  {r : PortSnapshotRef} {paid : Prop} {l : PortLedger β} {tr : PortTrace β A} {s : PortWorld β A}
  {p : PortProg β A α} {f f' : α → PortProg β A γ} {Q : α → Prop} {R : γ → PortTrace β A → PortWorld β A → Prop}
  (hP : P.Rules E D request plan r)

include hP

/-- a step with one rule -/
theorem after (hp : p.wp (portNext E) P.sound (fun _ tr' s' => P.holds paid l tr' s') tr s)
    (hf : ∀ a tr' s', P.holds paid l tr' s' → P.runs E (f a) (f' a) R tr' s') : P.runs E (p >>= f) (p >>= f') R tr s :=
  agrees_seq hP.earlier (agrees_self hp) fun a tr' s' _ w => hf a tr' s' w

variable (w : P.holds paid l tr s)

include w

theorem refused {code : PortFailure} : P.answers E (pure (.failure code)) (pure (.failure code)) tr s :=
  agrees_pure (hP.sound w) (hP.refuses _ _)

theorem quietly (hp : Quietly p Q)
    (hf : ∀ a tr' s', P.holds paid l tr' s' → P.runs E (f a) (f' a) R tr' s') : P.runs E (p >>= f) (p >>= f') R tr s :=
  hP.after (wp_post (hP.mildly (only_mono hp (fun _ => PortOp.quiet_mild) fun _ h => h) w) fun _ _ _ _ h => h.1) hf

theorem saved {f f' : Bool → PortProg β A γ} (st : LedgerState) (hst : (st.unfinished && st != .staged) = true)
    (hf : ∀ ok tr' s', P.holds paid { l with state := st } tr' s' → P.runs E (f ok) (f' ok) R tr' s') :
    P.runs E (portV2Save D { l with state := st } false >>= f)
      (portV2Save D.unchecked { l with state := st } false >>= f') R tr s :=
  agrees_seq hP.earlier (hP.saves st hst w) fun ok tr' s' _ h => hf ok tr' s' h.1

theorem appliesPolicy {ref : PortSnapshotRef} (hp : ref = r ∨ paid) (deadline : Option ℕ) :
    P.runs E (applyPortV2Policy E D l ref deadline) (applyPortV2Policy E D.unchecked l ref deadline)
      (fun x tr' s' => P.holds paid x.2 tr' s' ∧ x.2.policyTransition = l.policyTransition) tr s := by
  have stop : ∀ {l' tr s} {x : Except ApplyError Unit}, P.holds paid l' tr s → l'.policyTransition = l.policyTransition →
      P.runs E (pure (x, l')) (pure (x, l')) (fun x tr' s' => P.holds paid x.2 tr' s' ∧
        x.2.policyTransition = l.policyTransition) tr s := fun w h => agrees_pure (hP.sound w) ⟨w, h⟩
  unfold applyPortV2Policy
  dsimp only
  refine agrees_ite (fun _ => stop w rfl) fun _ => ?_
  refine hP.saved w .policyWritePending rfl fun ok tr s w => agrees_ite (fun _ => stop w rfl) fun _ => ?_
  refine hP.quietly w (quiet_op rfl) fun ok tr s w => agrees_ite (fun _ => stop w rfl) fun _ => ?_
  refine hP.quietly w (deadlinePassed_quiet deadline) fun late tr s w => agrees_ite (fun _ => stop w rfl) fun _ => ?_
  have hwrite := hP.writesPolicy hp w
  refine hP.after hwrite fun ok tr s w => agrees_ite (fun _ => stop w rfl) fun _ => ?_
  refine hP.saved w .policyWritten rfl fun ok tr s w => agrees_ite (fun _ => stop w rfl) fun _ => ?_
  refine hP.quietly w (quiet_op rfl) fun ok tr s w => agrees_ite (fun _ => stop w rfl) fun _ => ?_
  refine hP.after (hP.reloads _ w) fun ok tr s w => agrees_ite (fun _ => stop w rfl) fun _ => ?_
  refine hP.saved w .policyLoaded rfl fun ok tr s w => agrees_ite (fun _ => stop w rfl) fun _ => ?_
  refine hP.quietly w (quiet_op rfl) fun ok tr s w => agrees_ite (fun _ => stop w rfl) fun _ => ?_
  refine hP.quietly w (policyVerify_quiet _) fun ok tr s w => ?_
  exact agrees_ite (fun _ => stop w rfl) fun _ => stop w rfl

/-- the runtime part of a rollback ends in an answer, or with the ledger at work -/
theorem rollsRuntimeBack (hl : l.rollbackIsLatched = true) (policy : LocalExecutorPolicy) (deadline : ℕ) :
    P.runs E (rollbackRuntime E D l plan r policy deadline) (rollbackRuntime E D.unchecked l plan r policy deadline)
      (fun x tr' s' => (∀ y, x = some y → P.answer y s') ∧ (x = none → P.holds paid l tr' s')) tr s := by
  have failed : ∀ {tr s}, P.holds paid l tr s → P.runs E (do return some (← failPortV2Recovery D l plan))
      (do return some (← failPortV2Recovery D.unchecked l plan))
      (fun x tr' s' => (∀ y, x = some y → P.answer y s') ∧ (x = none → P.holds paid l tr' s')) tr s := fun w =>
    agrees_seq hP.earlier (hP.fails w hl) fun x tr s h ha => agrees_pure h ⟨by rintro y ⟨⟩; exact ha, by simp⟩
  have gaveUp : ∀ {tr s}, P.holds paid l tr s → P.runs E (pure (some (.failure .reconcileRequired)))
      (pure (some (.failure .reconcileRequired)))
      (fun x tr' s' => (∀ y, x = some y → P.answer y s') ∧ (x = none → P.holds paid l tr' s')) tr s := fun w =>
    agrees_pure (hP.sound w) ⟨by rintro y ⟨⟩; exact hP.refuses _ _, by simp⟩
  unfold rollbackRuntime
  rw [verifyPortV2Root_unchecked]
  refine hP.quietly w (verifyPortV2Root_quiet hP.lawful l r) fun ok tr s w => ?_
  refine agrees_ite (fun _ => agrees_pure (hP.sound w) ⟨by simp, fun _ => w⟩) fun _ => ?_
  refine hP.quietly w (budgetSpent_quiet deadline) fun late tr s w => agrees_ite (fun _ => gaveUp w) fun _ => ?_
  refine hP.after (hP.writes policy (Or.inl rfl) w) fun written tr s w => ?_
  rcases written with (_ | _) | _
  · exact gaveUp w
  · exact failed w
  dsimp only
  refine hP.quietly w (quiet_op rfl) fun ok tr s w => agrees_ite (fun _ => gaveUp w) fun _ => ?_
  refine hP.quietly w (budgetSpent_quiet deadline) fun late tr s w => agrees_ite (fun _ => gaveUp w) fun _ => ?_
  refine hP.after (wp_post (hP.mildly (hP.lawful.restart l policy r) w) fun _ _ _ _ h => h.1) fun restarted tr s w => ?_
  rcases restarted with (_ | _) | _
  · exact gaveUp w
  · exact failed w
  · exact agrees_pure (hP.sound w) ⟨by simp, fun _ => w⟩

/-- **Rolling back.** The latch is saved first, then policy and runtime go towards `R`. -/
theorem rollsBack : P.answers E (rollbackPortV2 E D l plan r) (rollbackPortV2 E D.unchecked l plan r) tr s := by
  unfold rollbackPortV2
  obtain ⟨t, ht⟩ := Option.isSome_iff_exists.1 (hP.transition w)
  refine hP.saved (hP.latches w) .rollbackLatched rfl fun ok tr s w => agrees_ite (fun _ => hP.refused w) fun _ => ?_
  refine hP.quietly w (quiet_op rfl) fun ok tr s w => agrees_ite (fun _ => hP.refused w) fun _ => ?_
  refine hP.quietly w (quiet_op rfl) fun now tr s w => ?_
  refine agrees_seq hP.earlier (hP.appliesPolicy w (Or.inl rfl) none) fun x tr s _ hx => ?_
  obtain ⟨w, htrans⟩ := hx
  have hlat : x.2.rollbackIsLatched = true := by
    simp [PortLedger.rollbackIsLatched, htrans, PortLedger.withTransition, ht]
  rcases x with ⟨(_ | _ | _) | _, l⟩
  · exact hP.refused w
  · exact hP.fails w hlat
  · exact hP.fails w hlat
  dsimp only
  refine agrees_seq hP.earlier (hP.rollsRuntimeBack w hlat _ _) fun stopped tr s h hx => ?_
  rcases stopped with _ | y
  · dsimp only
    refine hP.quietly (hx.2 rfl) (budgetSpent_quiet _) fun late tr s w => agrees_ite (fun _ => hP.refused w) fun _ => ?_
    rw [verifyPortV2Root_unchecked]
    refine hP.quietly w (verifyPortV2Root_quiet hP.lawful _ r) fun ok tr s w => ?_
    exact agrees_ite (fun _ => hP.refused w) fun _ => hP.finishes .rolledBack w
  · exact agrees_pure h (hx.1 y rfl)

omit w in
/-- the forward runtime part, once `T` is paid for -/
theorem forwardsRuntime (w : P.holds True l tr s) (t : PortSnapshotRef) (deadline : ℕ) :
    P.answers E (forwardRuntime E D l plan t r deadline) (forwardRuntime E D.unchecked l plan t r deadline) tr s := by
  unfold forwardRuntime
  dsimp only
  refine hP.quietly w (budgetSpent_quiet deadline) fun late tr s w => agrees_ite (fun _ => hP.rollsBack w) fun _ => ?_
  refine hP.after (hP.writes _ (Or.inr trivial) w) fun written tr s w => ?_
  rcases written with _ | _
  · exact hP.rollsBack w
  dsimp only
  refine hP.saved w .sidecarWritten rfl fun ok tr s w => agrees_ite (fun _ => hP.refused w) fun _ => ?_
  refine hP.quietly w (quiet_op rfl) fun ok tr s w => agrees_ite (fun _ => hP.refused w) fun _ => ?_
  refine hP.quietly w (budgetSpent_quiet deadline) fun late tr s w => agrees_ite (fun _ => hP.rollsBack w) fun _ => ?_
  refine hP.after (wp_post (hP.mildly (hP.lawful.restart _ _ t) w) fun _ _ _ _ h => h.1) fun restarted tr s w => ?_
  rcases restarted with _ | _
  · exact hP.rollsBack w
  dsimp only
  refine hP.saved w .restarted rfl fun ok tr s w => agrees_ite (fun _ => hP.refused w) fun _ => ?_
  refine hP.quietly w (quiet_op rfl) fun ok tr s w => agrees_ite (fun _ => hP.refused w) fun _ => ?_
  refine hP.quietly w (budgetSpent_quiet deadline) fun late tr s w => agrees_ite (fun _ => hP.rollsBack w) fun _ => ?_
  rw [verifyPortV2Root_unchecked]
  refine hP.quietly w (verifyPortV2Root_quiet hP.lawful _ t) fun ok tr s w =>
    agrees_ite (fun _ => hP.rollsBack w) fun _ => ?_
  refine hP.quietly w (quiet_op rfl) fun ok tr s w => ?_
  exact agrees_ite (fun _ => hP.refused w) fun _ => hP.finishes .applied w

/-- **A forward request.** The ledger is fenced before the grant is consumed, and `T` is written only after both. -/
theorem forwards (hop : request.operation = .portReconfigure) (h0 : P.unspent)
    (binding : MutationGrantV2Binding) (b t : PortSnapshotRef) :
    P.answers E (forwardPortV2 E D l request plan binding b t r)
      (forwardPortV2 E D.unchecked l request plan binding b t r) tr s := by
  unfold forwardPortV2
  dsimp only
  have hfence := hP.saves .grantConsuming rfl (hP.replans w)
  refine agrees_seq hP.earlier hfence fun ok tr s _ h => ?_
  obtain ⟨w, hfenced⟩ := h
  refine agrees_ite (fun _ => hP.refused w) fun hok => ?_
  have hled := hfenced (by simpa using hok)
  refine agrees_seq hP.earlier (agrees_self (hP.mildly (Q := fun _ => True) ⟨rfl, fun _ => trivial⟩ w)) fun m0 tr s _ h => ?_
  obtain ⟨w, hsame⟩ := h
  refine agrees_seq hP.earlier (agrees_self (hP.pays _ hop h0 (by simp) (hsame.trans hled) w)) fun ok tr s _ h => ?_
  refine agrees_ite (fun _ => hP.defers (hP.doubts h.1)) fun hok => ?_
  -- from here on `T` is paid for
  have w := h.2 (by simpa using hok)
  refine hP.saved (hP.consumes w) .grantConsumed rfl fun ok tr s w => agrees_ite (fun _ => hP.refused w) fun _ => ?_
  refine hP.quietly w (quiet_op rfl) fun ok tr s w => agrees_ite (fun _ => hP.refused w) fun _ => ?_
  refine hP.quietly w (quiet_op rfl) fun t1 tr s w => agrees_ite (fun _ => hP.defers w) fun _ => ?_
  rw [verifyPortV2Root_unchecked]
  refine hP.quietly w (verifyPortV2Root_quiet hP.lawful _ b) fun ok tr s w => agrees_ite (fun _ => hP.defers w) fun _ => ?_
  refine hP.quietly w (quiet_op rfl) fun t2 tr s w => ?_
  refine agrees_seq hP.earlier (hP.appliesPolicy w (Or.inr trivial) _) fun x tr s _ hx => ?_
  rcases x with ⟨(_ | _ | _) | _, l⟩
  · exact hP.refused hx.1
  · exact hP.defers hx.1
  · exact hP.rollsBack hx.1
  · exact hP.forwardsRuntime hx.1 t _

theorem reconciles (h0 : P.known) (t : PortSnapshotRef) :
    P.answers E (reconcilePortV2 E D l request plan t r) (reconcilePortV2 E D.unchecked l request plan t r) tr s := by
  unfold reconcilePortV2
  rw [observedTarget_unchecked]
  refine hP.quietly w (observedTarget_quiet hP.lawful l t) fun seen tr s w => ?_
  refine agrees_ite (fun _ => hP.finishes .applied w) fun _ => ?_
  dsimp only
  refine hP.after (hP.redeems _ h0 (hP.replans w)) fun ok tr s w => agrees_ite (fun _ => hP.defers w) fun _ => ?_
  exact hP.rollsBack (hP.consumes w)

/-- **A ledger without a result.** -/
theorem advances {b t : PortSnapshotRef} (hstart : l.startable = true → P.unspent)
    (hknown : request.operation = .portReconfigureReconcile → b ≠ t → P.known) (binding : MutationGrantV2Binding) :
    P.answers E (advancePortV2 E D l request plan binding b t r)
      (advancePortV2 E D.unchecked l request plan binding b t r) tr s := by
  unfold advancePortV2
  refine agrees_ite (fun _ => ?_) fun hbt => ?_
  · exact agrees_ite (fun _ => hP.refused w) fun _ => hP.finishes .unchanged w
  cases hop : request.operation with
  | portReconfigureReconcile => exact hP.reconciles w (hknown hop (by simpa using hbt)) t
  | portReconfigure => exact agrees_ite (fun h => hP.forwards w hop (hstart h) binding b t) fun _ => hP.refused w
  | other => exact hP.refused w

end Pass.Rules
end AutostreamUpdater.Port
