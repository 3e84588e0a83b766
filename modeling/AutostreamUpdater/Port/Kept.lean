/-
What every point of a version 2 request keeps of the policy, of the stored result and of the validators.

`Transaction` fixes one job, its driver and its three policy payloads. `Kept` is the invariant: the policy on disk moves
between the payloads only and memory follows the disk, a result is stored only right after policy and runtime were seen
at the snapshot it names, and every stored ledger passes its validator. The last part needs answers of the world that are
`Alive`, and under the same proviso the request runs as it would with the validators taken out (`unchecked`), which is how
"a save fails only on I/O or on the immutable result" is stated. `Holding` is what is known of the ledger in memory, and
`Transaction.Ready.rules` hands the steps to the pass over the coordinator.
-/
import AutostreamUpdater.Port.Validated
import AutostreamUpdater.Port.Coordinator

namespace AutostreamUpdater.Port

open Contract Base Prog

variable {β A α γ : Type}

/-! ## The invariant -/

variable {p : PortProg β A α} {E : PortEnv} {Q : α → Prop}

section Invariant

/-- the operation leaves ledgers and policy alone -/
def PortOp.idle : PortOp β A → Bool
  | .writeJob _ | .writePolicy _ | .loadPolicy _ => false
  | _ => true

/-- one job with its driver and its policy payloads; the two assumptions are used only where the policy and where the
validators are followed -/
structure Transaction (β A : Type) where
  env : PortEnv
  driver : PortV2Driver β A
  shows : Evidence β A
  mode : String
  plan : SystemdPortReconfigurePlan
  candidates : PortPolicyCandidates
  inside : Prop
  sane : Prop

/-- the three payloads are canonical policies, and disk and memory hold one of them -/
structure Inside (E : PortEnv) (c : PortPolicyCandidates) (s : PortWorld β A) : Prop where
  canonical : ∀ p, c.allows p = true → (decodePortPolicy E p).isSome = true
  disk : c.allows s.policyDisk = true
  memory : c.allows s.policyMemory = true

/-- memory follows the disk, and the disk moves between the three payloads -/
structure PolicyStep (c : PortPolicyCandidates) (pre post : PortWorld β A) : Prop where
  memory : post.policyMemory = pre.policyMemory ∨ post.policyMemory = pre.policyDisk
  disk : post.policyDisk = pre.policyDisk ∨
    c.allows pre.policyDisk = true ∧ c.allows pre.policyMemory = true ∧ c.allows post.policyDisk = true

/-- the step hands the store a ledger with the first result of the job -/
structure Stores (plan : SystemdPortReconfigurePlan) (l : PortLedger β) (r : SystemdPortReconfigureResult)
    (x : PortStep β A) : Prop where
  op : x.op = .writeJob l
  result : l.result = some r
  first : (ledgerOf plan x.pre).bind (·.result) = none

/-- disk and memory hold the policy of the snapshot that `r` names, and the last thing seen but for reads of records and
of the clock is the runtime at that snapshot -/
def Witnessed (E : PortEnv) (shows : Evidence β A) (tr : PortTrace β A) (s : PortWorld β A) (l : PortLedger β)
    (r : SystemdPortReconfigureResult) : Prop :=
  ∃ ref policy inst t seen ev reads,
    portV2ResultSnapshot l.plan r.result = some ref ∧ r.portResult = some (portV2Proof r.result ref inst t) ∧
    s.policyDisk = portV2PolicyBytes l ref ∧ s.policyMemory = portV2PolicyBytes l ref ∧
    decodePortPolicy E (portV2PolicyBytes l ref) = some policy ∧
    candidateMatches E l.plan (portV2PolicyBytes l ref) (some ref) = true ∧
    tr = seen ++ ev ++ reads ∧ shows l policy ref inst ev ∧ ∀ x ∈ reads, x.op.reading = true

variable (T : Transaction β A)

/-- the validators are followed, and the world's answers so far are live -/
def Transaction.Alive (tr : PortTrace β A) : Prop := T.sane ∧ ∀ x ∈ tr, liveStep x

/-- what holds at every point of a request -/
structure Kept (tr : PortTrace β A) (s : PortWorld β A) : Prop where
  steps : ∀ x ∈ tr, PolicyStep T.candidates x.pre x.post
  fixed : ∀ l, ledgerOf T.plan s = some l → l.candidates = T.candidates
  allowed : T.inside → ∀ l, ledgerOf T.plan s = some l → l.plan.portContractVersion = 2 → l.state ≠ .terminal →
    Inside T.env T.candidates s
  truthful : ∀ pre x l r, pre ++ [x] <+: tr → Stores T.plan l r x → Witnessed T.env T.shows pre x.pre l r
  valid : T.Alive tr → ∀ t j l, s.jobs t j = some l → T.driver.mode.validateLedger l t = true
  passed : T.Alive tr → ∀ x ∈ tr, ∀ l, x.op = .writeJob l → T.driver.mode.validateLedger l l.plan.targetID = true

/-- `p` keeps the invariant and, while the answers are live, runs as `p'` does -/
abbrev Preserves (p p' : PortProg β A α) (Q : α → PortTrace β A → PortWorld β A → Prop)
    (tr : PortTrace β A) (s : PortWorld β A) : Prop :=
  p.agrees (portNext T.env) T.Alive (Kept T) p' Q tr s

variable {T} {tr tr' : PortTrace β A} {s s' : PortWorld β A} {l : PortLedger β} {o : PortOp β A} {c : PortChoice}

theorem Transaction.Alive.earlier (h : T.Alive (tr ++ tr')) : T.Alive tr :=
  ⟨h.1, fun x hx => h.2 x (List.mem_append_left _ hx)⟩

theorem Transaction.Alive.upTo (h : T.Alive tr') (hp : tr <+: tr') : T.Alive tr :=
  ⟨h.1, fun x hx => h.2 x (hp.subset hx)⟩

theorem preserves_seq {p p' : PortProg β A α} {f f' : α → PortProg β A γ} {Q : α → PortTrace β A → PortWorld β A → Prop}
    {R : γ → PortTrace β A → PortWorld β A → Prop} (hp : Preserves T p p' Q tr s)
    (hf : ∀ a tr' s', Kept T tr' s' → Q a tr' s' → Preserves T (f a) (f' a) R tr' s') :
    Preserves T (p >>= f) (p' >>= f') R tr s :=
  agrees_seq (fun _ _ ha => ha.earlier) hp hf

/-- **One operation.** -/
theorem Kept.snoc (h : Kept T tr s) (hstep : PolicyStep T.candidates s (portNext T.env s o c).2)
    (hfixed : ∀ l, ledgerOf T.plan (portNext T.env s o c).2 = some l → l.candidates = T.candidates)
    (hallowed : T.inside → ∀ l, ledgerOf T.plan (portNext T.env s o c).2 = some l → l.plan.portContractVersion = 2 →
      l.state ≠ .terminal → Inside T.env T.candidates (portNext T.env s o c).2)
    (htruth : ∀ l r, Stores T.plan l r (stepOf (portNext T.env) s o c) → Witnessed T.env T.shows tr s l r)
    (hvalid : T.Alive tr → ∀ t j l, (portNext T.env s o c).2.jobs t j = some l →
      T.driver.mode.validateLedger l t = true)
    (hpassed : T.Alive tr → ∀ l, o = .writeJob l → T.driver.mode.validateLedger l l.plan.targetID = true) :
    Kept T (tr ++ [stepOf (portNext T.env) s o c]) (portNext T.env s o c).2 where
  steps := by
    intro x hx
    rcases List.mem_append.1 hx with hx | hx
    · exact h.steps x hx
    · obtain rfl := List.mem_singleton.1 hx
      exact hstep
  fixed := hfixed
  allowed := hallowed
  truthful := by
    intro pre x l r hpre hx
    rcases List.prefix_concat_iff.1 hpre with heq | hpre
    · obtain ⟨rfl, heq⟩ := List.append_inj' heq rfl
      obtain rfl : x = stepOf (portNext T.env) s o c := by simpa using heq
      exact htruth l r hx
    · exact h.truthful pre x l r hpre hx
  valid := fun ha => hvalid ha.earlier
  passed := by
    intro ha x hx l hop
    rcases List.mem_append.1 hx with hx | hx
    · exact h.passed ha.earlier x hx l hop
    · obtain rfl := List.mem_singleton.1 hx
      exact hpassed ha.earlier l hop

theorem portNext_idle (h : o.idle = true) :
    (portNext E s o c).2.jobs = s.jobs ∧ (portNext E s o c).2.policyDisk = s.policyDisk ∧
      (portNext E s o c).2.policyMemory = s.policyMemory := by
  cases o <;> simp only [PortOp.idle, Bool.false_eq_true] at h
  case writeActive t j =>
    rcases portNext_writeActive (E := E) (s := s) (c := c) t j with h | ⟨-, h⟩ <;> rw [h] <;> exact ⟨rfl, rfl, rfl⟩
  case writeApplied t a =>
    rcases portNext_writeApplied (E := E) (s := s) (c := c) t a with h | ⟨-, h⟩ <;> rw [h] <;> exact ⟨rfl, rfl, rfl⟩
  case writeConfig cp p =>
    obtain ⟨f, h⟩ := portNext_writeConfig (E := E) (s := s) (c := c) cp p
    simp [h]
  case restoreConfig cp p =>
    obtain ⟨f, h⟩ := portNext_restoreConfig (E := E) (s := s) (c := c) cp p
    simp [h]
  case checkpoint => cases c <;> simp [portNext]
  all_goals exact ⟨rfl, rfl, rfl⟩

/-- an operation that leaves the ledgers alone -/
theorem Kept.stored (h : Kept T tr s) (ho : ∀ l, o ≠ .writeJob l) (hjobs : (portNext T.env s o c).2.jobs = s.jobs)
    (hstep : PolicyStep T.candidates s (portNext T.env s o c).2)
    (hin : Inside T.env T.candidates s → Inside T.env T.candidates (portNext T.env s o c).2) :
    Kept T (tr ++ [stepOf (portNext T.env) s o c]) (portNext T.env s o c).2 := by
  have hled : ledgerOf T.plan (portNext T.env s o c).2 = ledgerOf T.plan s := by simp only [ledgerOf, hjobs]
  refine h.snoc hstep ?_ ?_ (fun l r hx => absurd hx.op (ho l)) ?_ fun _ l hop => absurd hop (ho l)
  · rw [hled]
    exact h.fixed
  · rw [hled]
    exact fun hi l hl hv hst => hin (h.allowed hi l hl hv hst)
  · rw [hjobs]
    exact h.valid

theorem Kept.idle (h : Kept T tr s) (ho : o.idle = true) :
    Kept T (tr ++ [stepOf (portNext T.env) s o c]) (portNext T.env s o c).2 := by
  obtain ⟨hjobs, hdisk, hmemory⟩ := portNext_idle (E := T.env) (s := s) (c := c) ho
  refine h.stored ?_ hjobs ⟨Or.inl hmemory, Or.inl hdisk⟩ fun hs => ⟨hs.canonical, hdisk ▸ hs.disk, hmemory ▸ hs.memory⟩
  rintro l rfl
  cases ho

/-- the steps since `tr` left ledgers and policy as they were in `s` -/
structure Undisturbed (tr : PortTrace β A) (s : PortWorld β A) (tr' : PortTrace β A) (s' : PortWorld β A) :
    Prop where
  steps : tr <+: tr'
  jobs : s'.jobs = s.jobs
  disk : s'.policyDisk = s.policyDisk
  memory : s'.policyMemory = s.policyMemory

theorem Undisturbed.refl (tr : PortTrace β A) (s : PortWorld β A) : Undisturbed tr s tr s :=
  ⟨List.prefix_rfl, rfl, rfl, rfl⟩

theorem Undisturbed.ledger {plan : SystemdPortReconfigurePlan} (h : Undisturbed tr s tr' s') :
    ledgerOf plan s' = ledgerOf plan s := by
  simp [ledgerOf, h.jobs]

theorem Undisturbed.inside {cands : PortPolicyCandidates} (h : Undisturbed tr s tr' s') (hs : Inside E cands s) :
    Inside E cands s' :=
  ⟨hs.canonical, by rw [h.disk]; exact hs.disk, by rw [h.memory]; exact hs.memory⟩

/-- **A program that leaves ledgers and policy alone.** -/
theorem idle_wp (hp : p.Only (fun o => o.idle = true) Q) (h : Kept T tr s) :
    p.wp (portNext T.env) (Kept T) (fun a tr' s' => Undisturbed tr s tr' s' ∧ Q a) tr s := by
  have hI : Kept T tr s ∧ Undisturbed tr s tr s := ⟨h, Undisturbed.refl _ _⟩
  refine wp_post (only_wp (I := fun tr' s' => Kept T tr' s' ∧ Undisturbed tr s tr' s') hp ?_ (fun _ _ h => h.1)
    hI) fun a tr' s' _ h => ⟨h.1.2, h.2⟩
  rintro tr' s' o c ho ⟨hk, hu⟩
  obtain ⟨hjobs, hdisk, hmemory⟩ := portNext_idle (E := T.env) (s := s') (c := c) ho
  exact ⟨hk.idle ho, hu.steps.trans (List.prefix_append _ _), hjobs.trans hu.jobs, hdisk.trans hu.disk,
    hmemory.trans hu.memory⟩

theorem PortOp.mild_idle (h : o.mild = true) : o.idle = true := by
  cases o <;> simp_all [mild, quiet, idle]

theorem PortOp.quiet_idle (h : o.quiet = true) : o.idle = true := PortOp.mild_idle (PortOp.quiet_mild h)

theorem mildly_idle (hp : p.Only (fun o => o.mild = true) Q) : p.Only (fun o => o.idle = true) Q :=
  only_mono hp (fun _ h => PortOp.mild_idle h) fun _ h => h

theorem quietly_idle (hp : Quietly p Q) : p.Only (fun o => o.idle = true) Q :=
  only_mono hp (fun _ h => PortOp.quiet_idle h) fun _ h => h

/-- `idle_wp` in sequence, on both sides -/
theorem idle_seq {f f' : α → PortProg β A γ} {R : γ → PortTrace β A → PortWorld β A → Prop}
    (hp : p.Only (fun o => o.idle = true) Q) (h : Kept T tr s)
    (hf : ∀ a tr' s', Kept T tr' s' → Undisturbed tr s tr' s' → Q a → Preserves T (f a) (f' a) R tr' s') :
    Preserves T (p >>= f) (p >>= f') R tr s :=
  preserves_seq (agrees_self (idle_wp hp h)) fun a tr' s' hk hq =>
    hf a tr' s' hk hq.1 hq.2

end Invariant

/-! ## Reading the ledger -/

section Load

variable {T : Transaction β A} {tr : PortTrace β A} {s : PortWorld β A} {l : PortLedger β}

/-- what is loaded is durable; while the answers are live the validators are not needed -/
theorem kept_loads : Loads T.env T.Alive (Kept T) T.driver.mode T.driver.unchecked.mode where
  earlier := fun _ _ h => h.earlier
  reads := fun tr s o c ho h => by
    have hk := h.idle (o := o) (c := c) (PortOp.quiet_idle (PortOp.reading_quiet ho))
    rwa [portNext_reading ho] at hk
  same := fun tr s ha h t j l hl => by rw [h.valid ha t j l hl, unchecked_validateLedger]

end Load

/-! ## Writing the ledger -/

section Save

variable {T : Transaction β A} {tr tr' : PortTrace β A} {s s' : PortWorld β A} {l : PortLedger β}

/-- the ledger may be handed to `save` -/
structure Storable (T : Transaction β A) (tr : PortTrace β A) (s : PortWorld β A) (l : PortLedger β) : Prop where
  target : l.plan.targetID = T.plan.targetID
  job : l.plan.jobID = T.plan.jobID
  candidates : l.candidates = T.candidates
  allowed : T.inside → l.state ≠ .terminal → Inside T.env T.candidates s
  truthful : ∀ r, l.result = some r → (ledgerOf T.plan s).bind (·.result) = none → Witnessed T.env T.shows tr s l r
  valid : T.Alive tr → T.driver.mode.validateLedger l T.plan.targetID = true
  applied : T.Alive tr → ∀ r, l.result = some r → ∃ a, T.driver.appliedFor l r = some a ∧ T.driver.mode.savable a = true

theorem Storable.read (h : Storable T tr s l) (hr : ReadOnly tr tr') : Storable T tr' s l where
  target := h.target
  job := h.job
  candidates := h.candidates
  allowed := h.allowed
  truthful := by
    intro r hres hnone
    obtain ⟨ref, policy, inst, t, seen, ev, reads, href, hproof, hdisk, hmem, hdec, hmatch, rfl, hev, hreads⟩ :=
      h.truthful r hres hnone
    obtain ⟨more, rfl, hmore⟩ := hr
    refine ⟨ref, policy, inst, t, seen, ev, reads ++ more, href, hproof, hdisk, hmem, hdec, hmatch,
      by simp [List.append_assoc], hev, ?_⟩
    intro x hx
    exact (List.mem_append.1 hx).elim (hreads x) (hmore x)
  valid := fun ha => h.valid (ha.upTo hr.steps)
  applied := fun ha => h.applied (ha.upTo hr.steps)

/-- **Writing the ledger.** -/
theorem Kept.writeJob (h : Kept T tr s) (hl : Storable T tr s l) (c : PortChoice) :
    Kept T (tr ++ [stepOf (portNext T.env) s (.writeJob l) c]) (portNext T.env s (.writeJob l) c).2 := by
  have htruth : ∀ l' r, Stores T.plan l' r (stepOf (portNext T.env) s (.writeJob l) c) →
      Witnessed T.env T.shows tr s l' r := by
    rintro l' r ⟨hop, hres, hnone⟩
    obtain rfl : l = l' := by simpa [stepOf] using hop
    exact hl.truthful r hres hnone
  have hpassed : T.Alive tr → ∀ l', (PortOp.writeJob l : PortOp β A) = .writeJob l' →
      T.driver.mode.validateLedger l' l'.plan.targetID = true := by
    rintro ha l' ⟨⟩
    rw [hl.target]
    exact hl.valid ha
  rcases portNext_writeJob (E := T.env) (s := s) (c := c) l with heq | ⟨-, heq⟩
  · have hled : ledgerOf T.plan (portNext T.env s (.writeJob l) c).2 = some l := by
      rw [heq, ledgerOf_setJob hl.target hl.job]
    have hpolicy : PolicyStep T.candidates s (portNext T.env s (.writeJob l) c).2 :=
      ⟨Or.inl (by rw [heq]; rfl), Or.inl (by rw [heq]; rfl)⟩
    refine h.snoc hpolicy ?_ ?_ htruth ?_ hpassed
    · intro l' hl'
      rw [hled] at hl'
      cases hl'
      exact hl.candidates
    · intro hin l' hl' _ hst
      rw [hled] at hl'
      cases hl'
      obtain ⟨hc, hd, hm⟩ := hl.allowed hin hst
      rw [heq]
      exact ⟨hc, hd, hm⟩
    · intro ha t j l' hl'
      rw [heq] at hl'
      simp only [PortWorld.setJob] at hl'
      split at hl'
      · next hid =>
        cases hl'
        rw [hid.1, hl.target]
        exact hl.valid ha
      · exact h.valid ha t j l' hl'
  · have hpolicy : PolicyStep T.candidates s (portNext T.env s (.writeJob l) c).2 :=
      ⟨Or.inl (by rw [heq]), Or.inl (by rw [heq])⟩
    refine h.snoc hpolicy ?_ ?_ htruth ?_ hpassed <;> rw [heq]
    · exact h.fixed
    · exact h.allowed
    · exact h.valid

/-- the outcome of a save: the policy is untouched, and on success the ledger is durable -/
structure SaveDone (T : Transaction β A) (l : PortLedger β) (ok : Bool) (tr : PortTrace β A) (s : PortWorld β A)
    (tr' : PortTrace β A) (s' : PortWorld β A) : Prop where
  steps : tr <+: tr'
  disk : s'.policyDisk = s.policyDisk
  memory : s'.policyMemory = s.policyMemory
  durable : ok = true → ledgerOf T.plan s' = some l

theorem SaveDone.failed (h : tr <+: tr') : SaveDone T l false tr s tr' s := ⟨h, rfl, rfl, by simp⟩

theorem writeJob_done (hl : Storable T tr s l) (c : PortChoice) :
    SaveDone T l (portNext T.env s (.writeJob l) c).1 tr s (tr ++ [stepOf (portNext T.env) s (.writeJob l) c])
      (portNext T.env s (.writeJob l) c).2 := by
  rcases portNext_writeJob (E := T.env) (s := s) (c := c) l with heq | ⟨hok, heq⟩
  · exact ⟨List.prefix_append _ _, by rw [heq]; rfl, by rw [heq]; rfl,
      fun _ => by rw [heq, ledgerOf_setJob hl.target hl.job]⟩
  · exact ⟨List.prefix_append _ _, by rw [heq], by rw [heq], by simp [hok]⟩

theorem saveLedger_preserves (h : Kept T tr s) (hl : Storable T tr s l) :
    Preserves T (saveLedger T.driver.mode l) (saveLedger T.driver.unchecked.mode l)
      (fun ok tr' s' => SaveDone T l ok tr s tr' s') tr s := by
  unfold saveLedger
  rw [unchecked_validateLedger, hl.target]
  refine agrees_unguarded (fun _ ha => ha.earlier) ?_ ?_ ?_
  · intro ha
    simp [hl.valid ha]
  · intro _
    exact ⟨h, SaveDone.failed List.prefix_rfl⟩
  · intro _
    exact agrees_self ⟨h, fun c => ⟨h.writeJob hl c, writeJob_done hl c⟩⟩

theorem stageLedger_preserves (h : Kept T tr s) (hl : Storable T tr s l) :
    Preserves T (stageLedger T.driver.mode l) (stageLedger T.driver.unchecked.mode l)
      (fun ok tr' s' => SaveDone T l ok tr s tr' s') tr s := by
  unfold stageLedger
  rw [unchecked_validateLedger, hl.target]
  refine agrees_unguarded (fun _ ha => ha.earlier) ?_ ?_ ?_
  · intro ha
    simp [hl.valid ha]
  · intro _
    exact ⟨h, SaveDone.failed List.prefix_rfl⟩
  intro _
  refine preserves_seq (loadActive_loads kept_loads h _) fun r tr1 s1 hk1 hr1 => ?_
  obtain ⟨rfl, hread, -⟩ := hr1
  rcases r with _ | active
  · exact agrees_pure hk1 (SaveDone.failed hread.steps)
  dsimp only
  refine agrees_ite (fun _ => ?_) fun _ => ?_
  · exact agrees_pure hk1 (SaveDone.failed hread.steps)
  refine preserves_seq (saveLedger_preserves hk1 (hl.read hread)) fun ok tr2 s2 hk2 hs => ?_
  cases ok with
  | false => exact agrees_pure hk2 ⟨hread.steps.trans hs.steps, hs.disk, hs.memory, by simp⟩
  | true =>
    refine agrees_post (agrees_self (idle_wp (p := writeActive _ _) (Q := fun _ => True)
      ⟨rfl, fun _ => trivial⟩ hk2)) ?_
    intro ok tr3 s3 _ hu
    exact ⟨(hread.steps.trans hs.steps).trans hu.1.steps, hu.1.disk.trans hs.disk, hu.1.memory.trans hs.memory,
      fun _ => hu.1.ledger.trans (hs.durable rfl)⟩

theorem saveApplied_preserves {a : A} (h : Kept T tr s) (ha : T.Alive tr → T.driver.mode.savable a = true) :
    Preserves T (saveApplied T.driver.mode a) (saveApplied T.driver.unchecked.mode a)
      (fun _ tr' s' => Undisturbed tr s tr' s') tr s := by
  unfold saveApplied
  rw [unchecked_savable]
  refine agrees_unguarded (fun _ ha => ha.earlier) ?_ ?_ ?_
  · intro hlive
    simp [ha hlive]
  · intro _
    exact ⟨h, Undisturbed.refl _ _⟩
  · intro _
    exact agrees_post (agrees_self (idle_wp (p := writeApplied _ _) (Q := fun _ => True)
      ⟨rfl, fun _ => trivial⟩ h)) fun _ _ _ _ hu => hu.1

/-- **A save.** A storable ledger fails to be saved only on I/O or on the immutable result. -/
theorem portV2Save_preserves (h : Kept T tr s) (hl : Storable T tr s l) (stage : Bool) :
    Preserves T (portV2Save T.driver l stage) (portV2Save T.driver.unchecked l stage)
      (fun ok tr' s' => SaveDone T l ok tr s tr' s') tr s := by
  unfold portV2Save
  refine preserves_seq (loadJob_loads kept_loads h _ _) fun r tr1 s1 hk1 hr1 => ?_
  obtain ⟨rfl, hread, -⟩ := hr1
  rcases r with _ | previous
  · exact agrees_pure hk1 (SaveDone.failed hread.steps)
  dsimp only
  refine agrees_ite (fun _ => ?_) fun _ => ?_
  · exact agrees_pure hk1 (SaveDone.failed hread.steps)
  have hl1 := hl.read hread
  have hwrite : Preserves T (stageOrSave T.driver l stage) (stageOrSave T.driver.unchecked l stage)
      (fun ok tr' s' => SaveDone T l ok tr1 s1 tr' s') tr1 s1 := by
    unfold stageOrSave
    cases stage with
    | false => exact saveLedger_preserves hk1 hl1
    | true => exact stageLedger_preserves hk1 hl1
  refine preserves_seq hwrite fun ok tr2 s2 hk2 hs => ?_
  have hsteps := hread.steps.trans hs.steps
  cases ok with
  | false => exact agrees_pure hk2 ⟨hsteps, hs.disk, hs.memory, by simp⟩
  | true =>
    cases hres : l.result with
    | none => exact agrees_pure hk2 ⟨hsteps, hs.disk, hs.memory, fun _ => hs.durable rfl⟩
    | some r =>
      have happ : T.driver.unchecked.appliedFor l r = T.driver.appliedFor l r := rfl
      simp only [Bool.not_true, Bool.false_eq_true, if_false, happ]
      cases ha : T.driver.appliedFor l r with
      | none => exact agrees_pure hk2 ⟨hsteps, hs.disk, hs.memory, by simp⟩
      | some a =>
        have hsav : T.Alive tr2 → T.driver.mode.savable a = true := by
          intro hlive
          obtain ⟨a', ha', hsav⟩ := hl1.applied (hlive.upTo hs.steps) r hres
          rw [ha] at ha'
          cases ha'
          exact hsav
        refine agrees_post (saveApplied_preserves hk2 hsav) ?_
        intro ok tr3 s3 _ hu
        exact ⟨hsteps.trans hu.steps, hu.disk.trans hs.disk, hu.memory.trans hs.memory,
          fun _ => hu.ledger.trans (hs.durable rfl)⟩

end Save

/-! ## The ledger in memory -/

section Holding

variable {T : Transaction β A} {tr tr' : PortTrace β A} {s s' : PortWorld β A} {l : PortLedger β}

/-- what a request relies on: its driver's laws, a valid plan, and, where the validators are followed, the contracts -/
structure Transaction.Ready (T : Transaction β A) : Prop where
  lawful : T.driver.Lawful T.env
  observed : T.driver.Observed T.env T.shows T.mode
  version : T.plan.portContractVersion = 2
  plan : T.plan.validate T.env.toContracts = true
  sane : T.sane → ContractsSound T.env ∧ T.driver.Validated T.env T.mode ∧ T.plan.deploymentMode = T.mode

/-- the ledger the coordinator works on -/
structure Holding (T : Transaction β A) (tr : PortTrace β A) (s : PortWorld β A) (l : PortLedger β) : Prop where
  intent : sameSystemdPortIntent l.plan T.plan = true
  version : l.plan.portContractVersion = 2
  transition : ∃ t, l.policyTransition = some t ∧ t.candidates = T.candidates
  candidates : T.candidates.validate T.env T.plan = true
  result : l.result = none
  unfinished : T.sane → l.state.unfinished = true
  allowed : T.inside → Inside T.env T.candidates s
  fits : T.Alive tr → T.driver.mode.validateLedger l.blank T.plan.targetID = true ∧
    l.policyTransition.all (·.observationOK) = true

namespace Holding

theorem later (h : Holding T tr s l) (hp : tr <+: tr') (hin : T.inside → Inside T.env T.candidates s') :
    Holding T tr' s' l :=
  ⟨h.intent, h.version, h.transition, h.candidates, h.result, h.unfinished, hin, fun ha => h.fits (ha.upTo hp)⟩

theorem undisturbed (h : Holding T tr s l) (hu : Undisturbed tr s tr' s') : Holding T tr' s' l :=
  h.later hu.steps fun hin => hu.inside (h.allowed hin)

theorem saved (h : Holding T tr s l) {l' : PortLedger β} {ok : Bool} (hs : SaveDone T l' ok tr s tr' s') :
    Holding T tr' s' l := by
  refine h.later hs.steps fun hin => ?_
  obtain ⟨hc, hd, hm⟩ := h.allowed hin
  exact ⟨hc, by rw [hs.disk]; exact hd, by rw [hs.memory]; exact hm⟩

theorem withState (h : Holding T tr s l) {st : LedgerState} (hst : st.unfinished = true) :
    Holding T tr s { l with state := st } :=
  ⟨h.intent, h.version, h.transition, h.candidates, h.result, fun _ => hst, h.allowed, h.fits⟩

theorem clearResult (h : Holding T tr s l) : Holding T tr s { l with result := none } :=
  ⟨h.intent, h.version, h.transition, h.candidates, rfl, h.unfinished, h.allowed, h.fits⟩

/-- the transition's flags change, and an observation stays consistent with them -/
theorem withTransition (h : Holding T tr s l) {f : PortPolicyTransition → PortPolicyTransition}
    (hf : ∀ t, (f t).blank = t.blank)
    (ho : T.Alive tr → ∀ t, l.policyTransition = some t → t.observationOK = true → (f t).observationOK = true) :
    Holding T tr s (l.withTransition f) := by
  obtain ⟨t, ht, hc⟩ := h.transition
  refine ⟨h.intent, h.version, ⟨f t, by simp [PortLedger.withTransition, ht], ?_⟩, h.candidates, h.result, h.unfinished,
    h.allowed, ?_⟩
  · have hcand := congrArg PortPolicyTransition.candidates (hf t)
    exact Eq.trans hcand hc
  · intro ha
    obtain ⟨hv, hobs⟩ := h.fits ha
    refine ⟨by rw [l.blank_withTransition hf]; exact hv, ?_⟩
    simp only [ht, Option.all_some] at hobs
    simpa [PortLedger.withTransition, ht] using ho ha t ht hobs

/-- a fresh lease of the same intent -/
theorem withPlan (h : Holding T tr s l) (hT : T.Ready) : Holding T tr s { l with plan := T.plan } := by
  refine ⟨sameSystemdPortIntent_refl _, hT.version, h.transition, h.candidates, h.result, h.unfinished, h.allowed, ?_⟩
  intro ha
  obtain ⟨hv, hobs⟩ := h.fits ha
  obtain ⟨t, ht, hc⟩ := h.transition
  refine ⟨(hT.sane ha.1).2.1.replan l T.plan _ h.version hT.version h.intent hT.plan ?_ hv, hobs⟩
  simp [ht, hc, h.candidates]

theorem ledgerCandidates (h : Holding T tr s l) : l.candidates = T.candidates := by
  obtain ⟨t, ht, hc⟩ := h.transition
  simp [PortLedger.candidates, ht, hc]

theorem snapshots (h : Holding T tr s l) (k : PortResultKind) :
    portV2ResultSnapshot l.plan k = portV2ResultSnapshot T.plan k :=
  sameSystemdPortIntent_snapshot h.intent k

/-- a held ledger may be saved -/
theorem storable (h : Holding T tr s l) (hT : T.Ready) : Storable T tr s l where
  target := (sameSystemdPortIntent_job h.intent).1
  job := (sameSystemdPortIntent_job h.intent).2
  candidates := h.ledgerCandidates
  allowed := fun hin _ => h.allowed hin
  truthful := by simp [h.result]
  valid := by
    intro ha
    obtain ⟨hv, hobs⟩ := h.fits ha
    obtain ⟨t, ht, -⟩ := h.transition
    exact ((hT.sane ha.1).2.1.split l _ h.version).2
      ⟨hv, PortLedger.coherent_unfinished (by simp [ht]) (h.unfinished ha.1) h.result hobs⟩
  applied := by simp [h.result]

end Holding

/-- a request that keeps the invariant and holds `l` -/
structure Holds (T : Transaction β A) (l : PortLedger β) (tr : PortTrace β A) (s : PortWorld β A) : Prop where
  kept : Kept T tr s
  holding : Holding T tr s l

namespace Holds

variable (w : Holds T l tr s)

include w

/-- the ledger in memory may change -/
theorem on {l' : PortLedger β} (hl : Holding T tr s l') : Holds T l' tr s := ⟨w.kept, hl⟩

theorem undisturbed (h : Kept T tr' s') (hu : Undisturbed tr s tr' s') : Holds T l tr' s' :=
  ⟨h, w.holding.undisturbed hu⟩

/-- a program that leaves ledgers and policy alone -/
theorem idly (hp : p.Only (fun o => o.idle = true) Q) :
    p.wp (portNext T.env) (Kept T) (fun _ tr' s' => Holds T l tr' s') tr s :=
  wp_post (idle_wp hp w.kept) fun _ _ _ h hu => w.undisturbed h hu.1

/-- an operation on the policy alone -/
theorem policyStep {o : PortOp β A} {c : PortChoice} (ho : ∀ l, o ≠ .writeJob l)
    (hjobs : (portNext T.env s o c).2.jobs = s.jobs) (hstep : PolicyStep T.candidates s (portNext T.env s o c).2)
    (hin : Inside T.env T.candidates s → Inside T.env T.candidates (portNext T.env s o c).2) :
    Holds T l (tr ++ [stepOf (portNext T.env) s o c]) (portNext T.env s o c).2 :=
  ⟨w.kept.stored ho hjobs hstep hin, w.holding.later (List.prefix_append _ _) fun hi => hin (w.holding.allowed hi)⟩

theorem read (c : PortChoice) : Holds T l (tr ++ [stepOf (portNext T.env) s .readPolicy c]) s :=
  w.policyStep (o := .readPolicy) (by simp) rfl ⟨Or.inl rfl, Or.inl rfl⟩ id

/-- **Saving a held ledger.** -/
theorem saves (hT : T.Ready) :
    Preserves T (portV2Save T.driver l false) (portV2Save T.driver.unchecked l false)
      (fun ok tr' s' => Holds T l tr' s' ∧ (ok = true → ledgerOf T.plan s' = some l)) tr s :=
  agrees_post (portV2Save_preserves w.kept (w.holding.storable hT) false) fun _ _ _ h hs =>
    ⟨⟨h, w.holding.saved hs⟩, hs.durable⟩

end Holds

/-! ## The policy file -/

/-- validated payloads are canonical policies -/
theorem candidates_canonical {c : PortPolicyCandidates} {plan : SystemdPortReconfigurePlan}
    (h : c.validate E plan = true) (p : Bytes) (hp : c.allows p = true) : (decodePortPolicy E p).isSome = true := by
  have decodes : ∀ {payload ref}, candidateMatches E plan payload ref = true →
      (decodePortPolicy E payload).isSome = true := by
    intro payload ref hm
    cases hdec : decodePortPolicy E payload with
    | none => simp [candidateMatches, hdec] at hm
    | some policy => rfl
  simp only [PortPolicyCandidates.validate, Bool.and_eq_true] at h
  simp only [PortPolicyCandidates.allows, Bool.or_eq_true, beq_iff_eq] at hp
  rcases hp with (rfl | rfl) | rfl
  · exact decodes h.1.1.1.1
  · exact decodes h.1.1.1.2
  · exact decodes h.1.1.2

/-- `Write` changes the disk from one payload to another, and only when disk and memory both hold one -/
theorem policyWrite_kept (w : Holds T l tr s) (payload : Bytes) :
    (policyWrite T.env T.candidates payload).wp (portNext T.env) (Kept T) (fun _ => Holds T l) tr s := by
  unfold policyWrite
  refine wp_op_bind w.kept fun c => ?_
  have w1 := w.read c
  rcases portNext_readPolicy (E := T.env) (s := s) (c := c) with hread | hread <;> rw [hread]
  · dsimp only
    refine wp_ite (fun _ => ⟨w1.kept, w1⟩) fun hallowed => ?_
    simp only [Bool.or_eq_true, not_or] at hallowed
    have hdisk : T.candidates.allows s.policyDisk = true := by simpa using hallowed.1.1
    have hmemory : T.candidates.allows s.policyMemory = true := by simpa using hallowed.1.2
    have hpayload : T.candidates.allows payload = true := by simpa using hallowed.2
    refine wp_ite (fun _ => ⟨w1.kept, w1⟩) fun _ => ?_
    refine wp_ite (fun _ => ⟨w1.kept, w1⟩) fun _ => ?_
    refine ⟨w1.kept, fun c' => ?_⟩
    have hpost : (portNext T.env s (.writePolicy payload) c').2 = { s with policyDisk := payload } ∨
        (portNext T.env s (.writePolicy payload) c').2 = s :=
      (writeOutcome_cases c' s { s with policyDisk := payload }).imp_right And.right
    have hin : Inside T.env T.candidates s → Inside T.env T.candidates (portNext T.env s (.writePolicy payload) c').2 := by
      intro hs
      rcases hpost with heq | heq <;> rw [heq]
      · exact ⟨hs.canonical, hpayload, hmemory⟩
      · exact hs
    have w2 := w1.policyStep (o := .writePolicy payload) (c := c') (by simp) ?_ ?_ hin
    · exact ⟨w2.kept, w2⟩
    · rcases hpost with heq | heq <;> rw [heq]
    · rcases hpost with heq | heq <;> rw [heq]
      · exact ⟨Or.inl rfl, Or.inr ⟨hdisk, hmemory, hpayload⟩⟩
      · exact ⟨Or.inl rfl, Or.inl rfl⟩
  · exact ⟨w1.kept, w1⟩

/-- `Reload` loads what it has just read from the disk -/
theorem policyReload_kept (w : Holds T l tr s) (payload : Bytes) :
    (policyReload payload).wp (portNext T.env) (Kept T) (fun _ => Holds T l) tr s := by
  unfold policyReload
  refine wp_op_bind w.kept fun c => ?_
  have w1 := w.read c
  rcases portNext_readPolicy (E := T.env) (s := s) (c := c) with hread | hread <;> rw [hread]
  · dsimp only
    refine wp_ite (fun _ => ⟨w1.kept, w1⟩) fun hdisk => ?_
    obtain rfl : s.policyDisk = payload := by simpa using hdisk
    refine ⟨w1.kept, fun c' => ?_⟩
    have w2 := w1.policyStep (o := .loadPolicy s.policyDisk) (c := c') (by simp) rfl ⟨Or.inr rfl, Or.inl rfl⟩ fun hs =>
      ⟨hs.canonical, hs.disk, hs.disk⟩
    exact ⟨w2.kept, w2⟩
  · exact ⟨w1.kept, w1⟩

end Holding

/-! ## The programs -/

section Programs

variable {T : Transaction β A} {tr tr' : PortTrace β A} {s s' : PortWorld β A} {l : PortLedger β} (hT : T.Ready)

/-- the reply of `p` to a request: the invariant and the agreement are all that matters -/
abbrev Serves (T : Transaction β A) (p p' : PortProg β A PortResponse) (tr : PortTrace β A) (s : PortWorld β A) :
    Prop :=
  Preserves T p p' (fun _ _ _ => True) tr s

/-- the transaction of one job -/
def Transaction.pass (T : Transaction β A) : Pass β A where
  live := T.Alive
  sound := Kept T
  holds _ := Holds T
  answer _ _ := True
  unspent := True
  known := True

theorem serves_return (h : Kept T tr s) (x : PortResponse) : Serves T (pure x) (pure x) tr s :=
  agrees_pure h trivial

theorem writesOnly_idle {ref : PortSnapshotRef} {o : PortOp β A} (h : WritesOnly E ref o) : o.idle = true := by
  rcases h with h | ⟨_, _, rfl, -⟩
  · exact PortOp.quiet_idle h
  · rfl

include hT

theorem write_idle (l : PortLedger β) (policy : LocalExecutorPolicy) (ref : PortSnapshotRef) :
    (T.driver.write l policy ref).Only (fun o => o.idle = true) fun _ => True :=
  only_mono (hT.lawful.write l policy ref) (fun _ h => writesOnly_idle h) fun _ h => h

theorem verifyRoot_idle (l : PortLedger β) (ref : PortSnapshotRef) :
    (verifyPortV2Root T.env T.driver l ref).Only (fun o => o.idle = true) fun _ => True :=
  quietly_idle (verifyPortV2Root_quiet hT.lawful l ref)

omit hT in
/-- `Verify` succeeds only on the expected bytes -/
theorem policyVerify_sees (expected : Bytes) :
    (policyVerify expected : PortProg β A Bool).wp (portNext E) (fun _ _ => True)
      (fun ok _ _ => ok = true → s.policyDisk = expected ∧ s.policyMemory = expected) tr s := by
  unfold policyVerify
  refine wp_op_bind trivial fun c => ?_
  rcases portNext_readPolicy (E := E) (s := s) (c := c) with hread | hread <;> rw [hread] <;> exact ⟨trivial, by simp⟩

omit hT in
/-- what `verify` has seen where it accepts: the policy of the snapshot on disk and in memory, then the runtime -/
theorem verifyPortV2_sees (hD : T.driver.Observed T.env T.shows T.mode) (l : PortLedger β) (ref : PortSnapshotRef) :
    (verifyPortV2 T.env T.driver l ref).wp (portNext T.env) (fun _ _ => True)
      (fun r tr' _ => ∀ inst, r = some inst → s.policyDisk = portV2PolicyBytes l ref ∧
        s.policyMemory = portV2PolicyBytes l ref ∧ ∃ policy seen ev,
          decodePortPolicy T.env (portV2PolicyBytes l ref) = some policy ∧ tr' = seen ++ ev ∧
          T.shows l policy ref inst ev) tr s := by
  unfold verifyPortV2
  dsimp only
  cases hdec : decodePortPolicy T.env (portV2PolicyBytes l ref) with
  | none => exact ⟨trivial, by simp⟩
  | some policy =>
    dsimp only
    refine wp_seq (policyVerify_sees _) fun ok tr1 s1 _ hok => ?_
    refine wp_ite (fun _ => ⟨trivial, by simp⟩) fun htrue => ?_
    obtain ⟨hdisk, hmemory⟩ := hok (by simpa using htrue)
    refine wp_post (hD.verify l policy ref _ _) ?_
    intro r tr' s' _ hr inst hinst
    obtain ⟨ev, htr, hev⟩ := hr inst hinst
    exact ⟨hdisk, hmemory, policy, _, ev, rfl, htr, hev⟩

/-- the result of a verified snapshot is one the validators accept -/
theorem concluded_valid {kind : PortResultKind} {ref : PortSnapshotRef} {inst : Option PortRuntimeInstance} {t : ℕ}
    {st : LedgerState} {policy : LocalExecutorPolicy} {ev : PortTrace β A} (hl : Holding T tr s l)
    (ha : T.Alive tr') (hp : tr <+: tr') (hk : portV2ResultSnapshot T.plan kind = some ref)
    (hun : kind = .unchanged → T.plan.before = T.plan.target) (hev : T.shows l policy ref inst ev) (ht : t ≠ 0)
    (hst : st = .committing ∨ st = .terminal) :
    T.driver.mode.validateLedger (l.concluded (portV2Result T.plan kind ref inst t) st) T.plan.targetID = true := by
  obtain ⟨hE, hD, hmode⟩ := hT.sane ha.1
  obtain ⟨-, -, -, -, hshared, hdocker⟩ := validate_parts hT.version hT.plan
  obtain ⟨hwell, hsome⟩ := hE.snapshot T.plan kind ref hshared hk
  obtain ⟨hinst, hfits⟩ := hT.observed.instanceFits l policy ref inst ev hev
  obtain ⟨tt, htt, -⟩ := hl.transition
  have hkind : kind ≠ .rollbackFailed := by
    rintro rfl
    cases hk
  have hplan : l.plan.sharedPortPlan = T.plan.sharedPortPlan := by
    rw [sameSystemdPortIntent_shared hl.version hT.version hl.intent]
    rfl
  have haccept : portV2AcceptedResultMatchesPlan T.env l.plan (portV2Result T.plan kind ref inst t) = true := by
    have h := hE.result T.plan kind ref inst t hshared hk hun ht
      (by rw [hinst, hsome, ← hmode]; exact hdocker) hfits
    simp only [portV2AcceptedResultMatchesPlan, portV2Result, hplan, Bool.and_eq_true]
    exact ⟨by simpa using hkind, h⟩
  refine (hD.split (l.concluded (portV2Result T.plan kind ref inst t) st) _ hl.version).2
    ⟨?_, PortLedger.concluded_coherent (by simp [htt]) hst (portV2Result_validate hkind hwell ht) hkind haccept⟩
  rw [l.concluded_blank]
  exact (hl.fits (ha.upTo hp)).1

/-- **Finishing.** The result is stored right after policy and runtime were seen at the snapshot it names. -/
theorem finishPortV2_preserves (w : Holds T l tr s) (kind : PortResultKind) :
    Serves T (finishPortV2 T.env T.driver l T.plan kind) (finishPortV2 T.env T.driver.unchecked l T.plan kind) tr s := by
  obtain ⟨h, hl⟩ := w
  unfold finishPortV2
  cases hk : portV2ResultSnapshot T.plan kind with
  | none => exact serves_return h _
  | some ref =>
  dsimp only
  refine agrees_ite (fun _ => serves_return h _) fun hguard => ?_
  have hun : kind = .unchanged → T.plan.before = T.plan.target := by
    rintro rfl
    simp only [Bool.or_eq_true, not_or, Bool.and_eq_true, not_and] at hguard
    simpa using hguard.1 rfl
  rw [verifyPortV2_unchecked]
  refine preserves_seq (agrees_self (wp_and
    (idle_wp (quietly_idle (verifyPortV2_quiet hT.lawful l ref)) h) (verifyPortV2_sees hT.observed l ref)))
    fun inst tr1 s1 h1 hv => ?_
  obtain ⟨⟨hu1, -⟩, hsees⟩ := hv
  rcases inst with _ | inst
  · exact serves_return h1 _
  obtain ⟨hdisk, hmemory, policy, seen, ev, hdec, htr1, hev⟩ := hsees inst rfl
  dsimp only
  refine agrees_op_bind h1 fun c => ?_
  have h2 : Kept T (tr1 ++ [stepOf (portNext T.env) s1 .now c]) s1 := h1.idle (o := .now) (c := c) rfl
  have hl2 : Holding T (tr1 ++ [stepOf (portNext T.env) s1 .now c]) s1 l :=
    (hl.undisturbed hu1).later (List.prefix_append _ _) (hl.undisturbed hu1).allowed
  set tr2 := tr1 ++ [stepOf (portNext T.env) s1 .now c] with htr2
  set t := (portNext T.env s1 .now c).1 with htime
  have hclock : T.Alive tr2 → t ≠ 0 := fun ha =>
    ha.2 (stepOf (portNext T.env) s1 .now c) (List.mem_append_right _ (List.mem_singleton_self _))
  change Serves T _ _ tr2 s1
  refine agrees_ite (fun _ => serves_return h2 _) fun _ => ?_
  simp only [hl.result, Option.getD_none]
  set fresh := portV2Result T.plan kind ref inst t with hfresh
  have hresult : fresh.result = kind := rfl
  have happlied : ∀ {tr' s'} st, Holding T tr' s' l → T.Alive tr' → ∀ r, (l.concluded fresh st).result = some r →
      ∃ a, T.driver.appliedFor (l.concluded fresh st) r = some a ∧ T.driver.mode.savable a = true := by
    rintro tr' s' st hl' ha r ⟨⟩
    obtain ⟨hE, hD, -⟩ := hT.sane ha.1
    refine hD.applied hE (l.concluded fresh st) T.plan.targetID fresh ref hl.version ?_ ?_
    · rw [l.concluded_blank]
      exact (hl'.fits ha).1
    · rw [hresult]
      exact (hl.snapshots kind).trans hk
  have hstore1 : Storable T tr2 s1 (l.concluded fresh .committing) := by
    refine ⟨(sameSystemdPortIntent_job hl.intent).1, (sameSystemdPortIntent_job hl.intent).2,
      (l.concluded_candidates fresh _).trans hl.ledgerCandidates, fun hin _ => hl2.allowed hin, ?_, ?_,
      happlied .committing hl2⟩
    · rintro r ⟨⟩ -
      obtain ⟨tt, htt, hcand⟩ := hl.transition
      have hmatch := portV2PolicyBytes_of_candidates htt (hcand ▸ hl.candidates) hl.snapshots hk
      have hsame : candidateMatches T.env l.plan (portV2PolicyBytes l ref) (some ref) =
          candidateMatches T.env T.plan (portV2PolicyBytes l ref) (some ref) := by
        rw [sameSystemdPortIntent_shared hl.version hT.version hl.intent]
        rfl
      refine ⟨ref, policy, inst, t, seen, ev, [stepOf (portNext T.env) s1 .now c], (hl.snapshots kind).trans hk, rfl, ?_,
        ?_, ?_, ?_, by rw [htr2, htr1], hT.observed.concluded l policy ref inst ev fresh _ hev, by simp [stepOf, PortOp.reading]⟩
      · rw [portV2PolicyBytes_concluded, hu1.disk, hdisk]
      · rw [portV2PolicyBytes_concluded, hu1.memory, hmemory]
      · rw [portV2PolicyBytes_concluded, hdec]
      · rw [portV2PolicyBytes_concluded]
        exact hsame.trans hmatch
    · intro ha
      exact concluded_valid hT hl2 ha List.prefix_rfl hk hun hev (hclock ha) (Or.inl rfl)
  refine preserves_seq (portV2Save_preserves h2 hstore1 false) fun ok tr3 s3 h3 hs3 => ?_
  cases ok with
  | false => exact serves_return h3 _
  | true =>
  refine idle_seq (quietly_idle (quiet_op rfl)) h3 fun ok tr4 s4 h4 hu4 _ => ?_
  refine agrees_ite (fun _ => serves_return h4 _) fun _ => ?_
  have hdurable : ledgerOf T.plan s4 = some (l.concluded fresh .committing) := hu4.ledger.trans (hs3.durable rfl)
  have hl4 : Holding T tr4 s4 l := (hl2.saved hs3).undisturbed hu4
  have hsteps : tr2 <+: tr4 := hs3.steps.trans hu4.steps
  have hstore2 : Storable T tr4 s4 (l.concluded fresh .terminal) := by
    refine ⟨(sameSystemdPortIntent_job hl.intent).1, (sameSystemdPortIntent_job hl.intent).2,
      (l.concluded_candidates fresh _).trans hl.ledgerCandidates, fun _ hst => absurd rfl hst, ?_, ?_,
      happlied .terminal hl4⟩
    · intro r _ hnone
      rw [hdurable] at hnone
      cases hnone
    · intro ha
      exact concluded_valid hT hl4 ha List.prefix_rfl hk hun hev (hclock (ha.upTo hsteps)) (Or.inr rfl)
  refine preserves_seq (portV2Save_preserves h4 hstore2 false) fun ok tr5 s5 h5 _ => ?_
  exact agrees_ite (fun _ => serves_return h5 _) fun _ => serves_return h5 _

/-- a recovery observation is noted on a latched ledger only -/
theorem failPortV2Recovery_preserves (w : Holds T l tr s) (hlat : l.rollbackIsLatched = true) :
    Serves T (failPortV2Recovery T.driver l T.plan) (failPortV2Recovery T.driver.unchecked l T.plan) tr s := by
  unfold failPortV2Recovery
  refine agrees_op_bind w.kept fun c => ?_
  have h1 : Kept T (tr ++ [stepOf (portNext T.env) s .now c]) s := w.kept.idle (o := .now) (c := c) rfl
  have hl1 : Holding T (tr ++ [stepOf (portNext T.env) s .now c]) s l :=
    w.holding.later (List.prefix_append _ _) w.holding.allowed
  set t := (portNext T.env s .now c).1 with htime
  have hl2 : Holding T (tr ++ [stepOf (portNext T.env) s .now c]) s (l.withTransition fun x =>
      { x with recoveryRequired := true, lastRecoveryObservation := some (portV2RecoveryFailed T.plan t) }) := by
    refine hl1.withTransition (fun _ => rfl) ?_
    intro ha tt htt _
    have hclock : t ≠ 0 :=
      ha.2 (stepOf (portNext T.env) s .now c) (List.mem_append_right _ (List.mem_singleton_self _))
    have hlat' : tt.rollbackLatched = true := by simpa [PortLedger.rollbackIsLatched, htt] using hlat
    have hkind : (portV2RecoveryFailed T.plan t).result = .rollbackFailed := rfl
    simp [PortPolicyTransition.observationOK, portV2RecoveryFailed_validate hclock, hlat', hkind]
  have w : Holds T _ _ s := ⟨h1, (hl2.withState (rfl : LedgerState.rollbackLatched.unfinished = true)).clearResult⟩
  refine preserves_seq (w.saves hT) fun ok tr s h _ => ?_
  exact agrees_ite (fun _ => serves_return h _) fun _ => serves_return h _

theorem deferRecovery_preserves (w : Holds T l tr s) :
    Serves T (deferRecovery T.driver l) (deferRecovery T.driver.unchecked l) tr s := by
  unfold deferRecovery
  have hl : Holding T tr s (l.withTransition fun t => { t with recoveryRequired := true }) := by
    refine w.holding.withTransition (fun _ => rfl) ?_
    intro _ t _ hobs
    cases ho : t.lastRecoveryObservation <;> simp_all [PortPolicyTransition.observationOK]
  exact preserves_seq ((w.on hl).saves hT) fun ok tr s h _ => serves_return h _

omit hT in
theorem consumeGrant_idle (plan : SystemdPortReconfigurePlan) (operation : PortOperation) (version grant : String) :
    (consumeGrant plan operation version grant : PortProg β A Bool).Only (fun o => o.idle = true) fun _ => True :=
  ⟨rfl, fun _ => trivial⟩

/-- **The steps of a transaction.** -/
theorem Transaction.Ready.rules (request : LocalExecutorRequest) (r : PortSnapshotRef) :
    T.pass.Rules T.env T.driver request T.plan r where
  lawful := hT.lawful
  earlier _ _ := Transaction.Alive.earlier
  refuses _ _ := trivial
  sound w := Holds.kept w
  transition w := by
    obtain ⟨t, ht, -⟩ := (Holds.holding w).transition
    simp [ht]
  replans w := Holds.on w ((Holds.holding w).withPlan hT)
  doubts w := Holds.on w ((Holds.holding w).withState rfl)
  consumes w := Holds.on w ((Holds.holding w).withTransition (fun _ => rfl) fun _ _ _ hobs => hobs)
  latches w := by
    refine Holds.on w ((Holds.holding w).withTransition (fun _ => rfl) ?_)
    intro _ t _ hobs
    cases ho : t.lastRecoveryObservation <;> simp_all [PortPolicyTransition.observationOK]
  mildly hp w := wp_post (idle_wp (mildly_idle hp) (Holds.kept w)) fun _ _ _ h hu =>
    ⟨Holds.undisturbed w h hu.1, hu.1.ledger⟩
  saves st hst w := (Holds.on w ((Holds.holding w).withState (Bool.and_eq_true_iff.1 hst).1)).saves hT
  writesPolicy := by
    intro paid l tr s ref _ w
    have hallowed : (l.policyTransition.map (·.candidates)).getD ⟨[], [], []⟩ = T.candidates :=
      (Holds.holding w).ledgerCandidates
    rw [hallowed]
    exact policyWrite_kept w _
  reloads payload w := policyReload_kept w payload
  writes policy _ w := Holds.idly w (write_idle hT _ policy _)
  pays version _ _ _ _ w := wp_post (Holds.idly w (consumeGrant_idle _ _ version _)) fun _ _ _ _ w => ⟨w, fun _ => w⟩
  redeems version _ w := Holds.idly w (consumeGrant_idle _ _ version _)
  finishes kind w := finishPortV2_preserves hT w kind
  fails w hl := failPortV2Recovery_preserves hT w hl
  defers w := deferRecovery_preserves hT w

/-- **Answering from the stored result.** The ledger keeps its result and at most becomes terminal. -/
theorem resumePortV2_preserves {result : SystemdPortReconfigureResult} (h : Kept T tr s) (hled : ledgerOf T.plan s = some l)
    (hsame : sameSystemdPortIntent l.plan T.plan = true) (hv : l.plan.portContractVersion = 2)
    (hres : l.result = some result) :
    Serves T (resumePortV2 T.env T.driver l T.plan result) (resumePortV2 T.env T.driver.unchecked l T.plan result)
      tr s := by
  unfold resumePortV2
  refine agrees_ite (fun _ => serves_return h _) fun _ => ?_
  cases hk : portV2ResultSnapshot T.plan result.result with
  | none => exact serves_return h _
  | some ref =>
  dsimp only
  rw [verifyPortV2Root_unchecked]
  refine idle_seq (verifyRoot_idle hT l ref) h fun ok tr1 s1 h1 hu1 _ => ?_
  refine agrees_ite (fun _ => serves_return h1 _) fun _ => ?_
  have hled1 : ledgerOf T.plan s1 = some l := hu1.ledger.trans hled
  have hstore : Storable T tr1 s1 { l with state := .terminal } := by
    refine ⟨(sameSystemdPortIntent_job hsame).1, (sameSystemdPortIntent_job hsame).2, h1.fixed l hled1,
      fun _ hst => absurd rfl hst, ?_, ?_, ?_⟩
    · intro r _ hnone
      rw [hled1, Option.bind_some, hres] at hnone
      cases hnone
    · intro ha
      have hD := (hT.sane ha.1).2.1
      obtain ⟨hblank, hstate, hresult, hobs⟩ := (hD.split l _ hv).1 (h1.valid ha _ _ l hled1)
      refine (hD.split { l with state := .terminal } _ hv).2 ⟨hblank, ?_, hresult, hobs⟩
      rw [hres] at hstate ⊢
      exact validPortV2LedgerState_close hstate
    · rintro ha r hr
      have hr : l.result = some r := hr
      obtain rfl : result = r := by simpa [hres] using hr
      obtain ⟨hE, hD, -⟩ := hT.sane ha.1
      have hblank := ((hD.split l _ hv).1 (h1.valid ha _ _ l hled1)).1
      exact hD.applied hE { l with state := .terminal } _ result ref hv hblank
        ((sameSystemdPortIntent_snapshot hsame _).trans hk)
  refine agrees_ite (fun _ => ?_) fun _ => serves_return h1 _
  refine preserves_seq (portV2Save_preserves h1 hstore false) fun ok tr2 s2 h2 _ => ?_
  exact agrees_ite (fun _ => serves_return h2 _) fun _ => serves_return h2 _

/-- **The first request of a job.** Disk and memory hold the before payload when the ledger is staged. -/
theorem stagePortV2_preserves (h : Kept T tr s) (policy : LocalExecutorPolicy)
    (hc : ∀ c, buildSystemUpdatePortPolicyCandidates T.env policy T.plan = some c → c = T.candidates)
    (request : LocalExecutorRequest) (binding : MutationGrantV2Binding) (b t r : PortSnapshotRef) :
    Serves T (stagePortV2 T.env T.driver policy request T.plan binding b t r)
      (stagePortV2 T.env T.driver.unchecked policy request T.plan binding b t r) tr s := by
  unfold stagePortV2
  refine agrees_ite (fun _ => serves_return h _) fun _ => ?_
  cases hbuild : buildSystemUpdatePortPolicyCandidates T.env policy T.plan with
  | none => exact serves_return h _
  | some c =>
  obtain rfl := hc c hbuild
  have hvalid : T.candidates.validate T.env T.plan = true := buildSystemUpdatePortPolicyCandidates_valid T.env hbuild
  dsimp only
  refine preserves_seq (agrees_self (wp_and
    (idle_wp (quietly_idle (policyVerify_quiet T.candidates.before)) h) (policyVerify_sees (E := T.env) T.candidates.before)))
    fun ok tr1 s1 h1 hv1 => ?_
  obtain ⟨⟨hu1, -⟩, hsees⟩ := hv1
  refine agrees_ite (fun _ => serves_return h1 _) fun hok => ?_
  obtain ⟨hdisk, hmemory⟩ := hsees (by simpa using hok)
  have hprepared : (T.driver.prepare policy T.plan T.candidates).wp (portNext T.env) (fun _ _ => True)
      (fun x tr' _ => ∀ l, x = some l → T.Alive tr' → T.driver.mode.validateLedger l T.plan.targetID = true) tr1 s1 := by
    by_cases hsane : T.sane
    · obtain ⟨-, hD, hmode⟩ := hT.sane hsane
      refine wp_post (hD.prepare policy T.plan T.candidates tr1 s1 hT.version hT.plan hmode hvalid) ?_
      intro x tr' s' _ hx l hl ha
      exact hx l hl ha.2
    · refine wp_post (only_wp (I := fun _ _ => True) (hT.lawful.prepare policy T.plan T.candidates)
        (fun _ _ _ _ _ _ => trivial) (fun _ _ h => h) trivial) ?_
      intro x tr' s' _ _ l _ ha
      exact absurd ha.1 hsane
  refine preserves_seq (agrees_self (wp_and
    (idle_wp (quietly_idle (hT.lawful.prepare policy T.plan T.candidates)) h1) hprepared)) fun x tr2 s2 h2 hv2 => ?_
  obtain ⟨⟨hu2, hstaged⟩, hval⟩ := hv2
  rcases x with _ | l
  · exact serves_return h2 _
  obtain ⟨hplan, hstate, hres, tt, htt, hcand, -⟩ := hstaged l rfl
  have hversion : l.plan.portContractVersion = 2 := by rw [hplan]; exact hT.version
  have hinside : Inside T.env T.candidates s2 := by
    refine ⟨candidates_canonical hvalid, ?_, ?_⟩
    · simp [hu2.disk, hu1.disk, hdisk, PortPolicyCandidates.allows]
    · simp [hu2.memory, hu1.memory, hmemory, PortPolicyCandidates.allows]
  have hl2 : Holding T tr2 s2 l := by
    refine ⟨by rw [hplan]; exact sameSystemdPortIntent_refl _, hversion, ⟨tt, htt, hcand⟩, hvalid, hres,
      fun _ => by rw [hstate]; rfl, fun _ => hinside, ?_⟩
    intro ha
    obtain ⟨hblank, hcoh⟩ := ((hT.sane ha.1).2.1.split l _ hversion).1 (hval l rfl ha)
    exact ⟨hblank, hcoh.observation⟩
  dsimp only
  refine preserves_seq (portV2Save_preserves h2 (hl2.storable hT) true) fun ok tr3 s3 h3 hs3 => ?_
  refine agrees_ite (fun _ => serves_return h3 _) fun _ => ?_
  have w : T.pass.holds False l tr3 s3 := ⟨h3, hl2.saved hs3⟩
  exact (hT.rules request r).advances w (fun _ => trivial) (fun _ _ => trivial) binding

omit hT in
/-- **One request.** From a state that satisfies the invariant, a request of the transaction's plan keeps it throughout,
and while the world's answers are live it runs as it would without the validators. -/
theorem executePortV2_preserves (hlawful : T.driver.Lawful T.env) (hobserved : T.driver.Observed T.env T.shows T.mode)
    (hsane : T.sane → ContractsSound T.env ∧ T.driver.Validated T.env T.mode) (policy : LocalExecutorPolicy)
    (request : LocalExecutorRequest) (hplan : request.portPlan = some T.plan)
    (hmode : T.sane → ∀ target, policy.target T.plan.targetID = some target → target.deploymentMode = T.mode)
    (hc : ledgerOf T.plan s = none → ∀ c, buildSystemUpdatePortPolicyCandidates T.env policy T.plan = some c →
      c = T.candidates) (h : Kept T tr s) :
    Serves T (executePortV2 T.env T.driver policy request) (executePortV2 T.env T.driver.unchecked policy request)
      tr s := by
  unfold executePortV2
  rw [hplan]
  cases hbinding : request.mutationGrantV2Binding with
  | none => exact serves_return h _
  | some binding =>
  dsimp only
  refine agrees_ite (fun _ => serves_return h _) fun hrequest => ?_
  simp only [Bool.or_eq_true, not_or] at hrequest
  have hversion : T.plan.portContractVersion = 2 := by simpa using hrequest.1
  have hrequest : request.validate T.env = true := by simpa using hrequest.2
  refine idle_seq (quietly_idle (quiet_op rfl)) h fun t0 tr1 s1 h1 hu1 _ => ?_
  split
  case h_2 => exact serves_return h1 _
  next rootTarget b t r hroot hb ht hr =>
  refine agrees_ite (fun _ => serves_return h1 _) fun hbound => ?_
  have hT : T.Ready := by
    have hvalid : T.plan.validate T.env.toContracts = true := by
      have hbound := hbound
      simp only [Bool.not_eq_true', Bool.not_eq_false, validatePortV2GrantBinding, Bool.and_eq_true] at hbound
      exact hbound.1.1.1.1.1.2
    refine ⟨hlawful, hobserved, hversion, hvalid, fun hs => ⟨(hsane hs).1, (hsane hs).2, ?_⟩⟩
    rw [← hmode hs rootTarget hroot]
    simp only [Bool.not_eq_true', Bool.not_eq_false, validatePortV2GrantBinding, hb, ht, hr, Bool.and_eq_true,
      beq_iff_eq] at hbound
    exact hbound.2.1.2.symm
  refine preserves_seq (portV2Load_loads kept_loads h1 _) fun x tr2 s2 h2 hx => ?_
  obtain ⟨rfl, -, hload⟩ := hx
  rcases x with _ | _ | l
  · exact serves_return h2 _
  · refine stagePortV2_preserves hT h2 policy (hc ?_) request binding b t r
    rw [← hu1.ledger]
    exact (hload none rfl).1
  · obtain ⟨hled, hl⟩ := hload (some l) rfl
    obtain ⟨hv, hval⟩ := hl l rfl
    dsimp only
    refine agrees_ite (fun _ => serves_return h2 _) fun hcond => ?_
    simp only [Bool.or_eq_true, not_or] at hcond
    have hsame : sameSystemdPortIntent l.plan T.plan = true := by simpa using hcond.1
    have htrans : (l.policyTransition.any fun x => x.validate T.env T.plan) = true := by simpa using hcond.2
    cases hres : l.result with
    | some result => exact resumePortV2_preserves hT h2 hled hsame hv hres
    | none =>
      have hopen : l.state ≠ .terminal := by
        intro hst
        have hsome := hlawful.terminal l _ hval hst
        simp [hres] at hsome
      obtain ⟨tt, htt, htv⟩ := (Option.any_eq_true _ _).1 htrans
      have hcand : tt.candidates = T.candidates := by
        rw [← h2.fixed l hled]
        simp [PortLedger.candidates, htt]
      have hsplit : T.sane → T.driver.mode.validateLedger l.blank T.plan.targetID = true ∧ l.Coherent T.env := fun hs =>
        ((hsane hs).2.split l _ hv).1 hval
      have hl2 : Holding T tr2 s2 l := by
        refine ⟨hsame, hv, ⟨tt, htt, hcand⟩, ?_, hres, fun hs => unfinished_of_coherent (hsplit hs).2 hres,
          fun hin => h2.allowed hin l hled hv hopen, ?_⟩
        · rw [← hcand]
          simp only [PortPolicyTransition.validate, Bool.and_eq_true] at htv
          exact htv.1.1.1.2
        · intro ha
          exact ⟨(hsplit ha.1).1, (hsplit ha.1).2.observation⟩
      have w : T.pass.holds False l tr2 s2 := ⟨h2, hl2⟩
      exact (hT.rules request r).advances w (fun _ => trivial) (fun _ _ => trivial) binding

end Programs
end AutostreamUpdater.Port
