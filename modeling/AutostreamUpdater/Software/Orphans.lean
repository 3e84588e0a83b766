/-
The stage roots a request without a ledger looks for: the stable root and those of the latest lease generations.

The loop counts an unsigned 64-bit generation down to the oldest one of its window. `scannedGenerations` is its control,
with a decrement that wraps at zero and a bound on the passes; `addLegacyRoot` is its body.
-/
import AutostreamUpdater.Software.Steady

namespace AutostreamUpdater.Software

open Contract

variable (E : SoftwareEnv) (plan : MutationPlan)

/-- the root of the plan's stage under one lease generation; a plan without identity has no digest -/
def generationRoot (generation : ℕ) : Option Path :=
  ({ plan with leaseGeneration := generation }.computePlanSHA256 E.payloadSHA256).map fun digest =>
    E.stagesRoot ++ [E.stableKey plan.jobID digest]

def remoteLegacyStageGenerationScanLimit : UInt64 := 256

/-- the last generation of the window -/
def oldestGeneration (generation : UInt64) : UInt64 :=
  if remoteLegacyStageGenerationScanLimit < generation then generation - remoteLegacyStageGenerationScanLimit + 1 else 1

/-- the generations the loop passes through, if `fuel` passes are enough -/
def scannedGenerations (oldest : UInt64) : ℕ → UInt64 → Option (List UInt64)
  | 0, _ => none
  | fuel + 1, generation =>
    if oldest ≤ generation then
      if generation = oldest then some [generation]
      else (scannedGenerations oldest fuel (generation - 1)).map (generation :: ·)
    else some []

/-- one pass: the root of the generation, unless it was seen -/
def addLegacyRoot (roots : List Path) (generation : UInt64) : Except String (List Path) :=
  match generationRoot E plan generation.toNat with
  | none => .error "derive legacy remote stage path"
  | some root => .ok (if root ∈ roots then roots else roots ++ [root])

/-- `remoteOrphanStageRoots` -/
def remoteOrphanStageRoots (fuel : ℕ) : Option (Except String (List Path)) :=
  match generationRoot E plan 1 with
  | none => some (.error "derive stable remote stage path")
  | some stable =>
    let generation := UInt64.ofNat plan.leaseGeneration
    (scannedGenerations (oldestGeneration generation) fuel generation).map fun generations =>
      generations.foldlM (addLegacyRoot E plan) [stable]

variable {E plan}

/-- the generation plays no part in a plan's identity, as long as it is not zero -/
theorem generationRoot_isSome {n : ℕ} (hn : n ≠ 0) (h : { plan with leaseGeneration := 1 }.identityComplete = true) :
    (generationRoot E plan n).isSome = true := by
  have h' : { plan with leaseGeneration := n }.identityComplete = true := by
    simpa [MutationPlan.identityComplete, hn] using h
  simp [generationRoot, MutationPlan.computePlanSHA256, h']

theorem addLegacyRoot_eq {roots : List Path} {g : UInt64} {root : Path} (h : generationRoot E plan g.toNat = some root) :
    addLegacyRoot E plan roots g = .ok (if root ∈ roots then roots else roots ++ [root]) := by
  unfold addLegacyRoot
  simp only [h]

/-! ## The loop -/

/-- **The countdown.** From `k` above the oldest generation the loop makes `k + 1` passes and never decrements zero. -/
theorem scannedGenerations_eq {oldest : UInt64} (h0 : 0 < oldest.toNat) (k fuel : ℕ) (hfuel : k < fuel)
    (generation : UInt64) (hk : generation.toNat = oldest.toNat + k) :
    ∃ gs, scannedGenerations oldest fuel generation = some gs ∧
      gs.map UInt64.toNat = (List.range (k + 1)).map (generation.toNat - ·) := by
  induction k generalizing generation fuel with
  | zero =>
    obtain ⟨fuel, rfl⟩ : ∃ m, fuel = m + 1 := ⟨fuel - 1, by omega⟩
    obtain rfl : generation = oldest := UInt64.toNat_inj.1 (by omega)
    exact ⟨[generation], by simp [scannedGenerations], by simp⟩
  | succ k ih =>
    obtain ⟨fuel, rfl⟩ : ∃ m, fuel = m + 1 := ⟨fuel - 1, by omega⟩
    have hle : oldest ≤ generation := UInt64.le_iff_toNat_le.2 (by omega)
    have hne : generation ≠ oldest := by
      rintro rfl
      omega
    have hone : (1 : UInt64) ≤ generation := UInt64.le_iff_toNat_le.2 (by simp; omega)
    have hpred : (generation - 1).toNat = generation.toNat - 1 := UInt64.toNat_sub_of_le _ _ hone
    obtain ⟨gs, hgs, hmap⟩ := ih fuel (by omega) (generation - 1) (by omega)
    refine ⟨generation :: gs, by simp [scannedGenerations, hle, hne, hgs], ?_⟩
    rw [List.map_cons, hmap, hpred, List.range_succ_eq_map (n := k + 1), List.map_cons, List.map_map, Nat.sub_zero]
    refine congrArg (generation.toNat :: ·) (List.map_congr_left fun i _ => ?_)
    simp only [Function.comp_apply]
    omega

/-- the window holds the last `min g 256` generations -/
theorem scan_window (g : UInt64) (fuel : ℕ) (hfuel : 256 ≤ fuel) :
    ∃ gs, scannedGenerations (oldestGeneration g) fuel g = some gs ∧
      gs.map UInt64.toNat = (List.range (min g.toNat 256)).map (g.toNat - ·) := by
  have hlimit : remoteLegacyStageGenerationScanLimit.toNat = 256 := rfl
  by_cases hg : remoteLegacyStageGenerationScanLimit < g
  · have hlt := UInt64.lt_iff_toNat_lt.1 hg
    have hsub : (g - remoteLegacyStageGenerationScanLimit).toNat = g.toNat - 256 :=
      UInt64.toNat_sub_of_le _ _ (UInt64.le_of_lt hg)
    have hold : (oldestGeneration g).toNat = g.toNat - 255 := by
      have hbound := g.toNat_lt
      rw [oldestGeneration, if_pos hg, UInt64.toNat_add, hsub, UInt64.toNat_one]
      omega
    rw [show min g.toNat 256 = 255 + 1 by omega]
    exact scannedGenerations_eq (by omega) 255 fuel (by omega) g (by omega)
  · have hle : g.toNat ≤ 256 := by
      have := UInt64.le_iff_toNat_le.1 (UInt64.not_lt.1 hg)
      omega
    rw [oldestGeneration, if_neg hg, Nat.min_eq_left hle]
    rcases Nat.eq_zero_or_pos g.toNat with hz | hpos
    · obtain ⟨fuel, rfl⟩ : ∃ m, fuel = m + 1 := ⟨fuel - 1, by omega⟩
      obtain rfl : g = 0 := UInt64.toNat_inj.1 hz
      exact ⟨[], rfl, rfl⟩
    · have h := @scannedGenerations_eq 1 (by decide) (g.toNat - 1) fuel (by omega) g (by simp; omega)
      rwa [Nat.sub_add_cancel hpos] at h

/-- the passes add each new root once -/
theorem foldlM_addLegacyRoot {gs : List UInt64} (hgs : ∀ g ∈ gs, (generationRoot E plan g.toNat).isSome = true)
    {roots : List Path} (hnodup : roots.Nodup) :
    ∃ roots', gs.foldlM (addLegacyRoot E plan) roots = .ok roots' ∧ roots'.Nodup ∧
      ∀ r, r ∈ roots' ↔ r ∈ roots ∨ ∃ g ∈ gs, generationRoot E plan g.toNat = some r := by
  induction gs generalizing roots with
  | nil => exact ⟨roots, rfl, hnodup, by simp⟩
  | cons g gs ih =>
    obtain ⟨root, hroot⟩ := Option.isSome_iff_exists.1 (hgs g List.mem_cons_self)
    have hadd : (if root ∈ roots then roots else roots ++ [root]).Nodup := by
      split
      · exact hnodup
      · next hnew => exact hnodup.append (by simp) (by simpa using hnew)
    obtain ⟨roots', hfold, hnodup', hmem⟩ := ih (fun g' hg' => hgs g' (List.mem_cons_of_mem _ hg')) hadd
    refine ⟨roots', ?_, hnodup', fun r => ?_⟩
    · rw [List.foldlM_cons, addLegacyRoot_eq hroot]
      exact hfold
    · rw [hmem]
      simp only [List.mem_cons, exists_eq_or_imp, hroot, Option.some.injEq]
      split <;> grind

/-- **Orphan stage roots.** A plan without identity has no root. Otherwise the loop passes through exactly the last
`min g 256` generations; the roots are the stable one and theirs, each once, each a directory below `stages` in the state
directory. The key is a hex SHA-256. -/
theorem orphan_stage_roots {stateDir : Path} (hdir : E.stagesRoot = stateDir ++ ["stages"])
    (hkey : ∀ job digest, mutationPlanHashPattern (E.stableKey job digest) = true)
    (hg : plan.leaseGeneration < 2 ^ 64) {fuel : ℕ} (hfuel : 256 ≤ fuel) :
    (∃ gs, scannedGenerations (oldestGeneration (UInt64.ofNat plan.leaseGeneration)) fuel
        (UInt64.ofNat plan.leaseGeneration) = some gs ∧
      gs.map UInt64.toNat = (List.range (min plan.leaseGeneration 256)).map (plan.leaseGeneration - ·)) ∧
    (generationRoot E plan 1 = none →
      remoteOrphanStageRoots E plan fuel = some (.error "derive stable remote stage path")) ∧
    ∀ stable, generationRoot E plan 1 = some stable →
      ∃ roots, remoteOrphanStageRoots E plan fuel = some (.ok roots) ∧ roots.Nodup ∧
        (∀ r, r ∈ roots ↔ r = stable ∨ ∃ n, plan.leaseGeneration - min plan.leaseGeneration 256 < n ∧
          n ≤ plan.leaseGeneration ∧ generationRoot E plan n = some r) ∧
        ∀ r ∈ roots, ∃ key, mutationPlanHashPattern key = true ∧ r = stateDir ++ ["stages", key] := by
  have hnat : (UInt64.ofNat plan.leaseGeneration).toNat = plan.leaseGeneration := UInt64.toNat_ofNat_of_lt' hg
  obtain ⟨gs, hgs, hmap⟩ := scan_window (UInt64.ofNat plan.leaseGeneration) fuel hfuel
  rw [hnat] at hmap
  unfold remoteOrphanStageRoots
  refine ⟨⟨gs, hgs, hmap⟩, fun hnone => by simp only [hnone], fun stable hstable => ?_⟩
  have hid : { plan with leaseGeneration := 1 }.identityComplete = true := by
    by_contra hid
    simp [generationRoot, MutationPlan.computePlanSHA256, hid] at hstable
  -- the passes are the generations of the window
  have hpass : ∀ n, (∃ g ∈ gs, g.toNat = n) ↔
      plan.leaseGeneration - min plan.leaseGeneration 256 < n ∧ n ≤ plan.leaseGeneration := by
    intro n
    rw [← List.mem_map, hmap, List.mem_map]
    constructor
    · rintro ⟨i, hi, rfl⟩
      have := List.mem_range.1 hi
      omega
    · rintro ⟨hlow, hhigh⟩
      exact ⟨plan.leaseGeneration - n, List.mem_range.2 (by omega), by omega⟩
  have hroots : ∀ g ∈ gs, (generationRoot E plan g.toNat).isSome = true := fun g hmem =>
    generationRoot_isSome (by have := (hpass _).1 ⟨g, hmem, rfl⟩; omega) hid
  obtain ⟨roots, hfold, hnodup, hmem⟩ := foldlM_addLegacyRoot hroots (List.nodup_singleton stable)
  refine ⟨roots, ?_, hnodup, fun r => ?_, fun r hr => ?_⟩
  · simp only [hstable, hgs, Option.map_some, hfold]
  · rw [hmem, List.mem_singleton]
    refine or_congr_right ⟨?_, ?_⟩
    · rintro ⟨g, hg', hr⟩
      obtain ⟨hlow, hhigh⟩ := (hpass g.toNat).1 ⟨g, hg', rfl⟩
      exact ⟨_, hlow, hhigh, hr⟩
    · rintro ⟨n, hlow, hhigh, hr⟩
      obtain ⟨g, hg', rfl⟩ := (hpass n).2 ⟨hlow, hhigh⟩
      exact ⟨g, hg', hr⟩
  · obtain ⟨n, hn⟩ : ∃ n, generationRoot E plan n = some r := by
      rcases (hmem r).1 hr with h | ⟨g, -, h⟩
      · rw [List.mem_singleton.1 h]
        exact ⟨1, hstable⟩
      · exact ⟨_, h⟩
    simp only [generationRoot, Option.map_eq_some_iff] at hn
    obtain ⟨digest, -, rfl⟩ := hn
    exact ⟨_, hkey plan.jobID digest, by simp [hdir]⟩

/-- a generation as 64 digits -/
def generationKey (n : ℕ) : String := String.ofList ((List.range 64).map fun i => if n.testBit i then '1' else '0')

theorem generationKey_hash (n : ℕ) : mutationPlanHashPattern (generationKey n) = true := by
  have hdigits : isHex '1' = true ∧ isHex '0' = true := by decide
  simp only [mutationPlanHashPattern, generationKey, String.toList_ofList, List.length_map, List.length_range, List.all_map,
    Bool.and_eq_true, List.all_eq_true, Function.comp_apply]
  refine ⟨by decide, fun i _ => ?_⟩
  split
  · exact hdigits.1
  · exact hdigits.2

theorem generationKey_inj {m n : ℕ} (hm : m < 2 ^ 64) (hn : n < 2 ^ 64) (h : generationKey m = generationKey n) : m = n := by
  have hdigits := List.map_inj_left.1 (String.ofList_inj.1 h)
  refine Nat.eq_of_testBit_eq fun i => ?_
  by_cases hi : i < 64
  · have := hdigits i (List.mem_range.2 hi)
    cases hmi : m.testBit i <;> cases hni : n.testBit i <;> simp_all
  · have hlow : 2 ^ 64 ≤ 2 ^ i := Nat.pow_le_pow_right (by simp) (by omega)
    rw [Nat.testBit_lt_two_pow (hm.trans_le hlow), Nat.testBit_lt_two_pow (hn.trans_le hlow)]

/-- the sample's worker, with its stages in a state directory and a key of their own for every generation -/
def orphanEnv : SoftwareEnv :=
  { sampleEnv with
    stagesRoot := ["state", "stages"]
    payloadSHA256 := fun _ p => generationKey p.leaseGeneration
    stableKey := fun _ digest => if mutationPlanHashPattern digest then digest else digestOf 'a' }

theorem orphan_generationRoot {n : ℕ} (hn : n ≠ 0) :
    generationRoot orphanEnv (samplePlan "job-1" 300) n = some ["state", "stages", generationKey n] := by
  have hvalid := samplePlan_validate (.inl (rfl : "job-1" = "job-1")) (n := 1) (by simp)
  simp only [MutationPlan.validate, MutationPlan.computePlanSHA256, Bool.and_eq_true, beq_iff_eq] at hvalid
  have hone : (samplePlan "job-1" 1).identityComplete = true := by
    by_contra hone
    simp [hone] at hvalid
  have hid : { samplePlan "job-1" 300 with leaseGeneration := n }.identityComplete = true := by
    simpa [MutationPlan.identityComplete, samplePlan, hn] using hone
  simp [generationRoot, MutationPlan.computePlanSHA256, hid, orphanEnv, MutationPlan.payload, generationKey_hash]

/-- at generation 300 there are 257 of them -/
theorem sample_orphan_roots :
    ∃ roots, remoteOrphanStageRoots orphanEnv (samplePlan "job-1" 300) 256 = some (.ok roots) ∧ roots.Nodup ∧
      roots.length = 257 := by
  have hkey : ∀ job digest, mutationPlanHashPattern (orphanEnv.stableKey job digest) = true := by
    intro job digest
    simp only [orphanEnv]
    split
    · assumption
    · exact digestOf_hash (by decide)
  obtain ⟨-, -, h⟩ := @orphan_stage_roots orphanEnv (samplePlan "job-1" 300) ["state"] rfl hkey (by simp [samplePlan]) 256
    le_rfl
  obtain ⟨roots, hroots, hnodup, hmem, -⟩ := h _ (orphan_generationRoot one_ne_zero)
  refine ⟨roots, hroots, hnodup, ?_⟩
  have hset : roots.toFinset = (insert 1 (Finset.Ioc 44 300)).image fun n => ["state", "stages", generationKey n] := by
    ext r
    rw [List.mem_toFinset, hmem, Finset.image_insert, Finset.mem_insert, Finset.mem_image]
    refine or_congr_right (exists_congr fun n => ?_)
    rw [Finset.mem_Ioc, and_assoc]
    refine and_congr_right fun hlow => and_congr_right fun _ => ?_
    rw [orphan_generationRoot (by omega), Option.some.injEq]
  rw [← List.toFinset_card_of_nodup hnodup, hset, Finset.card_image_of_injOn]
  · rw [Finset.card_insert_of_notMem (by simp), Nat.card_Ioc]
  · intro m hm n hn heq
    simp only [Finset.coe_insert, Set.mem_insert_iff, Finset.mem_coe, Finset.mem_Ioc] at hm hn
    exact generationKey_inj (by omega) (by omega) (by simpa using heq)

end AutostreamUpdater.Software
