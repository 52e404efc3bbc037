import Mathlib.Data.Int.CardIntervalMod
import RemoteBrowser.SessionAuthority.Bootstrap

/-!
# Placement of workers

A region's workers are assigned in turn, and so are the suffixes of its availability zones, by one
counter.  Workers are used evenly; a worker has one zone exactly if the suffixes repeat with the
workers.
-/

namespace RemoteBrowser.SessionAuthority

variable (cfg : Config)

/-! ## Assignments in turn -/

/-- The section of `assignWorker`. -/
def Authority.assignWorker (state : Authority) (region : String) :
    Authority × MediaGateway.WorkerAssignment :=
  bootstrapExec cfg {} (.assignWorker region) state

/-- The assignments of a sequence of calls, each for a region. -/
def assignWorkers : Authority → List String → List MediaGateway.WorkerAssignment
  | _, [] => []
  | state, region :: rest =>
      let outcome := state.assignWorker cfg region
      outcome.2 :: assignWorkers outcome.1 rest

def workerID (region : String) (number : Nat) : String :=
  "worker-" ++ region ++ "-" ++ zeroPadded 3 (number + 1)

/-- Workers with the same id are in the same zone. -/
def IsConsistent (assigned : List MediaGateway.WorkerAssignment) : Prop :=
  ∀ first ∈ assigned, ∀ second ∈ assigned,
    first.workerID = second.workerID → first.availabilityZone = second.availabilityZone

/-- How often a worker was assigned. -/
def timesAssigned (assigned : List MediaGateway.WorkerAssignment) (id : String) : Nat :=
  assigned.countP fun assignment => assignment.workerID = id

/-- Two workers of a region were assigned equally often, or one of them once more. -/
def IsBalanced (assigned : List MediaGateway.WorkerAssignment) : Prop :=
  ∀ region, ∀ first < cfg.workersPerRegion, ∀ second < cfg.workersPerRegion,
    timesAssigned assigned (workerID region first) ≤
      timesAssigned assigned (workerID region second) + 1

/-- The suffix of the zone that comes after so many calls. -/
def zoneSuffix (calls : Nat) : String :=
  cfg.zoneSuffixes.getD (calls % cfg.zoneSuffixes.length) ""

/-- As far as a region's workers come around again, the suffixes do. -/
def ZonesRepeat (regions : List String) : Prop :=
  ∀ region calls, calls + cfg.workersPerRegion < regions.count region →
    zoneSuffix cfg calls = zoneSuffix cfg (calls + cfg.workersPerRegion)

/-! ## The ids of workers -/

theorem ofDigitChars_zeroPadded (width number : Nat) :
    Nat.ofDigitChars 10 (zeroPadded width number).toList 0 = number := by
  have digits : (toString number).toList = Nat.toDigits 10 number := by
    rw [Nat.toString_eq_repr, Nat.repr, String.toList_ofList]
  rw [zeroPadded, String.toList_append, String.toList_ofList, Nat.ofDigitChars_append,
    Nat.ofDigitChars_replicate_zero, Nat.mul_zero, digits, Nat.ofDigitChars_ten_toDigits]

theorem dash_not_mem_zeroPadded (width number : Nat) : '-' ∉ (zeroPadded width number).toList := by
  have digits : (toString number).toList = Nat.toDigits 10 number := by
    rw [Nat.toString_eq_repr, Nat.repr, String.toList_ofList]
  rw [zeroPadded, String.toList_append, String.toList_ofList, digits, List.mem_append]
  rintro (zero | digit)
  · cases List.eq_of_mem_replicate zero
  · have isDigit := Nat.isDigit_of_mem_toDigits (by decide) (by decide) digit
    revert isDigit
    decide

/-- What follows the last separator is read off from the end. -/
theorem append_cons_injective {α : Type} [DecidableEq α] {separator : α}
    {front other last rest : List α} (free : separator ∉ last) (clear : separator ∉ rest)
    (same : front ++ separator :: last = other ++ separator :: rest) :
    front = other ∧ last = rest := by
  have takes {front last : List α} (free : separator ∉ last) :
      (front ++ separator :: last).reverse.takeWhile (· ≠ separator) = last.reverse := by
    rw [List.reverse_append, List.reverse_cons, List.append_assoc,
      List.takeWhile_append_of_pos, List.singleton_append, List.takeWhile_cons_of_neg,
      List.append_nil]
    · simp
    · intro item member
      exact decide_eq_true fun equal => free (equal ▸ List.mem_reverse.mp member)
  have ends : last = rest := by
    apply List.reverse_injective
    rw [← takes free, ← takes clear, same]
  subst ends
  exact ⟨List.append_cancel_right same, rfl⟩

theorem workerID_injective {region other : String} {number another : Nat}
    (same : workerID region number = workerID other another) :
    region = other ∧ number = another := by
  have lists := congrArg String.toList same
  simp only [workerID, String.toList_append, List.append_assoc, List.append_cancel_left_eq] at lists
  have dash : "-".toList = ['-'] := rfl
  rw [dash, List.singleton_append, List.singleton_append] at lists
  obtain ⟨regions, digits⟩ := append_cons_injective (dash_not_mem_zeroPadded 3 _)
    (dash_not_mem_zeroPadded 3 _) lists
  have numbers := congrArg (fun digits => Nat.ofDigitChars 10 digits 0) digits
  simp only [ofDigitChars_zeroPadded, Nat.add_right_cancel_iff] at numbers
  exact ⟨String.toList_injective regions, numbers⟩

/-! ## What is assigned -/

/-- The assignment of a call that so many calls for the region have preceded. -/
theorem assignWorker_eq (state : Authority) (region : String) :
    (state.assignWorker cfg region).2 =
      workerAssignment cfg region (state.workerIndex region + 1) := rfl

theorem assignWorker_workerIndex (state : Authority) (region : String) :
    (state.assignWorker cfg region).1.workerIndex =
      Function.update state.workerIndex region (state.workerIndex region + 1) := rfl

theorem workerAssignment_workerID (region : String) (calls : Nat) :
    (workerAssignment cfg region (calls + 1)).workerID =
      workerID region (calls % cfg.workersPerRegion) := rfl

theorem workerAssignment_zone (region : String) (calls : Nat) :
    (workerAssignment cfg region (calls + 1)).availabilityZone =
      region ++ zoneSuffix cfg calls := rfl

/-- Every assignment belongs to one of the calls for its region. -/
theorem mem_assignWorkers {assignment : MediaGateway.WorkerAssignment} (state : Authority)
    (regions : List String) :
    assignment ∈ assignWorkers cfg state regions ↔
      ∃ region calls, calls < regions.count region ∧
        assignment = workerAssignment cfg region (state.workerIndex region + calls + 1) := by
  induction regions generalizing state with
  | nil => simp [assignWorkers]
  | cons first rest ih =>
      rw [assignWorkers, List.mem_cons, ih, assignWorker_eq, assignWorker_workerIndex]
      constructor
      · rintro (rfl | ⟨region, calls, early, rfl⟩)
        · exact ⟨first, 0, by rw [List.count_cons_self]; exact Nat.succ_pos _, rfl⟩
        · by_cases same : region = first
          · subst same
            refine ⟨region, calls + 1, by rw [List.count_cons_self]; omega, ?_⟩
            rw [Function.update_self, Nat.add_right_comm _ 1, Nat.add_assoc _ calls 1]
          · refine ⟨region, calls, ?_, by rw [Function.update_of_ne same]⟩
            rw [List.count_cons_of_ne (Ne.symm same)]
            exact early
      · rintro ⟨region, calls, early, rfl⟩
        by_cases same : region = first
        · subst same
          cases calls with
          | zero => exact .inl rfl
          | succ calls =>
              refine .inr ⟨region, calls, ?_, ?_⟩
              · rw [List.count_cons_self] at early
                omega
              · rw [Function.update_self, Nat.add_right_comm _ 1, Nat.add_assoc _ calls 1]
        · refine .inr ⟨region, calls, ?_, by rw [Function.update_of_ne same]⟩
          rw [List.count_cons_of_ne (Ne.symm same)] at early
          exact early

/-- A worker is assigned by every call of its region that its number comes up at. -/
theorem timesAssigned_assignWorkers (state : Authority) (regions : List String) (region : String)
    (number : Nat) :
    timesAssigned (assignWorkers cfg state regions) (workerID region number) =
      (List.range (regions.count region)).countP fun calls =>
        (state.workerIndex region + calls) % cfg.workersPerRegion = number := by
  induction regions generalizing state with
  | nil => rfl
  | cons first rest ih =>
      have step := ih (state.assignWorker cfg first).1
      rw [timesAssigned] at step ⊢
      rw [assignWorkers, List.countP_cons, step, assignWorker_eq, workerAssignment_workerID,
        assignWorker_workerIndex]
      by_cases same : region = first
      · subst same
        have own : workerID region (state.workerIndex region % cfg.workersPerRegion) =
            workerID region number ↔
              state.workerIndex region % cfg.workersPerRegion = number :=
          ⟨fun equal => (workerID_injective equal).2, fun equal => by rw [equal]⟩
        rw [Function.update_self, List.count_cons_self, List.range_succ_eq_map, List.countP_cons,
          List.countP_map]
        simp only [decide_eq_true_eq, own, Nat.add_zero]
        congr 1
        apply List.countP_congr
        intro calls _
        simp only [Function.comp_apply, decide_eq_true_eq, Nat.succ_eq_add_one]
        rw [Nat.add_right_comm, Nat.add_assoc _ calls 1]
      · have other : workerID first (state.workerIndex first % cfg.workersPerRegion) ≠
            workerID region number := fun equal => same (workerID_injective equal).1.symm
        rw [Function.update_of_ne same, List.count_cons_of_ne (Ne.symm same)]
        simp only [decide_eq_true_eq, if_neg other, Nat.add_zero]

/-- In so many calls, every number comes up almost equally often. -/
theorem countP_mod_le {size : Nat} (positive : 0 < size) (calls first second : Nat)
    (small : first < size) (least : second < size) :
    (List.range calls).countP (fun call => (0 + call) % size = first) ≤
      (List.range calls).countP (fun call => (0 + call) % size = second) + 1 := by
  have counts {number : Nat} (small : number < size) :
      (List.range calls).countP (fun call => (0 + call) % size = number) =
        calls / size + if number % size < calls % size then 1 else 0 := by
    rw [← Nat.count_modEq_card calls positive number, Nat.count]
    apply List.countP_congr
    intro call _
    rw [decide_eq_true_eq, decide_eq_true_eq, Nat.zero_add, Nat.ModEq, Nat.mod_eq_of_lt small]
  rw [counts small, counts least]
  split
  · split
    · omega
    · omega
  · split
    · omega
    · omega

theorem assignWorkers_balanced (positive : 0 < cfg.workersPerRegion) (regions : List String) :
    IsBalanced cfg (assignWorkers cfg {} regions) := by
  intro region first small second least
  rw [timesAssigned_assignWorkers, timesAssigned_assignWorkers]
  exact countP_mod_le positive _ first second small least

/-- Suffixes that repeat after one round repeat after any number of rounds. -/
theorem ZonesRepeat.rounds {cfg : Config} {regions : List String}
    (repeats : ZonesRepeat cfg regions) {region : String} (calls rounds : Nat)
    (early : calls + cfg.workersPerRegion * rounds < regions.count region) :
    zoneSuffix cfg calls = zoneSuffix cfg (calls + cfg.workersPerRegion * rounds) := by
  induction rounds with
  | zero => rfl
  | succ rounds ih =>
      rw [Nat.mul_succ, ← Nat.add_assoc] at early ⊢
      rw [ih (by omega)]
      exact repeats region _ early

theorem ZonesRepeat.of_mod {cfg : Config} {regions : List String}
    (repeats : ZonesRepeat cfg regions) {region : String} {calls later : Nat}
    (order : calls ≤ later) (early : later < regions.count region)
    (same : calls % cfg.workersPerRegion = later % cfg.workersPerRegion) :
    zoneSuffix cfg calls = zoneSuffix cfg later := by
  have divides := (Nat.modEq_iff_dvd' order).mp same
  obtain ⟨rounds, gap⟩ := divides
  have split : later = calls + cfg.workersPerRegion * rounds := by omega
  rw [split] at early ⊢
  exact repeats.rounds calls rounds early

/-- Assignments are always balanced, and they are consistent exactly if the zones' suffixes
repeat with the workers as far as they come around. -/
theorem assignments_consistent_and_balanced_iff (positive : 1 ≤ cfg.workersPerRegion)
    (regions : List String) :
    IsConsistent (assignWorkers cfg {} regions) ∧ IsBalanced cfg (assignWorkers cfg {} regions) ↔
      ZonesRepeat cfg regions := by
  have listed {assignment : MediaGateway.WorkerAssignment} :
      assignment ∈ assignWorkers cfg {} regions ↔
        ∃ region calls, calls < regions.count region ∧
          assignment = workerAssignment cfg region (calls + 1) := by
    rw [mem_assignWorkers]
    simp only [Nat.zero_add]
  constructor
  · rintro ⟨consistent, -⟩ region calls early
    have zones := consistent _ (listed.mpr ⟨region, calls, by omega, rfl⟩) _
      (listed.mpr ⟨region, _, early, rfl⟩)
    rw [workerAssignment_workerID, workerAssignment_workerID, workerAssignment_zone,
      workerAssignment_zone, Nat.add_mod_right] at zones
    exact String.append_right_inj region |>.mp (zones rfl)
  · intro repeats
    refine ⟨?_, assignWorkers_balanced cfg positive regions⟩
    intro first member second other same
    obtain ⟨region, calls, early, rfl⟩ := listed.mp member
    obtain ⟨region', later, late, rfl⟩ := listed.mp other
    rw [workerAssignment_workerID, workerAssignment_workerID] at same
    obtain ⟨rfl, number⟩ := workerID_injective same
    rw [workerAssignment_zone, workerAssignment_zone]
    rcases Nat.le_total calls later with order | order
    · rw [repeats.of_mod order late number]
    · rw [repeats.of_mod order early number.symm]

/-- Nine workers come around in three zones. -/
theorem nine_workers_keep_their_zones :
    let cfg := { sampleConfig with workersPerRegion := 9 }
    let assigned := assignWorkers cfg {} (List.replicate 20 "us-east-1")
    IsConsistent assigned ∧ IsBalanced cfg assigned := by
  intro cfg assigned
  apply (assignments_consistent_and_balanced_iff cfg (by decide) _).mpr
  intro region calls _
  have round : (calls + 9) % 3 = calls % 3 := by omega
  exact congrArg (fun number => ["a", "b", "c"].getD number "") round.symm

/-- By default the ninth call assigns the first worker again, in another zone. -/
theorem ninth_assignment_moves_a_worker :
    ¬∀ cfg : Config, 1 ≤ cfg.workersPerRegion → cfg.zoneSuffixes ≠ [] →
      ∀ regions, IsConsistent (assignWorkers cfg {} regions) ∧
        IsBalanced cfg (assignWorkers cfg {} regions) := by
  intro always
  have consistent := (always sampleConfig (by decide) (by decide)
    (List.replicate 9 "us-east-1")).1
  have first : workerAssignment sampleConfig "us-east-1" 1 ∈
      assignWorkers sampleConfig {} (List.replicate 9 "us-east-1") := .head _
  have ninth : workerAssignment sampleConfig "us-east-1" 9 ∈
      assignWorkers sampleConfig {} (List.replicate 9 "us-east-1") :=
    (mem_assignWorkers sampleConfig {} _).mpr ⟨"us-east-1", 8, by decide, rfl⟩
  have zones := consistent _ first _ ninth (by rfl)
  revert zones
  decide

end RemoteBrowser.SessionAuthority
