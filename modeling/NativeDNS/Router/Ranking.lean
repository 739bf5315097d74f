/-
The order in which a fallback group is tried.

The comparison handed to the stable sort reads three things of each candidate:
whether its circuit counts as open, whether it is due for a recovery probe, and
its latency, if one has been observed.
-/
import NativeDNS.Library.StableOrder
import NativeDNS.Router.Group

namespace NativeDNS

open StableOrder

section Comparison

variable (health : HealthMap) (route : NetworkRoute) (now : Nat)

def anyReady (candidates : List Server) : Bool :=
  candidates.any fun server =>
    decide ((healthAt health (healthKey route server)).retryAfter ≤ now)

def circuitOpen (candidates : List Server) (server : Server) : Bool :=
  anyReady health route now candidates &&
    decide ((healthAt health (healthKey route server)).retryAfter > now)

def recoveryProbe (server : Server) : Bool :=
  decide ((healthAt health (healthKey route server)).consecutiveFailures ≥ 2) &&
    decide ((healthAt health (healthKey route server)).retryAfter ≤ now)

def observedLatency (server : Server) : Option Rat :=
  (healthAt health (healthKey route server)).latencyMs

def ranksBefore (candidates : List Server) : Server → Server → Bool :=
  precedes health route now (anyReady health route now candidates)

/-- The candidates agree on the circuit and on the recovery probe. -/
def SameStanding (candidates : List Server) (left right : Server) : Prop :=
  circuitOpen health route now candidates left =
      circuitOpen health route now candidates right ∧
    recoveryProbe health route now left = recoveryProbe health route now right

/-- Smaller standings come first: closed circuits, and probes among them. -/
def standing (candidates : List Server) (server : Server) : Nat :=
  (if circuitOpen health route now candidates server then 2 else 0) +
    (if recoveryProbe health route now server then 0 else 1)

/-- No candidate without a latency stands level with two candidates of
different latencies. -/
def LatencyComparable (candidates : List Server) : Prop :=
  ∀ left ∈ candidates, ∀ middle ∈ candidates, ∀ right ∈ candidates,
    SameStanding health route now candidates left middle →
    SameStanding health route now candidates middle right →
    observedLatency health route middle = none →
    ∀ x y, observedLatency health route left = some x →
      observedLatency health route right = some y → x = y

/-- Candidates that stand level and both have a latency are in increasing
order of it. -/
def ByLatency (candidates ordered : List Server) : Prop :=
  ordered.Pairwise fun left right =>
    SameStanding health route now candidates left right →
    ∀ x y, observedLatency health route left = some x →
      observedLatency health route right = some y → x ≤ y

/-- The comparison is one a stable sort may be given, there is one order it
can return, and that order is by latency. -/
structure SoundRanking (candidates : List Server) : Prop where
  strictWeak : StrictWeak (ranksBefore health route now candidates) candidates
  determined :
    ∃! ordered, Arranged (ranksBefore health route now candidates) candidates ordered
  byLatency : ∀ ordered,
    Arranged (ranksBefore health route now candidates) candidates ordered →
      ByLatency health route now candidates ordered

variable {health route now} {candidates : List Server} {left right : Server}

theorem sameStanding_iff :
    SameStanding health route now candidates left right ↔
      standing health route now candidates left =
        standing health route now candidates right := by
  unfold SameStanding standing
  cases circuitOpen health route now candidates left <;>
    cases circuitOpen health route now candidates right <;>
    cases recoveryProbe health route now left <;>
    cases recoveryProbe health route now right <;> decide

theorem ranksBefore_iff :
    ranksBefore health route now candidates left right = true ↔
      standing health route now candidates left <
          standing health route now candidates right ∨
        (standing health route now candidates left =
            standing health route now candidates right ∧
          ∃ x y, observedLatency health route left = some x ∧
            observedLatency health route right = some y ∧ x < y) := by
  have shape : ranksBefore health route now candidates left right =
      if circuitOpen health route now candidates left ≠
          circuitOpen health route now candidates right then
        !circuitOpen health route now candidates left
      else if recoveryProbe health route now left ≠
          recoveryProbe health route now right then
        recoveryProbe health route now left
      else
        (observedLatency health route left).any fun x =>
          (observedLatency health route right).any fun y => decide (x < y) := by
    unfold ranksBefore precedes circuitOpen recoveryProbe observedLatency
    dsimp only
    cases (healthAt health (healthKey route left)).latencyMs <;>
      cases (healthAt health (healthKey route right)).latencyMs <;> rfl
  rw [shape]
  unfold standing
  cases circuitOpen health route now candidates left <;>
    cases circuitOpen health route now candidates right <;>
    cases recoveryProbe health route now left <;>
    cases recoveryProbe health route now right <;>
    cases observedLatency health route left <;>
    cases observedLatency health route right <;> simp

theorem incomparable_iff :
    Incomparable (ranksBefore health route now candidates) left right ↔
      SameStanding health route now candidates left right ∧
        ∀ x y, observedLatency health route left = some x →
          observedLatency health route right = some y → x = y := by
  unfold Incomparable
  rw [← Bool.not_eq_true, ← Bool.not_eq_true, ranksBefore_iff, ranksBefore_iff,
    sameStanding_iff]
  constructor
  · rintro ⟨notFirst, notSecond⟩
    rw [not_or] at notFirst notSecond
    have level : standing health route now candidates left =
        standing health route now candidates right :=
      Nat.le_antisymm (Nat.le_of_not_lt notSecond.1) (Nat.le_of_not_lt notFirst.1)
    refine ⟨level, fun x y isX isY => ?_⟩
    refine le_antisymm (le_of_not_gt fun above => ?_) (le_of_not_gt fun below => ?_)
    · exact notSecond.2 ⟨level.symm, y, x, isY, isX, above⟩
    · exact notFirst.2 ⟨level, x, y, isX, isY, below⟩
  · rintro ⟨level, same⟩
    refine ⟨?_, ?_⟩
    · rintro (lower | ⟨_, x, y, isX, isY, less⟩)
      · omega
      · exact absurd (same x y isX isY) (ne_of_lt less)
    · rintro (lower | ⟨_, y, x, isY, isX, less⟩)
      · omega
      · exact absurd (same x y isX isY).symm (ne_of_lt less)

theorem ranksBefore_irrefl (server : Server) :
    ranksBefore health route now candidates server server = false := by
  rw [← Bool.not_eq_true, ranksBefore_iff]
  rintro (lower | ⟨_, x, y, isX, isY, less⟩)
  · exact Nat.lt_irrefl _ lower
  · rw [isX] at isY
    cases isY
    exact lt_irrefl x less

theorem ranksBefore_trans {middle : Server}
    (first : ranksBefore health route now candidates left middle = true)
    (second : ranksBefore health route now candidates middle right = true) :
    ranksBefore health route now candidates left right = true := by
  rw [ranksBefore_iff] at first second ⊢
  rcases first with lower | ⟨level, x, y, isX, isY, less⟩
  · rcases second with further | ⟨also, _⟩
    · exact Or.inl (Nat.lt_trans lower further)
    · exact Or.inl (also ▸ lower)
  · rcases second with further | ⟨also, y', z, isY', isZ, more⟩
    · exact Or.inl (level ▸ further)
    · rw [isY] at isY'
      cases isY'
      exact Or.inr ⟨level.trans also, x, z, isX, isZ, lt_trans less more⟩

theorem strictWeak_iff :
    StrictWeak (ranksBefore health route now candidates) candidates ↔
      LatencyComparable health route now candidates := by
  constructor
  · intro order left inLeft middle inMiddle right inRight first second unknown
      x y isX isY
    have apart := order.incomparable left inLeft middle inMiddle right inRight
      (incomparable_iff.mpr ⟨first, fun _ _ _ known => by
        rw [unknown] at known
        cases known⟩)
      (incomparable_iff.mpr ⟨second, fun _ _ known _ => by
        rw [unknown] at known
        cases known⟩)
    exact (incomparable_iff.mp apart).2 x y isX isY
  · intro comparable
    refine ⟨fun server _ => ranksBefore_irrefl server,
      fun _ _ _ _ _ _ => ranksBefore_trans, ?_⟩
    intro left inLeft middle inMiddle right inRight first second
    obtain ⟨levelFirst, sameFirst⟩ := incomparable_iff.mp first
    obtain ⟨levelSecond, sameSecond⟩ := incomparable_iff.mp second
    refine incomparable_iff.mpr
      ⟨⟨levelFirst.1.trans levelSecond.1, levelFirst.2.trans levelSecond.2⟩, ?_⟩
    intro x y isX isY
    cases known : observedLatency health route middle with
    | none =>
        exact comparable left inLeft middle inMiddle right inRight levelFirst
          levelSecond known x y isX isY
    | some z =>
        exact (sameFirst x z isX known).trans (sameSecond z y known isY)

theorem arranged_byLatency {ordered : List Server}
    (arranged : Arranged (ranksBefore health route now candidates) candidates ordered) :
    ByLatency health route now candidates ordered := by
  refine arranged.sorted.imp fun {left right} notBehind level x y isX isY => ?_
  refine le_of_not_gt fun above => ?_
  have behind : ranksBefore health route now candidates right left = true :=
    ranksBefore_iff.mpr (Or.inr
      ⟨(sameStanding_iff.mp level).symm, y, x, isY, isX, above⟩)
  rw [notBehind] at behind
  cases behind

/-- For candidates without repetitions, the ranking is sound exactly when no
candidate without a latency stands level with two of different latencies. -/
theorem soundRanking_iff (distinct : candidates.Nodup) :
    SoundRanking health route now candidates ↔
      LatencyComparable health route now candidates := by
  constructor
  · exact fun sound => strictWeak_iff.mp sound.strictWeak
  · intro comparable
    have order := strictWeak_iff.mpr comparable
    exact
      { strictWeak := order
        determined := order.existsUnique distinct
        byLatency := fun _ => arranged_byLatency }

end Comparison

/-! ### A history the comparison cannot rank -/

/-- The first server answered in 10 ms before it failed once, the second has
failed once, the third has answered in 5 ms. -/
def mixedServers : List Server :=
  [{ id := 1 }, { id := 2 }, { id := 3 }]

def mixedHealth : HealthMap :=
  ((OrderedMap.empty.insert (healthKey {} { id := 1 })
      { consecutiveFailures := 1, latencyMs := some 10 }).insert
    (healthKey {} { id := 2 }) { consecutiveFailures := 1 }).insert
    (healthKey {} { id := 3 }) { latencyMs := some 5 }

/-- Neither neighbour has to come first, yet the last has to precede the
first: a sort that compares neighbours leaves them in this order. -/
theorem soundRanking_mixed :
    ¬ SoundRanking mixedHealth {} 0 mixedServers ∧
      mixedServers.map (observedLatency mixedHealth {}) = [some 10, none, some 5] ∧
      StableSort.insertion.sort (ranksBefore mixedHealth {} 0 mixedServers)
        mixedServers = mixedServers := by
  refine ⟨fun sound => ?_, by decide +kernel, by decide +kernel⟩
  have across := sound.strictWeak.incomparable { id := 1 } (by decide) { id := 2 }
    (by decide) { id := 3 } (by decide) ⟨by decide +kernel, by decide +kernel⟩
    ⟨by decide +kernel, by decide +kernel⟩
  have above : ranksBefore mixedHealth {} 0 mixedServers { id := 3 } { id := 1 } = true := by
    decide +kernel
  rw [across.2] at above
  cases above

/-- The two servers with a latency are ranked. -/
theorem soundRanking_iff_observed :
    [({ id := 1 } : Server), { id := 3 }].Nodup ∧
      SoundRanking mixedHealth {} 0 [{ id := 1 }, { id := 3 }] := by
  have distinct : [({ id := 1 } : Server), { id := 3 }].Nodup := by decide
  refine ⟨distinct, (soundRanking_iff distinct).mpr ?_⟩
  have known : ∀ server ∈ [({ id := 1 } : Server), { id := 3 }],
      observedLatency mixedHealth {} server ≠ none := by
    decide +kernel
  exact fun _ _ middle inMiddle _ _ _ _ unknown => absurd unknown (known middle inMiddle)

/-! ### The ranking section -/

/-- What the standard promises of a stable sort. -/
def StableSort.KeepsContract (sorting : StableSort) : Prop :=
  ∀ before candidates, candidates.Nodup → StrictWeak before candidates →
    Arranged before candidates (sorting.sort before candidates)

/-- The health map of a ranking: cleared when crowded, with an entry for each
candidate. -/
def rankingHealth (env : GroupEnv) (route : NetworkRoute) (candidates : List Server)
    (state : GroupState) : HealthMap :=
  candidates.foldl (fun health server => touch health (healthKey route server))
    (if (state.locked env).health.size + candidates.length > 8192 then OrderedMap.empty
     else (state.locked env).health)

theorem rankCandidates_eq (env : GroupEnv) (route : NetworkRoute)
    (candidates : List Server) (state : GroupState) :
    rankCandidates env route candidates state =
      (env.sorting.sort
          (ranksBefore (rankingHealth env route candidates state) route
            (env.clock state.readings) candidates) candidates,
        { (state.locked env).readClock with
          health := rankingHealth env route candidates state }) :=
  rfl

theorem rankCandidates_byLatency {env : GroupEnv} {route : NetworkRoute}
    {candidates : List Server} {state : GroupState}
    (contract : env.sorting.KeepsContract) (distinct : candidates.Nodup)
    (comparable : LatencyComparable (rankingHealth env route candidates state) route
      (env.clock state.readings) candidates) :
    ByLatency (rankingHealth env route candidates state) route
      (env.clock state.readings) candidates
      (rankCandidates env route candidates state).1 :=
  arranged_byLatency (contract _ _ distinct (strictWeak_iff.mpr comparable))

end NativeDNS
