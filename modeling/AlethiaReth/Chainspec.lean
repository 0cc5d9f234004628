import AlethiaReth.ZkGas.Schedule

/-!
Hardforks: the activation conditions of a chain, the fork in force at a block,
and the zk gas schedule that goes with it.
-/

namespace AlethiaReth

open MachineInt

/-- The Taiko forks as the EVM sees them, in activation order. -/
inductive TaikoSpecId where
  | genesis
  | ontake
  | pacaya
  | shasta
  | unzen
  deriving DecidableEq, Repr

/-- The zk gas schedule of a fork: only Unzen has one. -/
def scheduleFor : TaikoSpecId → Option ZkGasSchedule
  | .unzen => some unzenZkGasSchedule
  | .genesis | .ontake | .pacaya | .shasta => none

/-- When a fork activates.  The total difficulty itself is read by nothing here. -/
inductive ForkCondition where
  | block (number : U64)
  | ttd (activationBlockNumber : U64) (forkBlock : Option U64)
  | timestamp (time : U64)
  | never
  deriving DecidableEq, Repr

variable (unzenActivation : ForkCondition)

namespace ForkCondition

/-- It is active at a block. -/
def activeAtBlock : ForkCondition → U64 → Bool
  | .block number, current => number ≤ current
  | .ttd activationBlockNumber _, current => activationBlockNumber ≤ current
  | .timestamp _, _ => false
  | .never, _ => false

/-- It is active at a time. -/
def activeAtTimestamp : ForkCondition → U64 → Bool
  | .timestamp time, current => time ≤ current
  | .block _, _ => false
  | .ttd _ _, _ => false
  | .never, _ => false

/-- It is active at a time or at a block. -/
def activeAtTimestampOrNumber (c : ForkCondition) (timestamp number : U64) : Bool :=
  c.activeAtTimestamp timestamp || c.activeAtBlock number

end ForkCondition

/-! ### Fork tables -/

/-- The forks of Taiko. -/
inductive TaikoHardfork where
  | ontake
  | pacaya
  | shasta
  | unzen
  deriving DecidableEq, Repr

variable (table : List (TaikoHardfork × ForkCondition))

/-- The forks of Ethereum. -/
inductive EthereumHardfork where
  | frontier
  | homestead
  | tangerine
  | spuriousDragon
  | byzantium
  | constantinople
  | petersburg
  | istanbul
  | muirGlacier
  | berlin
  | london
  | arrowGlacier
  | grayGlacier
  | paris
  | shanghai
  | cancun
  | prague
  | osaka
  | amsterdam
  deriving DecidableEq, Repr

/-- A fork by its name. -/
inductive Hardfork where
  | taiko (fork : TaikoHardfork)
  | ethereum (fork : EthereumHardfork)
  deriving DecidableEq, Repr

/-- The forks of a chain with their conditions, in activation order. -/
abbrev ChainHardforks := List (Hardfork × ForkCondition)

variable (forks : ChainHardforks)

/-- The condition of a fork: the last entry of its name, never where there is none. -/
def ChainHardforks.fork (fork : Hardfork) : ForkCondition :=
  ((forks.reverse.find? (·.1 = fork)).map Prod.snd).getD .never

/-- The place of a condition in the order of the fork id: blocks, then timestamps. -/
def forkIdActivationKey : ForkCondition → ℕ × U64
  | .block number | .ttd _ (some number) => (0, number)
  | .timestamp time => (1, time)
  | .ttd _ none => (2, 0)
  | .never => (3, 0)

/-- The order of the table. -/
def KeyLe (a b : ℕ × U64) : Prop := a.1 < b.1 ∨ a.1 = b.1 ∧ a.2 ≤ b.2

instance : DecidableRel KeyLe := fun a b =>
  inferInstanceAs (Decidable (a.1 < b.1 ∨ a.1 = b.1 ∧ a.2 ≤ b.2))

/-- The Ethereum forks every network shares; those after Shanghai come with Unzen. -/
def sharedHardforks : ChainHardforks :=
  [(.ethereum .frontier, .block 0), (.ethereum .homestead, .block 0),
    (.ethereum .tangerine, .block 0), (.ethereum .spuriousDragon, .block 0),
    (.ethereum .byzantium, .block 0), (.ethereum .constantinople, .block 0),
    (.ethereum .petersburg, .block 0), (.ethereum .istanbul, .block 0),
    (.ethereum .muirGlacier, .block 0), (.ethereum .berlin, .block 0),
    (.ethereum .london, .block 0), (.ethereum .arrowGlacier, .block 0),
    (.ethereum .grayGlacier, .block 0), (.ethereum .paris, .ttd 0 (some 0)),
    (.ethereum .shanghai, .timestamp 0), (.ethereum .cancun, unzenActivation),
    (.ethereum .prague, unzenActivation), (.ethereum .osaka, unzenActivation)]

/-- Adds the shared Ethereum forks to a table and orders the whole by activation.  The sort
is stable. -/
def extendWithSharedHardforks (hardforks : ChainHardforks) : ChainHardforks :=
  let unzenActivation :=
    ((hardforks.find? (·.1 = .taiko .unzen)).map Prod.snd).getD .never
  (sharedHardforks unzenActivation ++ hardforks).insertionSort
    fun a b => KeyLe (forkIdActivationKey a.2) (forkIdActivationKey b.2)

/-- The chain id and the forks of a network.  The Ethereum forks after Shanghai follow
Unzen unless a table says otherwise; no Taiko network schedules Amsterdam, a genesis
file can. -/
structure TaikoChainSpec where
  chainId : U64
  ontake : ForkCondition
  pacaya : ForkCondition
  shasta : ForkCondition
  unzen : ForkCondition
  cancun : ForkCondition := unzen
  prague : ForkCondition := unzen
  osaka : ForkCondition := unzen
  amsterdam : ForkCondition := .never
  deriving DecidableEq, Repr

namespace TaikoChainSpec

variable (spec : TaikoChainSpec) (timestamp : U64)

/-- Ontake, by block. -/
def isOntakeActiveAtBlock (number : U64) : Bool :=
  spec.ontake.activeAtBlock number

/-- Pacaya, by block. -/
def isPacayaActiveAtBlock (number : U64) : Bool :=
  spec.pacaya.activeAtBlock number

/-- Shasta, by time. -/
def isShastaActive : Bool :=
  spec.shasta.activeAtTimestamp timestamp

/-- Unzen, by time. -/
def isUnzenActive : Bool :=
  spec.unzen.activeAtTimestamp timestamp

/-- Amsterdam, by time. -/
def isAmsterdamActiveAtTimestamp : Bool :=
  spec.amsterdam.activeAtTimestamp timestamp

/-- Cancun, by time. -/
def isCancunActiveAtTimestamp : Bool :=
  spec.cancun.activeAtTimestamp timestamp

/-- Prague, by time. -/
def isPragueActiveAtTimestamp : Bool :=
  spec.prague.activeAtTimestamp timestamp

/-- Osaka, by time. -/
def isOsakaActiveAtTimestamp : Bool :=
  spec.osaka.activeAtTimestamp timestamp

/-- The chain of a fork table. -/
def ofHardforks (chainId : U64) (forks : ChainHardforks) : TaikoChainSpec where
  chainId
  ontake := forks.fork (.taiko .ontake)
  pacaya := forks.fork (.taiko .pacaya)
  shasta := forks.fork (.taiko .shasta)
  unzen := forks.fork (.taiko .unzen)
  cancun := forks.fork (.ethereum .cancun)
  prague := forks.fork (.ethereum .prague)
  osaka := forks.fork (.ethereum .osaka)
  amsterdam := forks.fork (.ethereum .amsterdam)

end TaikoChainSpec

/-! ### What an extended table says -/

/-- A table in which each fork has one condition. -/
def ChainHardforks.Distinct : Prop := (forks.map Prod.fst).Nodup

namespace ChainHardforks

variable {forks table : ChainHardforks} {fork : Hardfork}

/-- In a table with one condition for each fork, the order of the entries does not matter. -/
theorem fork_eq_of_mem (hdistinct : forks.Distinct) {condition : ForkCondition}
    (h : (fork, condition) ∈ forks) :
    forks.fork fork = condition := by
  rw [ChainHardforks.fork]
  cases hfind : forks.reverse.find? (·.1 = fork) with
  | none =>
    have hnone := List.find?_eq_none.mp hfind (fork, condition) (List.mem_reverse.mpr h)
    simp at hnone
  | some entry =>
    have hmem := List.mem_reverse.mp (List.mem_of_find?_eq_some hfind)
    have hfork : entry.1 = fork := by simpa using List.find?_some hfind
    have hentry : entry = (fork, condition) :=
      List.inj_on_of_nodup_map hdistinct hmem h hfork
    rw [hentry, Option.map_some, Option.getD_some]

/-- A fork the table does not name. -/
theorem find?_reverse_eq_none (h : fork ∉ forks.map Prod.fst) :
    forks.reverse.find? (·.1 = fork) = none := by
  refine List.find?_eq_none.mpr fun entry hmem => ?_
  have hne : entry.1 ≠ fork := fun hfork =>
    h (List.mem_map.mpr ⟨entry, List.mem_reverse.mp hmem, hfork⟩)
  simpa using hne

lemma fork_eq_never (h : fork ∉ forks.map Prod.fst) :
    forks.fork fork = .never := by
  rw [ChainHardforks.fork, find?_reverse_eq_none h, Option.map_none, Option.getD_none]

lemma fork_append_right (h : fork ∉ forks.map Prod.fst) :
    ChainHardforks.fork (forks ++ table) fork = table.fork fork := by
  rw [ChainHardforks.fork, ChainHardforks.fork, List.reverse_append, List.find?_append,
    find?_reverse_eq_none h, Option.or_none]

lemma fork_append_left (h : fork ∉ table.map Prod.fst) :
    ChainHardforks.fork (forks ++ table) fork = forks.fork fork := by
  rw [ChainHardforks.fork, ChainHardforks.fork, List.reverse_append, List.find?_append,
    find?_reverse_eq_none h, Option.none_or]

lemma fork_perm (hperm : forks.Perm table) (hdistinct : table.Distinct) (fork : Hardfork) :
    forks.fork fork = table.fork fork := by
  have hnames := hperm.map Prod.fst
  by_cases hmem : fork ∈ table.map Prod.fst
  · obtain ⟨⟨_, condition⟩, hentry, rfl⟩ := List.mem_map.mp hmem
    rw [fork_eq_of_mem (hnames.nodup_iff.mpr hdistinct) (hperm.mem_iff.mpr hentry),
      fork_eq_of_mem hdistinct hentry]
  · rw [fork_eq_never hmem, fork_eq_never fun h => hmem (hnames.mem_iff.mp h)]

/-- In a table with one condition for each fork the first entry is the last. -/
theorem first_eq_fork (hdistinct : forks.Distinct) (fork : Hardfork) :
    ((forks.find? (·.1 = fork)).map Prod.snd).getD .never = forks.fork fork := by
  have hreverse := fork_perm forks.reverse_perm hdistinct fork
  rw [ChainHardforks.fork, List.reverse_reverse] at hreverse
  exact hreverse

end ChainHardforks

/-- A table of Taiko forks alone. -/
def taikoTable : ChainHardforks :=
  table.map fun entry => (.taiko entry.1, entry.2)

lemma taikoTable_forks :
    (taikoTable table).map Prod.fst = (table.map Prod.fst).map Hardfork.taiko := by
  simp [taikoTable]

lemma sharedHardforks_forks :
    (sharedHardforks unzenActivation).map Prod.fst =
      (sharedHardforks .never).map Prod.fst := rfl

section

variable {table}

lemma taikoTable_distinct (h : (table.map Prod.fst).Nodup) : (taikoTable table).Distinct := by
  rw [ChainHardforks.Distinct, taikoTable_forks]
  exact h.map fun _ _ hab => Hardfork.taiko.inj hab

lemma shared_append_distinct (unzenActivation : ForkCondition) (h : (table.map Prod.fst).Nodup) :
    ChainHardforks.Distinct (sharedHardforks unzenActivation ++ taikoTable table) := by
  rw [ChainHardforks.Distinct, List.map_append, sharedHardforks_forks]
  refine List.Nodup.append (by decide) (taikoTable_distinct h) ?_
  rw [taikoTable_forks]
  intro fork hshared htaiko
  obtain ⟨taiko, -, rfl⟩ := List.mem_map.mp htaiko
  simp [sharedHardforks] at hshared

/-- Extending a table of distinct Taiko forks puts the shared ones beside them, each under
its condition. -/
theorem fork_extend (h : (table.map Prod.fst).Nodup) (fork : Hardfork) :
    (extendWithSharedHardforks (taikoTable table)).fork fork =
      match fork with
      | .taiko _ => (taikoTable table).fork fork
      | .ethereum _ =>
        (sharedHardforks ((taikoTable table).fork (.taiko .unzen))).fork fork := by
  rw [extendWithSharedHardforks, ChainHardforks.first_eq_fork (taikoTable_distinct h),
    ChainHardforks.fork_perm (List.perm_insertionSort _ _) (shared_append_distinct _ h)]
  cases fork with
  | taiko fork =>
    refine ChainHardforks.fork_append_right ?_
    simp [sharedHardforks]
  | ethereum fork =>
    refine ChainHardforks.fork_append_left ?_
    rw [taikoTable_forks]
    simp

/-- The chain of an extended table: the Taiko forks as they are, with Cancun, Prague and
Osaka following Unzen and no Amsterdam. -/
theorem ofHardforks_extend (chainId : U64) (h : (table.map Prod.fst).Nodup) :
    TaikoChainSpec.ofHardforks chainId (extendWithSharedHardforks (taikoTable table)) =
      { chainId
        ontake := (taikoTable table).fork (.taiko .ontake)
        pacaya := (taikoTable table).fork (.taiko .pacaya)
        shasta := (taikoTable table).fork (.taiko .shasta)
        unzen := (taikoTable table).fork (.taiko .unzen)
        cancun := (taikoTable table).fork (.taiko .unzen)
        prague := (taikoTable table).fork (.taiko .unzen)
        osaka := (taikoTable table).fork (.taiko .unzen)
        amsterdam := .never } := by
  simp only [TaikoChainSpec.ofHardforks, fork_extend h]
  rfl

end

/-- The forks of the main network. -/
def taikoMainnetHardforks : List (TaikoHardfork × ForkCondition) :=
  [(.ontake, .block 538304), (.pacaya, .block 1166000), (.shasta, .timestamp 1775135700),
    (.unzen, .timestamp 1786021200)]

/-- The main network runs Osaka from Unzen on. -/
theorem ofHardforks_extend_mainnet :
    TaikoChainSpec.ofHardforks 167000
        (extendWithSharedHardforks (taikoTable taikoMainnetHardforks)) =
      { chainId := 167000
        ontake := .block 538304
        pacaya := .block 1166000
        shasta := .timestamp 1775135700
        unzen := .timestamp 1786021200
        cancun := .timestamp 1786021200
        prague := .timestamp 1786021200
        osaka := .timestamp 1786021200
        amsterdam := .never } :=
  ofHardforks_extend 167000 (by decide)

/-- The latest fork active at a timestamp and a block number. -/
def taikoSpecByTimestampAndBlockNumber (spec : TaikoChainSpec) (timestamp number : U64) :
    TaikoSpecId :=
  if spec.unzen.activeAtTimestamp timestamp then .unzen
  else if spec.shasta.activeAtTimestamp timestamp then .shasta
  else if spec.pacaya.activeAtTimestampOrNumber timestamp number then .pacaya
  else if spec.ontake.activeAtTimestampOrNumber timestamp number then .ontake
  else .genesis

end AlethiaReth
