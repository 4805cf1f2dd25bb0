import LinkGuardian.Corruptd.Upstream
import LinkGuardian.Library.Execution
import Mathlib.Data.Fintype.Basic
import Mathlib.Data.Nat.Notation
import Mathlib.Logic.Function.Basic

/-!
# corruptd: the cached topology

Runs of `setup.py` replace the topology in Redis while daemons look ports up in it, each Redis
command being one step.  A daemon fetches the topology only when the version in Redis differs
from the one it has seen, and a setup run sets the version before it stores the topology, so
a daemon that comes in between keeps an old topology under the new version.

`coherent_of_ordered` is the property of every call in runs without such an overlap;
`fetch_between_writes` is a run with one.
-/

namespace LinkGuardian.Corruptd

open Execution

/-! ## The system -/

/-- The two keys of the topology.  They are written by two commands, and nothing keeps a reader from
coming in between. -/
structure Redis where
  topoVer : Option ℕ
  topo : Option Dict

/-- What a run of `setup.py` does next; `topo` is the topology that it was given. -/
inductive Setup
  | flushdb (topo : Option Dict)
  | getVer (topo : Dict)
  | checkVer (currVer : Option ℕ) (topo : Dict)
  | setVer (ver : ℕ) (topo : Dict)
  | setTopo (topo : Dict)
deriving DecidableEq

namespace Setup

def launch (clear : Bool) (topo : Option Dict) : Option Setup :=
  if clear then some (flushdb topo) else topo.map getVer

/-- One Redis command of a run, and how the run goes on. -/
def exec (redis : Redis) : Setup → Redis × Option Setup
  | flushdb topo => (⟨none, none⟩, topo.map getVer)
  | getVer topo => (redis, some (checkVer redis.topoVer topo))
  | checkVer currVer topo =>
    match redis.topoVer with
    | none => (redis, some (setVer 1 topo))
    | some _ =>
      match currVer with
      | none => (redis, none)   -- `int(None)` raises
      | some v => (redis, some (setVer (v + 1) topo))
  | setVer ver topo => ({ redis with topoVer := some ver }, some (setTopo topo))
  | setTopo topo => ({ redis with topo := some topo }, none)

/-- The topology that the run leaves in Redis when its next command is its last. -/
def finishes : Setup → Option (Option Dict)
  | flushdb none => some none
  | setTopo topo => some (some topo)
  | _ => none

end Setup

/-- A call of `get_upstream` that has read a new version.  The ghost field tells afterwards whether
anything moved while it lasted. -/
structure Call where
  sw : ℤ
  dp : ℤ
  /-- (ghost) the number of setup events before the call, if no setup run was under way -/
  started : Option ℕ

/-- The globals of a daemon and the call that it is in. -/
structure Daemon where
  topo : Option Dict
  topoVer : Option ℕ
  call : Option Call

/-- (ghost) A call that has returned or raised. -/
structure Answered where
  sw : ℤ
  dp : ℤ
  answer : Answer
  /-- no setup run was under way when it started and none was launched during it -/
  undisturbed : Bool
  /-- what the setup run that finished last left in Redis -/
  stored : Option Dict

structure CacheState (ι : Type*) where
  redis : Redis
  setups : List Setup
  daemons : ι → Daemon
  /-- (ghost) -/
  stored : Option Dict
  setupEvents : ℕ
  answers : List Answered

inductive CacheEvent (ι : Type*)
  /-- `setup.py` is started -/
  | launch (clear : Bool) (topo : Option Dict)
  /-- the `j`-th of the setup runs under way executes a Redis command -/
  | setup (j : ℕ)
  /-- daemon `i` calls `get_upstream(sw, dp)`, up to `r.get('topo_ver')` and what follows it -/
  | getVer (i : ι) (sw dp : ℤ)
  /-- the same for `r.get('topo')` -/
  | getTopo (i : ι)

namespace CacheState

variable {ι : Type*} [DecidableEq ι]

/-- Redis holds nothing and the daemons have cached nothing. -/
def init : CacheState ι where
  redis := ⟨none, none⟩
  setups := []
  daemons := fun _ => ⟨none, none, none⟩
  stored := none
  setupEvents := 0
  answers := []

def setDaemon (s : CacheState ι) (i : ι) (d : Daemon) : CacheState ι :=
  { s with daemons := Function.update s.daemons i d }

/-- The call of daemon `i` ends. -/
def reply (s : CacheState ι) (i : ι) (d : Daemon) (c : Call) (answer : Answer) : CacheState ι :=
  { s.setDaemon i { d with call := none } with
    answers := s.answers ++ [⟨c.sw, c.dp, answer, c.started = some s.setupEvents, s.stored⟩] }

def step (s : CacheState ι) : CacheEvent ι → Option (CacheState ι)
  | .launch clear topo => some { s with
      setups := s.setups ++ (Setup.launch clear topo).toList
      setupEvents := s.setupEvents + 1 }
  | .setup j =>
    match s.setups[j]? with
    | none => none
    | some run => some { s with
        redis := (run.exec s.redis).1
        setups := s.setups.eraseIdx j ++ (run.exec s.redis).2.toList
        stored := run.finishes.getD s.stored
        setupEvents := s.setupEvents + 1 }
  | .getVer i sw dp =>
    let d := s.daemons i
    if d.call.isSome then none
    else
      let c : Call := ⟨sw, dp, if s.setups = [] then some s.setupEvents else none⟩
      match s.redis.topoVer with
      | none => some (s.reply i d c .unknown)
      | some currVer =>
        if d.topoVer ≠ some currVer then
          some (s.setDaemon i { d with topoVer := some currVer, call := some c })
        else some (s.reply i d c (answerFrom d.topo sw dp))
  | .getTopo i =>
    let d := s.daemons i
    match d.call with
    | none => none
    | some c =>
      match s.redis.topo with
      | none => some (s.reply i d c .unknown)
      | some topo =>
        some (s.reply i { d with topo := some topo } c (answerFrom (some topo) c.sw c.dp))

/-! ## The property and the condition -/

/-- What a call should answer when Redis was left with `stored`. -/
def published (stored : Option Dict) (sw dp : ℤ) : Answer :=
  match stored with
  | none => .unknown
  | some topo => answerFrom (some topo) sw dp

/-- No call has raised, and the undisturbed ones have answered from what the last setup run to
finish had stored. -/
def Coherent (s : CacheState ι) : Prop :=
  ∀ a ∈ s.answers, a.answer ≠ .raised ∧
    (a.undisturbed = true → a.answer = published a.stored a.sw a.dp)

instance (s : CacheState ι) : Decidable s.Coherent :=
  inferInstanceAs (Decidable (∀ a ∈ s.answers, a.answer ≠ .raised ∧
    (a.undisturbed = true → a.answer = published a.stored a.sw a.dp)))

end CacheState

namespace Setup

/-- The run is between its two writes. -/
def Between : Setup → Prop
  | setTopo _ => True
  | _ => False

/-- The run will set the version, or raise because another run has. -/
def SetsVer : Setup → Prop
  | flushdb topo => topo.isSome
  | getVer _ | checkVer _ _ | setVer _ _ => True
  | setTopo _ => False

instance : DecidablePred Between := fun run => by cases run <;> unfold Between <;> infer_instance
instance : DecidablePred SetsVer := fun run => by cases run <;> unfold SetsVer <;> infer_instance

end Setup

namespace CacheState

variable {ι : Type*} [DecidableEq ι]

/-- Before a run sets a version, no daemon between two calls has cached that version; before it
stores its topology, there is a version or another run is still to set one. -/
def SetupOrdered (s : CacheState ι) : Setup → Prop
  | .setVer ver _ => ∀ i, (s.daemons i).call = none → (s.daemons i).topoVer ≠ some ver
  | .setTopo _ => s.redis.topoVer ≠ none ∨ ∃ run ∈ s.setups, run.SetsVer
  | _ => True

/-- **The condition**: topologies have the documented form, setup runs are in order, and no
daemon fetches the topology for the current version while one is between its two writes. -/
def Ordered (s : CacheState ι) : CacheEvent ι → Prop
  | .launch _ topo => ∀ t ∈ topo, WellFormed t
  | .setup j => ∀ run ∈ s.setups[j]?, s.SetupOrdered run
  | .getVer _ _ _ => True
  | .getTopo i => (s.daemons i).topoVer = s.redis.topoVer → ∀ run ∈ s.setups, ¬ run.Between

instance [Fintype ι] (s : CacheState ι) : DecidablePred s.SetupOrdered := fun run => by
  cases run <;> unfold SetupOrdered <;> infer_instance

instance [Fintype ι] (s : CacheState ι) : DecidablePred s.Ordered := fun e => by
  cases e <;> unfold Ordered <;> infer_instance

end CacheState

/-! ## Redis and the setup runs -/

namespace Setup

def topo : Setup → Option Dict
  | flushdb topo => topo
  | getVer topo | checkVer _ topo | setVer _ topo | setTopo topo => some topo

lemma topo_exec {redis : Redis} {run run' : Setup} (h : (run.exec redis).2 = some run') :
    run'.topo = run.topo := by
  cases run with
  | flushdb topo =>
    cases topo with
    | none => cases h
    | some topo => cases h; rfl
  | getVer topo => cases h; rfl
  | checkVer currVer topo =>
    simp only [exec] at h
    split at h
    · cases h; rfl
    · split at h
      · cases h
      · cases h; rfl
  | setVer ver topo => cases h; rfl
  | setTopo topo => cases h

end Setup

/-- What holds of Redis and the setup runs under way, `stored` being what the run that finished
last left in Redis. -/
structure Ready (redis : Redis) (setups : List Setup) (stored : Option Dict) : Prop where
  wellFormed : ∀ topo ∈ redis.topo, WellFormed topo
  setups_wellFormed : ∀ run ∈ setups, ∀ topo ∈ run.topo, WellFormed topo
  /-- a topology has a version, or will have one -/
  versioned : redis.topo ≠ none → redis.topoVer ≠ none ∨ ∃ run ∈ setups, run.SetsVer
  /-- a version has a topology, or will have one -/
  stocked : redis.topoVer ≠ none → redis.topo ≠ none ∨ ∃ run ∈ setups, run.Between
  stored_eq : redis.topo = stored ∨ (∃ run ∈ setups, run.Between) ∨
    redis.topoVer = none ∧ ∃ run ∈ setups, run.SetsVer

lemma ready_init : Ready ⟨none, none⟩ [] none where
  wellFormed := fun _ h => absurd h (by simp)
  setups_wellFormed := fun _ h => absurd h (by simp)
  versioned := fun h => absurd rfl h
  stocked := fun h => absurd rfl h
  stored_eq := .inl rfl

/-- Between two setup runs Redis holds what the last one stored, and has a version for it. -/
lemma Ready.quiet {redis : Redis} {stored : Option Dict} (h : Ready redis [] stored) :
    redis.topo = stored ∧ (redis.topo = none ↔ redis.topoVer = none) := by
  have hnone : ∀ P : Setup → Prop, ¬ ∃ run ∈ ([] : List Setup), P run := by
    rintro P ⟨run, hrun, -⟩
    cases hrun
  refine ⟨?_, ?_, ?_⟩
  · rcases h.stored_eq with heq | hbetween | ⟨-, hsets⟩
    · exact heq
    · exact absurd hbetween (hnone _)
    · exact absurd hsets (hnone _)
  · intro htopo
    by_contra hver
    rcases h.stocked hver with hne | hbetween
    · exact hne htopo
    · exact hnone _ hbetween
  · intro hver
    by_contra htopo
    rcases h.versioned htopo with hne | hsets
    · exact hne hver
    · exact hnone _ hsets

section Exec

variable {redis : Redis} {setups : List Setup} {stored : Option Dict} {j : ℕ} {run : Setup}

lemma exists_of_eraseIdx {P : Setup → Prop} (hj : setups[j]? = some run) (hrun : ¬ P run)
    (next : Option Setup) (h : ∃ r ∈ setups, P r) :
    ∃ r ∈ setups.eraseIdx j ++ next.toList, P r := by
  obtain ⟨r, hr, hP⟩ := h
  obtain ⟨i, hi⟩ := List.mem_iff_getElem?.mp hr
  have hne : i ≠ j := by
    rintro rfl
    rw [hj, Option.some_inj] at hi
    exact hrun (hi ▸ hP)
  exact ⟨r, List.mem_append_left _ (List.mem_eraseIdx_iff_getElem?.mpr ⟨i, hne, hi⟩), hP⟩

lemma exists_of_next {P : Setup → Prop} {next : Setup} (hnext : P next) :
    ∃ r ∈ setups.eraseIdx j ++ (some next).toList, P r :=
  ⟨next, List.mem_append_right _ (List.mem_singleton_self _), hnext⟩

lemma Ready.setups_wellFormed_exec (h : Ready redis setups stored) (hj : setups[j]? = some run) :
    ∀ r ∈ setups.eraseIdx j ++ (run.exec redis).2.toList, ∀ topo ∈ r.topo, WellFormed topo := by
  intro r hr topo htopo
  rcases List.mem_append.mp hr with hold | hnew
  · exact h.setups_wellFormed r (List.mem_of_mem_eraseIdx hold) topo htopo
  · have hnext : (run.exec redis).2 = some r := Option.mem_toList.mp hnew
    rw [Setup.topo_exec hnext] at htopo
    exact h.setups_wellFormed run (List.mem_of_getElem? hj) topo htopo

lemma Ready.launch (h : Ready redis setups stored) {clear : Bool} {topo : Option Dict}
    (hwf : ∀ t ∈ topo, WellFormed t) :
    Ready redis (setups ++ (Setup.launch clear topo).toList) stored := by
  have hmono : ∀ {P : Setup → Prop}, (∃ r ∈ setups, P r) →
      ∃ r ∈ setups ++ (Setup.launch clear topo).toList, P r :=
    fun ⟨r, hr, hP⟩ => ⟨r, List.mem_append_left _ hr, hP⟩
  refine ⟨h.wellFormed, ?_, fun htopo => (h.versioned htopo).imp_right hmono,
    fun hver => (h.stocked hver).imp_right hmono,
    h.stored_eq.imp_right (Or.imp hmono (And.imp_right hmono))⟩
  intro r hr t ht
  rcases List.mem_append.mp hr with hold | hnew
  · exact h.setups_wellFormed r hold t ht
  · have hlaunch : Setup.launch clear topo = some r := Option.mem_toList.mp hnew
    have htopo : r.topo = topo := by
      rw [Setup.launch] at hlaunch
      split at hlaunch
      · cases hlaunch; rfl
      · obtain ⟨t', rfl, rfl⟩ := Option.map_eq_some_iff.mp hlaunch
        rfl
    exact hwf t (htopo ▸ ht)

/-- A command of a setup run keeps Redis ready, as long as a topology is stored only where a
version is or will be. -/
lemma Ready.exec (h : Ready redis setups stored) (hj : setups[j]? = some run)
    (hset : ∀ topo, run = .setTopo topo →
      redis.topoVer ≠ none ∨ ∃ r ∈ setups, r.SetsVer) :
    Ready (run.exec redis).1 (setups.eraseIdx j ++ (run.exec redis).2.toList)
      (run.finishes.getD stored) := by
  have hwf := h.setups_wellFormed_exec hj
  cases run with
  | flushdb topo =>
    refine ⟨fun t ht => absurd ht (by simp [Setup.exec]), hwf, fun hne => absurd rfl hne,
      fun hne => absurd rfl hne, ?_⟩
    cases topo with
    | none => exact .inl rfl
    | some topo => exact .inr (.inr ⟨rfl, exists_of_next trivial⟩)
  | getVer topo =>
    have hsets : ∃ r ∈ setups.eraseIdx j ++ [Setup.checkVer redis.topoVer topo], r.SetsVer :=
      exists_of_next trivial
    exact ⟨h.wellFormed, hwf, fun _ => .inr hsets,
      fun hver => (h.stocked hver).imp_right (exists_of_eraseIdx hj id _),
      h.stored_eq.imp_right (Or.imp (exists_of_eraseIdx hj id _) fun hver => ⟨hver.1, hsets⟩)⟩
  | checkVer currVer topo =>
    have hredis : ((Setup.checkVer currVer topo).exec redis).1 = redis := by
      simp only [Setup.exec]
      split
      · rfl
      · split <;> rfl
    rw [hredis]
    -- the run raises only where there is a version
    have hsets : redis.topoVer = none → ∃ r ∈ setups.eraseIdx j ++
        ((Setup.checkVer currVer topo).exec redis).2.toList, r.SetsVer := by
      intro hver
      simp only [Setup.exec, hver]
      exact exists_of_next trivial
    refine ⟨h.wellFormed, hwf, fun _ => ?_,
      fun hver => (h.stocked hver).imp_right (exists_of_eraseIdx hj id _),
      h.stored_eq.imp_right (Or.imp (exists_of_eraseIdx hj id _) fun hver =>
        ⟨hver.1, hsets hver.1⟩)⟩
    by_cases hver : redis.topoVer = none
    · exact .inr (hsets hver)
    · exact .inl hver
  | setVer ver topo =>
    have hbetween : ∃ r ∈ setups.eraseIdx j ++ [Setup.setTopo topo], r.Between :=
      exists_of_next trivial
    exact ⟨h.wellFormed, hwf, fun _ => .inl (Option.some_ne_none ver), fun _ => .inr hbetween,
      .inr (.inl hbetween)⟩
  | setTopo topo =>
    refine ⟨?_, hwf, fun _ => (hset topo rfl).imp_right (exists_of_eraseIdx hj id _),
      fun _ => .inl (Option.some_ne_none topo), .inl rfl⟩
    intro t ht
    exact h.setups_wellFormed _ (List.mem_of_getElem? hj) t ht

end Exec

/-! ## The daemons -/

/-- What holds of each daemon after `n` setup events.  The difficulty is the daemon that has read a
new version and not yet the topology of it. -/
structure Synced (redis : Redis) (setups : List Setup) (n : ℕ) (d : Daemon) : Prop where
  /-- between two calls a cached version that is current comes with the current topology -/
  current : d.call = none → ∀ v, d.topoVer = some v → redis.topoVer = some v →
    (∀ run ∈ setups, ¬ run.Between) ∧ d.topo = redis.topo
  /-- a call is undisturbed only while no setup run is under way -/
  quiet : ∀ c m, d.call = some c → c.started = some m → m ≤ n ∧ (m = n → setups = [])

section Synced

variable {redis : Redis} {setups : List Setup} {n j : ℕ} {run : Setup} {d : Daemon}

lemma Synced.quiet_succ (h : Synced redis setups n d) (setups' : List Setup) :
    ∀ c m, d.call = some c → c.started = some m → m ≤ n + 1 ∧ (m = n + 1 → setups' = []) := by
  intro c m hc hm
  have := (h.quiet c m hc hm).1
  exact ⟨by omega, fun heq => by omega⟩

lemma Synced.launch (h : Synced redis setups n d) (clear : Bool) (topo : Option Dict) :
    Synced redis (setups ++ (Setup.launch clear topo).toList) (n + 1) d := by
  refine ⟨fun hidle v hv hver => ?_, h.quiet_succ _⟩
  obtain ⟨hbetween, htopo⟩ := h.current hidle v hv hver
  refine ⟨fun r hr => ?_, htopo⟩
  rcases List.mem_append.mp hr with hold | hnew
  · exact hbetween r hold
  · have hlaunch : Setup.launch clear topo = some r := Option.mem_toList.mp hnew
    rw [Setup.launch] at hlaunch
    split at hlaunch
    · cases hlaunch
      exact id
    · obtain ⟨t, -, rfl⟩ := Option.map_eq_some_iff.mp hlaunch
      exact id

lemma not_between_of_eraseIdx {next : Option Setup} (h : ∀ r ∈ setups, ¬ r.Between)
    (hnext : ∀ r ∈ next, ¬ r.Between) : ∀ r ∈ setups.eraseIdx j ++ next.toList, ¬ r.Between := by
  intro r hr
  rcases List.mem_append.mp hr with hold | hnew
  · exact h r (List.mem_of_mem_eraseIdx hold)
  · exact hnext r (Option.mem_toList.mp hnew)

/-- A command of a setup run keeps a daemon in step, unless it sets the version that the daemon
has cached. -/
lemma Synced.exec (h : Synced redis setups n d) (hj : setups[j]? = some run)
    (hset : ∀ ver topo, run = .setVer ver topo → d.call = none → d.topoVer ≠ some ver) :
    Synced (run.exec redis).1 (setups.eraseIdx j ++ (run.exec redis).2.toList) (n + 1) d := by
  refine ⟨fun hidle v hv hver => ?_, h.quiet_succ _⟩
  cases run with
  | flushdb topo => cases hver
  | getVer topo =>
    obtain ⟨hbetween, htopo⟩ := h.current hidle v hv hver
    exact ⟨not_between_of_eraseIdx hbetween fun r hr => by cases hr; exact id, htopo⟩
  | checkVer currVer topo =>
    simp only [Setup.exec] at hver ⊢
    split at hver
    · next hnone => exact absurd (hnone.symm.trans hver) (by simp)
    · next v' hsome =>
      split at hver
      · obtain ⟨hbetween, htopo⟩ := h.current hidle v hv hver
        exact ⟨not_between_of_eraseIdx hbetween fun r hr => (nomatch hr), htopo⟩
      · obtain ⟨hbetween, htopo⟩ := h.current hidle v hv hver
        exact ⟨not_between_of_eraseIdx hbetween fun r hr => by cases hr; exact id, htopo⟩
  | setVer ver topo =>
    obtain rfl : ver = v := Option.some_inj.mp hver
    exact absurd hv (hset ver topo rfl hidle)
  | setTopo topo =>
    -- a daemon with the current version was in step, and then no run was about to store
    exact absurd trivial ((h.current hidle v hv hver).1 _ (List.mem_of_getElem? hj))

end Synced

/-! ## The run -/

namespace CacheState

variable {ι : Type*} [DecidableEq ι]

structure Inv (s : CacheState ι) : Prop where
  ready : Ready s.redis s.setups s.stored
  synced : ∀ i, Synced s.redis s.setups s.setupEvents (s.daemons i)
  coherent : s.Coherent

omit [DecidableEq ι] in
lemma inv_init : Inv (init : CacheState ι) where
  ready := ready_init
  synced := fun _ => ⟨fun _ _ h => absurd h.symm (Option.some_ne_none _), fun _ _ h => by cases h⟩
  coherent := fun _ h => absurd h (by simp [init])

lemma Inv.setDaemon {s : CacheState ι} (h : s.Inv) {i : ι} {d : Daemon}
    (hd : Synced s.redis s.setups s.setupEvents d) : (s.setDaemon i d).Inv := by
  refine ⟨h.ready, fun k => ?_, h.coherent⟩
  show Synced _ _ _ (Function.update s.daemons i d k)
  by_cases hk : k = i
  · rw [hk, Function.update_self]
    exact hd
  · rw [Function.update_of_ne hk]
    exact h.synced k

lemma Inv.reply {s : CacheState ι} (h : s.Inv) {i : ι} {d : Daemon} {c : Call} {answer : Answer}
    (hd : Synced s.redis s.setups s.setupEvents { d with call := none })
    (hraise : answer ≠ .raised)
    (hans : c.started = some s.setupEvents → answer = published s.stored c.sw c.dp) :
    (s.reply i d c answer).Inv := by
  have hdaemon := h.setDaemon (i := i) hd
  refine ⟨hdaemon.ready, hdaemon.synced, fun a ha => ?_⟩
  rcases List.mem_append.mp ha with hold | hnew
  · exact h.coherent a hold
  · rw [List.mem_singleton.mp hnew]
    exact ⟨hraise, fun hstarted => hans (of_decide_eq_true hstarted)⟩

omit [DecidableEq ι] in
/-- The answer of a daemon that holds the topology in Redis, if there is one. -/
lemma Inv.answer_stored {s : CacheState ι} (h : s.Inv) {topo : Dict}
    (htopo : s.redis.topo = some topo) (sw dp : ℤ) : answerFrom (some topo) sw dp ≠ .raised ∧
      (s.setups = [] → answerFrom (some topo) sw dp = published s.stored sw dp) := by
  refine ⟨answerFrom_ne_raised (h.ready.wellFormed topo htopo) sw dp, fun hquiet => ?_⟩
  have hready := h.ready
  rw [hquiet] at hready
  rw [← hready.quiet.1, htopo]
  rfl

lemma inv_getVer {s s' : CacheState ι} {i : ι} {sw dp : ℤ} (h : s.Inv)
    (hs : s.step (.getVer i sw dp) = some s') : s'.Inv := by
  simp only [step] at hs
  split at hs
  · cases hs
  next hcall =>
  have hidle : (s.daemons i).call = none := by rwa [Option.not_isSome_iff_eq_none] at hcall
  have hstart : (if s.setups = [] then some s.setupEvents else none) = some s.setupEvents →
      s.setups = [] := by
    intro hsome
    by_contra hne
    rw [if_neg hne] at hsome
    cases hsome
  have hsync : Synced s.redis s.setups s.setupEvents { s.daemons i with call := none } :=
    ⟨fun _ => (h.synced i).current hidle, fun _ _ hc => by cases hc⟩
  split at hs
  · -- no version in Redis: the answer is that the port is unknown, which is right before any setup
    next hver =>
    cases hs
    refine h.reply hsync Answer.noConfusion fun hstarted => ?_
    have hready := h.ready
    rw [hstart hstarted] at hready
    rw [← hready.quiet.1, hready.quiet.2.mpr hver]
    rfl
  · next currVer hver =>
    split at hs
    · cases hs
      refine h.setDaemon ⟨fun hc => (by cases hc), fun c m hc hm => ?_⟩
      cases hc
      have hm' : (if s.setups = [] then some s.setupEvents else none) = some m := hm
      split at hm'
      · next hquiet => cases hm'; exact ⟨le_rfl, fun _ => hquiet⟩
      · cases hm'
    · next hcached =>
      rw [not_not] at hcached
      cases hs
      obtain ⟨hbetween, htopo⟩ := (h.synced i).current hidle currVer hcached hver
      -- the version has a topology, since no run is between its writes
      obtain ⟨topo, hsome⟩ := Option.ne_none_iff_exists'.mp
        ((h.ready.stocked (by rw [hver]; exact Option.some_ne_none _)).resolve_right
          fun ⟨r, hr, hb⟩ => hbetween r hr hb)
      obtain ⟨hraise, hans⟩ := h.answer_stored hsome sw dp
      rw [htopo, hsome]
      exact h.reply hsync hraise fun hstarted => hans (hstart hstarted)

lemma inv_getTopo {s s' : CacheState ι} {i : ι} (h : s.Inv) (hord : s.Ordered (.getTopo i))
    (hs : s.step (.getTopo i) = some s') : s'.Inv := by
  simp only [step] at hs
  split at hs
  · cases hs
  next c hcall =>
  have hquiet : c.started = some s.setupEvents → s.setups = [] :=
    fun hm => ((h.synced i).quiet c _ hcall hm).2 rfl
  split at hs
  · next htopo =>
    cases hs
    refine h.reply ⟨fun _ v hv hver => ?_, fun _ _ hc => by cases hc⟩ Answer.noConfusion
      fun hstarted => ?_
    · -- a current version without a topology: some run is between its writes
      have hver' : s.redis.topoVer ≠ none := by rw [hver]; exact Option.some_ne_none v
      obtain ⟨r, hr, hb⟩ := (h.ready.stocked hver').resolve_left fun hne => hne htopo
      exact absurd hb (hord ((show (s.daemons i).topoVer = _ from hv).trans hver.symm) r hr)
    · have hready := h.ready
      rw [hquiet hstarted] at hready
      rw [← hready.quiet.1, htopo]
      rfl
  · next topo htopo =>
    cases hs
    obtain ⟨hraise, hans⟩ := h.answer_stored htopo c.sw c.dp
    exact h.reply ⟨fun _ v hv hver => ⟨hord ((show (s.daemons i).topoVer = _ from hv).trans
      hver.symm), htopo.symm⟩, fun _ _ hc => by cases hc⟩ hraise fun hstarted =>
      hans (hquiet hstarted)

/-- A step that meets the condition keeps the invariant. -/
lemma inv_step {s s' : CacheState ι} {e : CacheEvent ι} (h : s.Inv) (hord : s.Ordered e)
    (hs : s.step e = some s') : s'.Inv := by
  cases e with
  | launch clear topo =>
    cases hs
    exact ⟨h.ready.launch hord, fun i => (h.synced i).launch clear topo, h.coherent⟩
  | setup j =>
    simp only [step] at hs
    split at hs
    · cases hs
    next run hj =>
    cases hs
    have hrun : s.SetupOrdered run := hord run hj
    refine ⟨h.ready.exec hj ?_, fun i => (h.synced i).exec hj ?_, h.coherent⟩
    · rintro topo rfl
      exact hrun
    · rintro ver topo rfl
      exact hrun i
  | getVer i sw dp => exact inv_getVer h hs
  | getTopo i => exact inv_getTopo h hord hs

/-- **Coherence of the topology cache**: in a run whose steps all meet `Ordered`, no call of
`get_upstream` raises, and one that no setup run overlaps answers from the topology of the setup
run that finished last. -/
theorem coherent_of_ordered {es : List (CacheEvent ι)} {s : CacheState ι}
    (hrun : run step init es = some s) (hord : Along step Ordered init es) : s.Coherent :=
  (run_invariant_along (fun _ _ _ => inv_step) inv_init hord hrun).coherent

/-! ## Three runs -/

def topo₁ : Dict := [("1-64", "2-65-3")]
def topo₂ : Dict := [("1-64", "4-66-3")]

/-- Setup stores a topology, and the daemon looks port 64 up before and after it has cached it. -/
def lookups : List (CacheEvent Unit) :=
  [.launch false topo₁, .setup 0, .setup 0, .setup 0, .setup 0, .getVer () 1 64, .getTopo (),
    .getVer () 1 64]

/-- The daemon comes in between the two writes of the first setup run. -/
def tooEarly : List (CacheEvent Unit) :=
  [.launch false topo₁, .setup 0, .setup 0, .setup 0, .getVer () 1 64, .getTopo (), .setup 0,
    .getVer () 1 64]

/-- The daemon comes in between the two writes of the second setup run. -/
def overlap : List (CacheEvent Unit) :=
  [.launch false topo₁, .setup 0, .setup 0, .setup 0, .setup 0,
    .launch false topo₂, .setup 0, .setup 0, .setup 0, .getVer () 1 64, .getTopo (), .setup 0,
    .getVer () 1 64]

/-- After the fetch between the writes the last call answers from the first topology, although
the setup run that stored the second has finished; and where there was no first, it raises. -/
theorem fetch_between_writes :
    (∃ s, run step init overlap = some s ∧ s.setups = [] ∧ s.stored = some topo₂ ∧
      (s.answers.getLast?.map fun a => (a.undisturbed, a.answer)) =
        some (true, .upstream 2 65 3) ∧ ¬ s.Coherent) ∧
    ∃ s, run step init tooEarly = some s ∧
      (s.answers.getLast?.map (·.answer)) = some .raised ∧ ¬ s.Coherent := by
  have hstale : (run step init overlap).any (fun s => decide (s.setups = [] ∧
      s.stored = some topo₂ ∧ (s.answers.getLast?.map fun a => (a.undisturbed, a.answer)) =
        some (true, .upstream 2 65 3) ∧ ¬ s.Coherent)) := by decide +kernel
  have hraised : (run step init tooEarly).any (fun s => decide (
      (s.answers.getLast?.map (·.answer)) = some .raised ∧ ¬ s.Coherent)) := by decide +kernel
  obtain ⟨s, hs, hprop⟩ := (Option.any_eq_true _ _).mp hstale
  obtain ⟨s', hs', hprop'⟩ := (Option.any_eq_true _ _).mp hraised
  exact ⟨⟨s, hs, of_decide_eq_true hprop⟩, s', hs', of_decide_eq_true hprop'⟩

/-- Both lookups after a setup run answer from its topology. -/
theorem coherent_of_ordered_lookups :
    ∃ s, run step init lookups = some s ∧ s.answers.length = 2 ∧ s.Coherent := by
  have hlen : (run step init lookups).any (fun s => decide (s.answers.length = 2)) := by
    decide +kernel
  obtain ⟨s, hs, hlen⟩ := (Option.any_eq_true _ _).mp hlen
  exact ⟨s, hs, of_decide_eq_true hlen, coherent_of_ordered hs (by decide +kernel)⟩

end CacheState

end LinkGuardian.Corruptd
