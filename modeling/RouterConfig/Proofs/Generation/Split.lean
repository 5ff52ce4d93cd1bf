/-
RouterConfig.Proofs.Generation.Split — an inventory in two parts.

`generate_join`: where a second value is only warned of and the two parts of
an inventory can be run and their trees merged, the run with the whole
inventory succeeds as well, and its tree has the content of the merge
(`SameContent`: the same keys with the same values).

## How the proof goes

A run with the whole inventory goes through the port groups of both parts
first, and through their networks afterwards, on one tree and with one set
of sequences. A run is the list of its demands (`Generation.Requests`), so
lists are compared:

* The demands of the whole are those of the two runs, put one among the
  other, each rule with the number it has there (`demands_join`), as the
  parts number different rule sets (`not_mem_takes_of_parts`).
* What a tree has under a key is what the last demand says. If the two trees
  agree, the last demand of the whole says what both trees say
  (`latest?_shuffle`, `latest?_of_parts`).
* Demands that do not stand in each other's way can be met
  (`compatible_of_parts`), and every rule gets its number (`feasible_join`).

## Side conditions

The policy is the lenient one. The second part has no settings. No rule set
has connections in both parts, and one part at most forwards ports: numbers
would be taken in another order otherwise. Each key of the demands of the
two runs means one path (`OneMeaning`). Both runs and the merge succeed.
The order of siblings is not part of `SameContent`.
-/
import RouterConfig.Proofs.Generation.Outcome
import RouterConfig.Proofs.Generation.Unambiguous
import RouterConfig.Proofs.Merge.Order

namespace RouterConfig

/-- The inventory of two parts, with the settings of the first. -/
def Inventory.join (first second : Inventory) : Inventory where
  settings := first.settings
  portGroups := first.portGroups ++ second.portGroups
  networks := first.networks ++ second.networks

/-! ## 1. Demands one after the other -/

namespace Demand

variable {k : String} {x y x' y' : List Demand}

/-- Of two lists, each in two parts, whose last values agree, the parts may be put one among the
other. -/
theorem latest?_shuffle (h : ∀ v w, latest? (x ++ y) k = some v → latest? (x' ++ y') k = some w →
    v = w) : latest? ((x ++ x') ++ (y ++ y')) k =
      (latest? (x ++ y) k).or (latest? (x' ++ y') k) := by
  simp only [latest?_append] at h ⊢
  cases hv : (latest? y k).or (latest? x k) with
  | none =>
    obtain ⟨hy, hx⟩ := Option.or_eq_none_iff.mp hv
    simp [hy, hx]
  | some v =>
    cases hw : (latest? y' k).or (latest? x' k) with
    | none =>
      obtain ⟨hy', hx'⟩ := Option.or_eq_none_iff.mp hw
      simpa [hy', hx'] using hv
    | some w =>
      obtain rfl := h v w hv hw
      -- the first of the four parts with a value has the last one of its own list
      cases hy' : latest? y' k with
      | some last => simpa [hy'] using hw
      | none =>
        rw [hy', Option.none_or] at hw
        cases hy : latest? y k with
        | some last => simpa [hy] using hv
        | none => simp [hw]

end Demand

namespace Definitions

open Demand

variable {a b : Definitions} {ds es : List Demand} {k : String} {v w : Value}

theorem Meets.value?_of_latest? (h : a.Meets ds) (hv : latest? ds k = some v) :
    a.value? k = some v := by
  obtain ⟨-, d, hd, rfl, -⟩ := of_latest?_eq_some hv
  rw [h.value?_of_mem_ways (mem_ways.mpr ⟨d, hd, ConfigPath.mem_way_self (h.nonroot d hd)⟩), hv]
  rfl

/-- A tree has a definition under the keys on the way to the paths of its demands. -/
theorem Meets.exists_of_value? (h : a.Meets ds) (hv : a.value? k = some v) :
    ∃ p ∈ ways ds, p.key = k := by
  rw [h.value?] at hv
  obtain ⟨e, he, -⟩ := Option.map_eq_some_iff.mp hv
  exact content?_isSome_iff.mp (by rw [he, Option.isSome_some])

/-- The keys of two trees mean the same paths if those of all demands do. -/
theorem Meets.coherent (ha : a.Meets ds) (hb : b.Meets es) (h : OneMeaning (ds ++ es)) :
    Coherent a b := by
  intro x hx e he hkey
  obtain ⟨p, hp, hpkey, hpliteral⟩ := ha.exists_mem_ways hx
  obtain ⟨q, hq, hqkey, hqliteral⟩ := hb.exists_mem_ways he
  rw [← hpliteral, ← hqliteral]
  rw [OneMeaning, ways_append] at h
  exact h p (List.mem_append_left _ hp) q (List.mem_append_right _ hq)
    (hpkey.trans (hkey.trans hqkey.symm))

/-- Trees agree when what is wanted of them agrees. -/
theorem Meets.agreeing_iff (ha : a.Meets ds) (hb : b.Meets es) : Agreeing a b ↔
    ∀ p ∈ ways ds, ∀ q ∈ ways es, p.key = q.key →
      (latest? ds p.key).getD .empty = (latest? es q.key).getD .empty := by
  constructor
  · intro h p hp q hq hkey
    have hq' := hb.value?_of_mem_ways hq
    rw [← hkey] at hq' ⊢
    exact h p.key _ _ (ha.value?_of_mem_ways hp) hq'
  · intro h k v w hv hw
    obtain ⟨p, hp, rfl⟩ := ha.exists_of_value? hv
    obtain ⟨q, hq, hkey⟩ := hb.exists_of_value? hw
    rw [← hkey, hb.value?_of_mem_ways hq] at hw
    rw [ha.value?_of_mem_ways hp] at hv
    rw [← Option.some.inj hv, ← Option.some.inj hw]
    exact h p hp q hq hkey.symm

/-- A value that one tree was to have is a value that the other was to have, if the other has the
definition. -/
theorem Meets.latest?_of_agreeing (ha : a.Meets ds) (hb : b.Meets es) (h : Agreeing a b)
    {p : ConfigPath} (hp : p ∈ ways ds) (hw : latest? es p.key = some w) :
    latest? ds p.key = some w := by
  have hvalue := h p.key _ w (ha.value?_of_mem_ways hp) (hb.value?_of_latest? hw)
  cases hlatest : latest? ds p.key with
  | none =>
    rw [hlatest] at hvalue
    exact absurd hvalue.symm (of_latest?_eq_some hw).1
  | some v =>
    rw [hlatest] at hvalue
    rw [← hvalue]
    rfl

end Definitions

namespace Generation

open Definitions Demand

variable {schema : SchemaNode} {settings : Settings} {made made' taken taken' : List RuleSet}
  {first second : Inventory}

/-! ## 2. Requests one after the other -/

theorem demandsFrom_append (rs rs' : List Request) : demandsFrom settings taken (rs ++ rs') =
    demandsFrom settings taken rs ++
      demandsFrom settings (taken ++ rs.flatMap Request.takes) rs' := by
  induction rs generalizing taken with
  | nil => simp [demandsFrom]
  | cons r rest ih => simp [demandsFrom, ih]

theorem feasible_append (rs rs' : List Request) : Feasible settings made taken (rs ++ rs') ↔
    Feasible settings made taken rs ∧ Feasible settings (made ++ rs.flatMap Request.makes)
      (taken ++ rs.flatMap Request.takes) rs' := by
  induction rs generalizing made taken with
  | nil => simp [Feasible]
  | cons r rest ih => simp [Feasible, ih, and_assoc]

theorem takes_map {items : List α} {r : α → Request} (h : ∀ item, (r item).takes = []) :
    (items.map r).flatMap Request.takes = [] := by
  simp [List.flatMap_map, h]

theorem takes_demands (ds : List Demand) : (ds.map .demand).flatMap Request.takes = [] :=
  takes_map fun _ => rfl

theorem makes_demands (ds : List Demand) : (ds.map .demand).flatMap Request.makes = [] := by
  simp [Request.makes]

theorem demandsFrom_demands (ds : List Demand) :
    demandsFrom settings taken (ds.map .demand) = ds := by
  induction ds generalizing taken with
  | nil => rfl
  | cons d ds ih => simp [demandsFrom, Request.demands, ih]

theorem feasible_demands (ds : List Demand) : Feasible settings made taken (ds.map .demand) := by
  induction ds generalizing made taken with
  | nil => trivial
  | cons d ds ih => exact ⟨trivial, ih⟩

/-- Only numbers of the same rule set have been taken before. -/
theorem demandsFrom_congr {rs : List Request}
    (h : ∀ name ∈ rs.flatMap Request.takes, taken.count name = taken'.count name) :
    demandsFrom settings taken rs = demandsFrom settings taken' rs := by
  induction rs generalizing taken taken' with
  | nil => rfl
  | cons r rest ih =>
    simp only [List.flatMap_cons, List.forall_mem_append] at h
    have hfirst : r.demands settings taken = r.demands settings taken' := by
      cases r with
      | rule name demands =>
        simp only [Request.demands, h.1 name (List.mem_singleton_self name)]
      | sequence | demand | action => rfl
    rw [demandsFrom, demandsFrom, hfirst, ih]
    intro name hname
    rw [List.count_append, List.count_append, h.2 name hname]

/-- More sequences do no harm. -/
theorem Feasible.congr {rs : List Request} (hfeasible : Feasible settings made taken rs)
    (hmade : made ⊆ made')
    (h : ∀ name ∈ rs.flatMap Request.takes, taken.count name = taken'.count name) :
    Feasible settings made' taken' rs := by
  induction rs generalizing made made' taken taken' with
  | nil => trivial
  | cons r rest ih =>
    simp only [List.flatMap_cons, List.forall_mem_append] at h
    refine ⟨?_, ih hfeasible.2 (List.append_subset.mpr ⟨?_, List.subset_append_right _ _⟩) ?_⟩
    · cases r with
      | rule name demands =>
        obtain ⟨hname, hlt⟩ := hfeasible.1
        refine ⟨hmade hname, ?_⟩
        rwa [← h.1 name (List.mem_singleton_self name)]
      | sequence | demand | action => exact hfeasible.1
    · exact List.Subset.trans hmade (List.subset_append_left _ _)
    · intro name hname
      rw [List.count_append, List.count_append, h.2 name hname]

/-! ## 3. The requests of an inventory -/

theorem takes_hostRequests (network : Network) (subnet : ConfigPath) (h : Host) :
    (hostRequests schema settings network subnet h).flatMap Request.takes = h.takes network := by
  simp [hostRequests, Host.takes, Request.takes, List.flatMap_map, ← List.map_eq_flatMap]

theorem takes_subnetRequests (network : Network) (s : Subnet) :
    (subnetRequests schema settings network s).flatMap Request.takes = s.takes network := by
  simp only [subnetRequests, List.flatMap_append, takes_demands, List.nil_append,
    List.flatMap_assoc, takes_hostRequests]
  rfl

theorem takes_actionRequests (names : RuleSetNames) :
    (actionRequests names).flatMap Request.takes = [] := by
  unfold actionRequests
  cases names.defaultAction with
  | none => rfl
  | some action => exact takes_map fun _ => rfl

theorem takes_networkRequests (network : Network) :
    (networkRequests schema settings network).flatMap Request.takes = network.takes := by
  have hsequences : (network.firewall.all.map fun entry =>
      Request.sequence (.firewall entry.2)).flatMap Request.takes = [] := takes_map fun _ => rfl
  simp only [networkRequests, List.flatMap_append, hsequences, takes_demands, takes_actionRequests,
    List.nil_append, List.flatMap_assoc, takes_subnetRequests]
  rfl

/-- What an inventory demands before its networks. -/
def setupDemands (schema : SchemaNode) (inventory : Inventory) : List Demand :=
  entriesDemands schema .root inventory.settings.entries ++
    inventory.portGroups.flatMap portGroupDemands

/-- All that the networks of an inventory ask for. -/
def networksRequests (schema : SchemaNode) (settings : Settings) (inventory : Inventory) :
    List Request :=
  inventory.networks.flatMap (networkRequests schema settings)

/-- What the networks of an inventory demand, each rule with its number. -/
def networksDemands (schema : SchemaNode) (settings : Settings) (inventory : Inventory) :
    List Demand :=
  demandsFrom settings [] (networksRequests schema settings inventory)

theorem takes_networksRequests (inventory : Inventory) :
    (networksRequests schema settings inventory).flatMap Request.takes = inventory.takes := by
  simp only [networksRequests, List.flatMap_assoc, takes_networkRequests]
  rfl

theorem requests_eq (inventory : Inventory) : requests schema settings inventory =
    .sequence .nat :: ((setupDemands schema inventory).map .demand ++
      networksRequests schema settings inventory) := by
  simp only [requests, setupDemands, networksRequests, List.map_append, List.map_flatMap,
    List.append_assoc, List.singleton_append]

theorem demands_eq (inventory : Inventory) : demands schema settings inventory =
    setupDemands schema inventory ++ networksDemands schema settings inventory := by
  rw [demands, requests_eq, demandsFrom, demandsFrom_append, demandsFrom_demands, takes_demands]
  rfl

theorem feasible_requests_iff (inventory : Inventory) :
    Feasible settings [] [] (requests schema settings inventory) ↔
      (settings.numbers .nat).ruleStep ≠ 0 ∧
        Feasible settings [.nat] [] (networksRequests schema settings inventory) := by
  rw [requests_eq, Feasible, feasible_append, takes_demands, makes_demands]
  simp [feasible_demands, Request.Feasible, Request.makes, Request.takes]

/-! ## 4. The requests of two parts -/

theorem networksRequests_join : networksRequests schema settings (first.join second) =
    networksRequests schema settings first ++ networksRequests schema settings second :=
  List.flatMap_append

theorem setupDemands_join (hsettings : second.settings = ∅) :
    setupDemands schema (first.join second) =
      setupDemands schema first ++ setupDemands schema second := by
  have hnone : entriesDemands schema .root second.settings.entries = [] := by
    rw [hsettings]
    rfl
  rw [setupDemands, setupDemands, setupDemands, hnone, List.nil_append, List.append_assoc,
    ← List.flatMap_append]
  rfl

/-- Rule sets with connections of one part only, and forwarded ports of one part only. -/
theorem not_mem_takes_of_parts
    (hconnections : ∀ name, connectionsOf name first.rules = [] ∨
      connectionsOf name second.rules = [])
    (hforwards : first.forwards = [] ∨ second.forwards = []) :
    ∀ name ∈ second.takes, name ∉ first.takes := by
  intro name hsecond hfirst
  rw [← List.count_pos_iff] at hsecond hfirst
  cases name with
  | firewall name =>
    rw [count_takes_firewall] at hsecond hfirst
    rcases hconnections name with hnone | hnone
    · simp [hnone] at hfirst
    · simp [hnone] at hsecond
  | nat =>
    rw [count_takes_nat] at hsecond hfirst
    rcases hforwards with hnone | hnone
    · simp [hnone] at hfirst
    · simp [hnone] at hsecond

section Apart

variable (hapart : ∀ name ∈ second.takes, name ∉ first.takes)
include hapart

/-- The first part takes no numbers that the second is to take. -/
theorem count_takes_apart :
    ∀ name ∈ (networksRequests schema settings second).flatMap Request.takes,
      List.count name [] =
        ([] ++ (networksRequests schema settings first).flatMap Request.takes).count name := by
  intro name hname
  rw [takes_networksRequests] at hname
  rw [List.nil_append, takes_networksRequests, List.count_eq_zero.mpr (hapart name hname)]
  rfl

/-- A whole inventory demands what its parts demand, each rule with the same number. -/
theorem demands_join (hsettings : second.settings = ∅) :
    demands schema settings (first.join second) =
      (setupDemands schema first ++ setupDemands schema second) ++
        (networksDemands schema settings first ++ networksDemands schema settings second) := by
  rw [demands_eq, setupDemands_join hsettings, networksDemands, networksRequests_join,
    demandsFrom_append, ← demandsFrom_congr (count_takes_apart hapart)]
  rfl

/-- Each rule of a whole inventory gets its number if each rule of the parts does. -/
theorem feasible_join (hfirst : Feasible settings [] [] (requests schema settings first))
    (hsecond : Feasible settings [] [] (requests schema settings second)) :
    Feasible settings [] [] (requests schema settings (first.join second)) := by
  rw [feasible_requests_iff] at hfirst hsecond ⊢
  refine ⟨hfirst.1, ?_⟩
  rw [networksRequests_join, feasible_append]
  exact ⟨hfirst.2, hsecond.2.congr (List.subset_append_left _ _) (count_takes_apart hapart)⟩

end Apart

/-- No rule set has connections in both parts if none of the one is one of the other. -/
theorem connectionsOf_of_parts {rules rules' : List (String × Connection)}
    (h : ∀ r ∈ rules, ∀ r' ∈ rules', r.1 ≠ r'.1) (name : String) :
    connectionsOf name rules = [] ∨ connectionsOf name rules' = [] := by
  simp only [connectionsOf, List.map_eq_nil_iff, List.filter_eq_nil_iff, decide_eq_true_iff]
  by_contra hboth
  simp only [not_or, not_forall, not_not] at hboth
  obtain ⟨⟨r, hr, rfl⟩, r', hr', heq⟩ := hboth
  exact h r hr r' hr' heq.symm

/-! ## 5. One run and two -/

section Parts

variable {a b run : Definitions} {x y x' y' : List Demand} (ha : a.Meets (x ++ y))
  (hb : b.Meets (x' ++ y')) (hagree : Agreeing a b)
include ha hb hagree

/-- With the demands of two trees that agree put one among the other, the last value under a key of
either tree is the one that is there. -/
theorem latest?_of_parts (p : ConfigPath) :
    (p ∈ ways (x ++ y) →
      latest? ((x ++ x') ++ (y ++ y')) p.key = latest? (x ++ y) p.key) ∧
    (p ∈ ways (x' ++ y') →
      latest? ((x ++ x') ++ (y ++ y')) p.key = latest? (x' ++ y') p.key) := by
  have hshuffle := latest?_shuffle (k := p.key) fun v w hv hw =>
    hagree p.key v w (ha.value?_of_latest? hv) (hb.value?_of_latest? hw)
  rw [hshuffle]
  constructor
  · intro hp
    cases hlatest : latest? (x' ++ y') p.key with
    | none => rw [Option.or_none]
    | some w => rw [ha.latest?_of_agreeing hb hagree hp hlatest, Option.some_or]
  · intro hp
    cases hlatest : latest? (x ++ y) p.key with
    | none => rw [Option.none_or]
    | some v => rw [hb.latest?_of_agreeing ha hagree.symm hp hlatest, Option.some_or]

theorem compatible_of_parts (hfirst : Compatible (x ++ y)) (hsecond : Compatible (x' ++ y')) :
    Compatible ((x ++ x') ++ (y ++ y')) := by
  intro d hd
  have hparts : d ∈ x ++ y ∨ d ∈ x' ++ y' := by
    simp only [List.mem_append] at hd ⊢
    tauto
  rcases hparts with hd | hd
  · obtain ⟨hroot, habove⟩ := hfirst d hd
    refine ⟨hroot, fun p hp hne => ?_⟩
    rw [(latest?_of_parts ha hb hagree p).1 (mem_ways.mpr ⟨d, hd, hp⟩)]
    exact habove p hp hne
  · obtain ⟨hroot, habove⟩ := hsecond d hd
    refine ⟨hroot, fun p hp hne => ?_⟩
    rw [(latest?_of_parts ha hb hagree p).2 (mem_ways.mpr ⟨d, hd, hp⟩)]
    exact habove p hp hne

/-- A tree that meets the demands of both has the values of both. -/
theorem value?_of_parts (hrun : run.Meets ((x ++ x') ++ (y ++ y'))) (k : String) :
    run.value? k = (a.value? k).or (b.value? k) := by
  have hways : ∀ p, p ∈ ways ((x ++ x') ++ (y ++ y')) ↔
      p ∈ ways (x ++ y) ∨ p ∈ ways (x' ++ y') := by
    intro p
    simp only [ways_append, List.mem_append]
    tauto
  cases hv : a.value? k with
  | some v =>
    obtain ⟨p, hp, rfl⟩ := ha.exists_of_value? hv
    rw [hrun.value?_of_mem_ways ((hways p).mpr (.inl hp)), (latest?_of_parts ha hb hagree p).1 hp,
      ← ha.value?_of_mem_ways hp, hv, Option.some_or]
  | none =>
    rw [Option.none_or]
    cases hw : b.value? k with
    | some w =>
      obtain ⟨p, hp, rfl⟩ := hb.exists_of_value? hw
      rw [hrun.value?_of_mem_ways ((hways p).mpr (.inr hp)), (latest?_of_parts ha hb hagree p).2 hp,
        ← hb.value?_of_mem_ways hp, hw]
    | none =>
      cases hu : run.value? k with
      | none => rfl
      | some u =>
        obtain ⟨p, hp, rfl⟩ := hrun.exists_of_value? hu
        rcases (hways p).mp hp with hp | hp
        · rw [ha.value?_of_mem_ways hp] at hv
          cases hv
        · rw [hb.value?_of_mem_ways hp] at hw
          cases hw

end Parts

/-- **Where a second value is only warned of, an inventory may be split: if the second part has no
settings, no rule set has connections in both parts, one part at most forwards ports, each key of
the two runs means one path, and their trees can be merged, then the run with the whole inventory
succeeds as well, and its tree has the content of the merge.** -/
theorem generate_join {a b : Generation} {merged : Definitions}
    (lenient : settings.strictPaths = false) (settings_second : second.settings = ∅)
    (connections : ∀ name, connectionsOf name first.rules = [] ∨
      connectionsOf name second.rules = [])
    (forwards : first.forwards = [] ∨ second.forwards = [])
    (meaning : OneMeaning (demands schema settings first ++ demands schema settings second))
    (ha : generate schema settings first = .ok a) (hb : generate schema settings second = .ok b)
    (hmerged : merge a.tree b.tree = .ok merged) :
    ∃ run, generate schema settings (first.join second) = .ok run ∧
      SameContent run.tree merged := by
  have hapart := not_mem_takes_of_parts connections forwards
  have hfirst := meaning.mono (List.subset_append_left _ _)
  have hsecond := meaning.mono (List.subset_append_right _ _)
  obtain ⟨hfeasible, hmeets⟩ := generate_meets lenient hfirst ha
  obtain ⟨hfeasible', hmeets'⟩ := generate_meets lenient hsecond hb
  -- the merge says that the two trees agree
  have hcoherent := hmeets.coherent hmeets' meaning
  have hagree := (hcoherent.merge_ok_iff hmeets.indexed hmeets'.indexed).mp ⟨merged, hmerged⟩
  have hcompatible := hmeets.compatible hfirst
  have hcompatible' := hmeets'.compatible hsecond
  -- the whole demands nothing that the parts do not
  have hwhole : demands schema settings (first.join second) = _ :=
    demands_join hapart settings_second
  rw [demands_eq] at hmeets hmeets' hcompatible hcompatible'
  have hmeaning : OneMeaning (demands schema settings (first.join second)) := by
    refine meaning.mono ?_
    rw [hwhole, demands_eq, demands_eq]
    intro d hd
    simp only [List.mem_append] at hd ⊢
    tauto
  obtain ⟨run, hrun⟩ := (generate_ok_iff lenient hmeaning).mpr
    ⟨feasible_join hapart hfeasible hfeasible', by
      rw [hwhole]
      exact compatible_of_parts hmeets hmeets' hagree hcompatible hcompatible'⟩
  have hmet := (generate_meets lenient hmeaning hrun).2
  refine ⟨run, hrun, sameContent_of_values hmet.indexed
    (hcoherent.indexed hmeets.indexed hmeets'.indexed hmerged) fun k => ?_⟩
  rw [hwhole] at hmet
  rw [value?_of_parts hmeets hmeets' hagree hmet,
    hcoherent.value?_merge hmeets.indexed hmeets'.indexed hmerged]

/-- Two networks share rule sets and a default action, and a rule of the first names a port group of
the second part. -/
theorem generate_join_networks :
    let web : Connection :=
      { direction := .inbound, allow := true, destination := some { portGroup := some "web" } }
    let server : Host :=
      { name := "a", ipAddress := "10.1.0.2", connections := [web],
        forwards := .ofList [(80, 8080)] }
    let lan : Network :=
      { name := "LAN", interface := "eth1", firewall := ⟨"IN", "OUT", "SELF", some "drop"⟩,
        subnets := [{ cidr := "10.1.0.0", router := "10.1.0.1", hosts := [server] }] }
    let ssh : Connection := { direction := .inbound, allow := true }
    let client : Host := { name := "b", ipAddress := "10.2.0.2", connections := [ssh] }
    let wifi : Network :=
      { name := "WIFI", interface := "eth2", firewall := ⟨"AIR", "OUT", "SELF", some "drop"⟩,
        subnets := [{ cidr := "10.2.0.0", router := "10.2.0.1", hosts := [client] }] }
    let first : Inventory := { networks := [lan] }
    let second : Inventory :=
      { portGroups := [{ name := "web", ports := [.integer 80] }], networks := [wifi] }
    ∃ a b merged run, generate default {} first = .ok a ∧ generate default {} second = .ok b ∧
      merge a.tree b.tree = .ok merged ∧ generate default {} (first.join second) = .ok run ∧
      SameContent run.tree merged := by
  intro web server lan ssh client wifi first second
  have hmeaning : OneMeaning (demands default {} first ++ demands default {} second) :=
    .of_plain (by decide +kernel)
  have hrules : ∀ r ∈ first.rules, ∀ r' ∈ second.rules, r.1 ≠ r'.1 := by decide
  have hunambiguous : first.Unambiguous := {
    settings := rfl
    networks_extra := by simp [first, lan]
    subnets_extra := by simp [first, lan]
    hosts_extra := by simp [first, lan, server]
    portGroups := by decide
    interfaces := by decide
    sites := by decide
    hosts := by decide
    actions := by decide
    plain_portGroups := by decide
    plain_networks := by decide
    plain_ruleSets := by decide
    plain_hosts := by decide
    cidrs := by
      have haddress : CidrPieces "10.1.0.0" ["10.1.0.0"] := .address (by decide)
      simpa [first, lan] using ⟨_, haddress⟩ }
  have hunambiguous' : second.Unambiguous := {
    settings := rfl
    networks_extra := by simp [second, wifi]
    subnets_extra := by simp [second, wifi]
    hosts_extra := by simp [second, wifi, client]
    portGroups := by decide
    interfaces := by decide
    sites := by decide
    hosts := by decide
    actions := by decide
    plain_portGroups := by decide
    plain_networks := by decide
    plain_ruleSets := by decide
    plain_hosts := by decide
    cidrs := by
      have haddress : CidrPieces "10.2.0.0" ["10.2.0.0"] := .address (by decide)
      simpa [second, wifi] using ⟨_, haddress⟩ }
  obtain ⟨a, ha⟩ := exists_generate_of_few hunambiguous (by decide +kernel) default
  obtain ⟨b, hb⟩ := exists_generate_of_few hunambiguous' (by decide +kernel) default
  have hfirst := (generate_meets rfl (hmeaning.mono (List.subset_append_left _ _)) ha).2
  have hsecond := (generate_meets rfl (hmeaning.mono (List.subset_append_right _ _)) hb).2
  have hagree : Agreeing a.tree b.tree := (hfirst.agreeing_iff hsecond).mpr (by decide +kernel)
  obtain ⟨merged, hmerged⟩ :=
    ((hfirst.coherent hsecond hmeaning).merge_ok_iff hfirst.indexed hsecond.indexed).mpr hagree
  obtain ⟨run, hrun, hsame⟩ :=
    generate_join rfl rfl (connectionsOf_of_parts hrules) (.inr rfl) hmeaning ha hb hmerged
  exact ⟨a, b, merged, run, ha, hb, hmerged, hrun, hsame⟩

end Generation

end RouterConfig
