/-
RouterConfig.Proofs.Generation.Translation — the rules that a run makes for
the forwarded ports of an inventory.

`translation_rules`: after a run that succeeds, the rules of destination
address translation are those of the forwarded ports, one for each
(`translationRules`), in the order of the inventory over all networks,
subnets and hosts, and for one host in ascending order of the outside port.
The sequence has given one number to each. How an inventory lists the
forwarded ports of a host makes no difference to a run (`Relists`): the two
runs have the same outcome, error or not.

## How the proof goes

`Translated` says of a run that has put some forwarded ports which rules
there are. A forwarded port becomes the last rule (`Translated.forward`),
for its texts are set below a rule that is new (`graftAll_translation`).
Each other request keeps the rules (`Translated.apart`), as the paths it
demands begin with another word (`avoids_of_word`). `Adds` puts this
together for hosts, subnets and networks. As only the ascending order is
looked at, the listing does not matter: there is one ascending list
(`Ascending.unique`), and the requests of both inventories are the same
(`generate_relists`).

## Side conditions

For the rules: the run succeeded, and the settings of the inventory put
nothing at or below `nat` (`SettingsAvoid`). Names of networks and hosts may
be any texts; they stand below words of their own. The ascending order and
the independence of the listing ask for nothing.
-/
import RouterConfig.Proofs.Generation.Firewall
import RouterConfig.Proofs.Generation.Outcome

namespace RouterConfig

/-! ## 1. Forwarded ports of an inventory -/

namespace Forwards

/-- The list goes through the forwarded ports in ascending order of the outside port. -/
structure Ascending (forwards : Forwards) (l : List (UInt16 × UInt16)) : Prop where
  perm : l.Perm forwards.pairs
  ascending : l.Pairwise fun a b => a.1 < b.1

theorem ascending_sorted (forwards : Forwards) : forwards.Ascending forwards.sorted where
  perm := List.mergeSort_perm _ _
  ascending := by
    have hsorted : forwards.sorted.Pairwise fun a b => decide (a.1 ≤ b.1) = true := by
      refine List.pairwise_mergeSort ?_ ?_ _
      · intro a b c hab hbc
        exact decide_eq_true (UInt16.le_trans (of_decide_eq_true hab) (of_decide_eq_true hbc))
      · intro a b
        rcases UInt16.le_total a.1 b.1 with hle | hle <;> simp [hle]
    have hdistinct : (forwards.sorted.map (·.1)).Nodup :=
      (((List.mergeSort_perm _ _).map _).nodup_iff).mpr forwards.distinct
    rw [List.Nodup, List.pairwise_map] at hdistinct
    exact hsorted.imp₂ (fun _ _ hle hne => UInt16.lt_of_le_of_ne (of_decide_eq_true hle) hne)
      hdistinct

/-- There is one such list, whatever the order of the pairs. -/
theorem Ascending.unique {forwards forwards' : Forwards} {l l' : List (UInt16 × UInt16)}
    (h : forwards.Ascending l) (h' : forwards'.Ascending l')
    (hperm : forwards'.pairs.Perm forwards.pairs) : l' = l :=
  List.Perm.eq_of_pairwise
    (fun _ _ _ _ hab hba => absurd (UInt16.lt_trans hab hba) (UInt16.lt_irrefl _))
    h'.ascending h.ascending (h'.perm.trans (hperm.trans h.perm.symm))

end Forwards

/-- The forwarded ports of a host, each with the host. -/
def Host.translations (h : Host) : List (Host × UInt16 × UInt16) := h.forwards.sorted.map (h, ·)

/-- The forwarded ports of a subnet, host by host. -/
def Subnet.translations (s : Subnet) : List (Host × UInt16 × UInt16) :=
  s.hosts.flatMap Host.translations

/-- The forwarded ports of a network, subnet by subnet. -/
def Network.translations (network : Network) : List (Host × UInt16 × UInt16) :=
  network.subnets.flatMap Subnet.translations

/-- All forwarded ports, network by network. -/
def Inventory.translations (inventory : Inventory) : List (Host × UInt16 × UInt16) :=
  inventory.networks.flatMap Network.translations

/-! ## 2. Other listings of the same ports -/

/-- The second host is the first one with its forwarded ports listed in some order. -/
structure Host.Relists (h h' : Host) : Prop where
  same : h' = { h with forwards := h'.forwards }
  perm : h'.forwards.pairs.Perm h.forwards.pairs

/-- The second subnet is the first one with the forwarded ports of its hosts listed in
some order. -/
structure Subnet.Relists (s s' : Subnet) : Prop where
  same : s' = { s with hosts := s'.hosts }
  hosts : List.Forall₂ Host.Relists s.hosts s'.hosts

/-- The same of a network. -/
structure Network.Relists (n n' : Network) : Prop where
  same : n' = { n with subnets := n'.subnets }
  subnets : List.Forall₂ Subnet.Relists n.subnets n'.subnets

/-- The inventories differ in the order in which the forwarded ports of hosts are listed, and in
nothing else. -/
structure Inventory.Relists (i i' : Inventory) : Prop where
  same : i' = { i with networks := i'.networks }
  networks : List.Forall₂ Network.Relists i.networks i'.networks

theorem Host.Relists.sorted_eq {h h' : Host} (hh : h.Relists h') :
    h'.forwards.sorted = h.forwards.sorted :=
  h.forwards.ascending_sorted.unique h'.forwards.ascending_sorted hh.perm

theorem map_eq_of_forall₂ {R : α → α → Prop} {f : α → β} {xs ys : List α}
    (h : List.Forall₂ R xs ys) (hf : ∀ x y, R x y → f x = f y) : ys.map f = xs.map f := by
  have hmapped : List.Forall₂ (· = ·) (xs.map f) (ys.map f) :=
    List.forall₂_map_left_iff.mpr (List.forall₂_map_right_iff.mpr (h.imp hf))
  exact (List.forall₂_eq_eq_eq ▸ hmapped).symm

namespace Generation

open Definitions Definition

/-- Another listing asks for the same in the same order. -/
theorem hostRequests_relists (schema : SchemaNode) (settings : Settings) (network : Network)
    (subnet : ConfigPath) {h h' : Host} (hh : h.Relists h') :
    hostRequests schema settings network subnet h =
      hostRequests schema settings network subnet h' := by
  have hsorted := hh.sorted_eq
  obtain ⟨hsame, -⟩ := hh
  rw [hostRequests, hostRequests, hsorted, hsame]
  rfl

theorem subnetRequests_relists (schema : SchemaNode) (settings : Settings) (network : Network)
    {s s' : Subnet} (hs : s.Relists s') : subnetRequests schema settings network s =
      subnetRequests schema settings network s' := by
  obtain ⟨hsame, hhosts⟩ := hs
  have hmap := map_eq_of_forall₂ hhosts fun _ _ =>
    hostRequests_relists schema settings network (subnetPath network s)
  rw [subnetRequests, subnetRequests, List.flatMap_def, List.flatMap_def, ← hmap, hsame]
  rfl

theorem networkRequests_relists (schema : SchemaNode) (settings : Settings)
    {n n' : Network} (hn : n.Relists n') :
    networkRequests schema settings n = networkRequests schema settings n' := by
  obtain ⟨hsame, hsubnets⟩ := hn
  have haddresses : n'.subnets.map Subnet.interfaceAddress =
      n.subnets.map Subnet.interfaceAddress :=
    map_eq_of_forall₂ hsubnets fun _ _ hs => by
      rw [hs.same]
      rfl
  have hmap := map_eq_of_forall₂ hsubnets fun _ _ => subnetRequests_relists schema settings n
  rw [networkRequests, networkRequests, interfaceDemands, interfaceDemands, List.flatMap_def,
    List.flatMap_def, ← hmap, ← haddresses, hsame]
  rfl

/-- How the forwarded ports are listed makes no difference to a run. -/
theorem generate_relists (schema : SchemaNode) (settings : Settings) {i i' : Inventory}
    (hi : i.Relists i') : generate schema settings i = generate schema settings i' := by
  obtain ⟨hsame, hnetworks⟩ := hi
  have hrequests : requests schema settings i = requests schema settings i' := by
    have hmap := map_eq_of_forall₂ hnetworks fun _ _ => networkRequests_relists schema settings
    rw [requests, requests, List.flatMap_def, List.flatMap_def, ← hmap, hsame]
    rfl
  rw [generate, generate, putInventory_eq, putInventory_eq, hrequests]

/-! ## 3. The rules of address translation -/

/-- The key above those of all rules of address translation. -/
def translationKey : String := "nat"

/-- The path above the rules of address translation. -/
def translationPath : ConfigPath := .ofSegments [.fixed "nat", .fixed "destination"]

/-- The path of the rules of address translation. -/
def translationRulesPath : ConfigPath := translationPath.append [.fixed "rule"]

/-- What a forwarded port leaves below its rule. -/
def translationLeaves (schema : SchemaNode) (settings : Settings) (rule : ConfigPath)
    (f : Host × UInt16 × UInt16) : List Definition :=
  let outside := Text.ofNat f.2.1.toNat
  let inside := Text.ofNat f.2.2.toNat
  [leaf schema rule "description" (f.1.name ++ " port " ++ outside ++ " to " ++ inside),
    leaf schema rule "inbound-interface" settings.nat.inboundInterface,
    leaf schema rule "protocol" "tcp_udp",
    (bound schema rule (.fixed "destination")).withChildren
      [leaf schema (rule.words ["destination"]) "port" outside],
    (bound schema rule (.fixed "translation")).withChildren
      [leaf schema (rule.words ["translation"]) "address" f.1.ipAddress,
        leaf schema (rule.words ["translation"]) "port" inside]]

/-- The rule of a number for a forwarded port. -/
def translationRule (schema : SchemaNode) (settings : Settings) (number : Nat)
    (f : Host × UInt16 × UInt16) : Definition :=
  (bound schema translationRulesPath (.value (Text.ofNat number))).withChildren
    (translationLeaves schema settings
      (translationRulesPath.append [.value (Text.ofNat number)]) f)

/-- The rules for forwarded ports, numbered as the settings say. -/
def translationRules (schema : SchemaNode) (settings : Settings)
    (fs : List (Host × UInt16 × UInt16)) : List Definition :=
  fs.mapIdx fun i f => translationRule schema settings
    (settings.nat.ruleStart.toNat + i * settings.nat.ruleStep.toNat) f

/-- What stands under the rules of address translation, if there are any. -/
def translationDefinition (schema : SchemaNode) (rules : List Definition) : Option Definition :=
  (bound schema translationPath (.fixed "rule")).holding rules

theorem translationRules_concat (schema : SchemaNode) (settings : Settings)
    (fs : List (Host × UInt16 × UInt16)) (f : Host × UInt16 × UInt16) :
    translationRules schema settings (fs ++ [f]) = translationRules schema settings fs
      ++ [translationRule schema settings (settings.ruleNumber .nat fs.length) f] := by
  rw [translationRules, List.mapIdx_concat]
  rfl

/-- The number after those of the rules is the number of none of them. -/
theorem translationRules_fresh {settings : Settings} (hstep : settings.nat.ruleStep ≠ 0)
    (schema : SchemaNode) (fs : List (Host × UInt16 × UInt16)) :
    ∀ d ∈ translationRules schema settings fs,
      d.name ≠ Text.ofNat (settings.ruleNumber .nat fs.length) := by
  intro d hd hname
  obtain ⟨i, hi, rfl⟩ := List.mem_mapIdx.mp hd
  have hnumber : settings.ruleNumber .nat i = settings.ruleNumber .nat fs.length :=
    Text.ofNat_injective hname
  have : i = fs.length := @Settings.ruleNumber_injective settings .nat hstep _ _ hnumber
  omega

/-! ## 4. One rule -/

/-- A run with the definition `d` under the next step of a path, or with nothing there while `d` is
still as it would be bound. -/
structure Standing (schema : SchemaNode) (top : String) (above : ConfigPath) (step : Step)
    (counters : RuleCounters) (d : Definition) (g : Generation) : Prop where
  indexed : Indexed g.tree
  tidy : Tidy top g.tree
  schema_eq : g.tree.schema = schema
  counters_eq : g.counters = counters
  here : (g.tree.get? (above.snoc step).key).getD (bound schema above step.segment) = d

namespace Standing

variable {schema : SchemaNode} {top : String} {above : ConfigPath} {step : Step}
  {counters : RuleCounters} {d : Definition} {g g' : Generation}
  (hroot : above.isRoot = false) (hwithin : KeyWithin top above.key)
include hroot hwithin

/-- Demanding a text below the definition is a graft on it. -/
theorem demand (h : Standing schema top above step counters d g) {rest : List Step} {text : String}
    (hslash : ∀ s ∈ above.steps ++ step :: rest, '/' ∉ s.literal.toList)
    (hrun : edit (demandText ⟨above.steps ++ step :: rest⟩ text).edit g = .ok () g') :
    Standing schema top above step counters
      (graft schema (withText text) (above.snoc step) rest d) g' := by
  obtain ⟨hset, hcounters⟩ := edit_ok hrun
  have hchanges := (keeps_setValue ⟨above.steps ++ step :: rest⟩ (.single text)).changes
    h.indexed hset
  have hget := get?_setValue h.indexed h.tidy hroot hwithin rfl hslash hset
  rw [h.schema_eq, h.here] at hget
  exact {
    indexed := h.indexed.changes hchanges
    tidy := h.tidy.changes (by rintro p rfl _; exact hslash) hchanges
    schema_eq := hchanges.schema_eq.trans h.schema_eq
    counters_eq := hcounters.trans h.counters_eq
    here := by
      rw [hget]
      rfl }

/-- Demanding texts below the definition, one after the other, sets all of them. -/
theorem demandAll (h : Standing schema top above step counters d g)
    {texts : List (List Step × String)}
    (hslash : ∀ text ∈ texts, ∀ s ∈ above.steps ++ step :: text.1, '/' ∉ s.literal.toList)
    (hrun : Generation.demandAll (texts.map fun text =>
      demandText ⟨above.steps ++ step :: text.1⟩ text.2) g = .ok () g') :
    Standing schema top above step counters
      (graftAll schema (above.snoc step) texts d) g' := by
  induction texts generalizing d g with
  | nil =>
    cases hrun
    exact h
  | cons text rest ih =>
    obtain ⟨_, u, hfirst, hrest⟩ := bind_eq_ok.mp hrun
    have hnext := h.demand hroot hwithin (hslash text List.mem_cons_self) hfirst
    exact ih hnext (fun other hother => hslash other (List.mem_cons_of_mem _ hother)) hrest

end Standing

/-- The texts of a forwarded port, each with the words that lead to it below the rule. -/
def translationTexts (settings : Settings) (f : Host × UInt16 × UInt16) :
    List (List String × String) :=
  let outside := Text.ofNat f.2.1.toNat
  let inside := Text.ofNat f.2.2.toNat
  [(["description"], f.1.name ++ " port " ++ outside ++ " to " ++ inside),
    (["inbound-interface"], settings.nat.inboundInterface),
    (["protocol"], "tcp_udp"),
    (["destination", "port"], outside),
    (["translation", "address"], f.1.ipAddress),
    (["translation", "port"], inside)]

/-- The steps to the texts of a forwarded port from its rule on. -/
def translationSteps (settings : Settings) (f : Host × UInt16 × UInt16) :
    List (List Step × String) :=
  (translationTexts settings f).map fun text => (wordSteps text.1, text.2)

/-- The step to the rule of a number. -/
def numberStep (number : Nat) : Step := .ofSegment (.value (Text.ofNat number))

theorem segment_numberStep (number : Nat) :
    (numberStep number).segment = .value (Text.ofNat number) := segment_ofSegment_number number

theorem forwardDemands_eq (settings : Settings) (f : Host × UInt16 × UInt16) (number : UInt32) :
    forwardDemands settings f.1 f.2 (natRulePath number) =
      ((translationSteps settings f).map fun text =>
        (numberStep number.toNat :: text.1, text.2)).map fun text =>
          demandText ⟨translationPath.steps ++ Step.ofSegment (.fixed "rule") :: text.1⟩ text.2 :=
  rfl

theorem slash_not_mem_translation (settings : Settings) (f : Host × UInt16 × UInt16)
    (number : Nat) : ∀ text ∈ (translationSteps settings f).map fun text =>
        (numberStep number :: text.1, text.2),
      ∀ s ∈ translationPath.steps ++ Step.ofSegment (.fixed "rule") :: text.1,
        '/' ∉ s.literal.toList := by
  have hwords : ∀ text ∈ translationSteps settings f, ∀ s ∈ text.1,
      '/' ∉ s.literal.toList := by
    simp [translationSteps, translationTexts, wordSteps, Step.ofSegment, Segment.literal]
  intro text htext s hs
  obtain ⟨below, hbelow, rfl⟩ := List.mem_map.mp htext
  have habove : ∀ s ∈ translationPath.steps ++ [Step.ofSegment (.fixed "rule")],
      '/' ∉ s.literal.toList := by
    decide
  rw [List.append_cons, List.mem_append, List.mem_cons] at hs
  rcases hs with hs | rfl | hs
  · exact habove s hs
  · exact Text.slash_not_mem_ofNat number
  · exact hwords below hbelow s hs

/-- Set below a rule one after the other, the texts of a forwarded port make up the rule. -/
theorem graftAll_translation (schema : SchemaNode) (settings : Settings)
    (f : Host × UInt16 × UInt16) (number : Nat) :
    graftAll schema (translationRulesPath.snoc (numberStep number)) (translationSteps settings f)
        (bound schema translationRulesPath (.value (Text.ofNat number)))
      = translationRule schema settings number f := by
  -- all words are known, so each graft can be computed
  rfl

/-- The demands of a forwarded port add its rule to the rules before it. -/
theorem standing_forward {schema : SchemaNode} {settings : Settings} {counters : RuleCounters}
    {rules : List Definition} {g g' : Generation}
    (h : Standing schema translationKey translationPath (Step.ofSegment (.fixed "rule")) counters
      ((bound schema translationPath (.fixed "rule")).withChildren rules) g)
    (f : Host × UInt16 × UInt16) {number : UInt32}
    (hfresh : ∀ d ∈ rules, d.name ≠ Text.ofNat number.toNat)
    (hrun : demandAll (forwardDemands settings f.1 f.2 (natRulePath number)) g = .ok () g') :
    Standing schema translationKey translationPath (Step.ofSegment (.fixed "rule")) counters
      ((bound schema translationPath (.fixed "rule")).withChildren
        (rules ++ [translationRule schema settings number.toNat f])) g' := by
  have hwithin : KeyWithin translationKey translationPath.key := .inr ⟨"destination", by decide⟩
  have hpath : translationPath.snoc (Step.ofSegment (.fixed "rule")) = translationRulesPath := rfl
  have hsome : translationSteps settings f ≠ [] := List.cons_ne_nil _ _
  rw [forwardDemands_eq] at hrun
  have hgrown := h.demandAll rfl hwithin (slash_not_mem_translation settings f number.toNat) hrun
  rwa [hpath, graftAll_new hsome _ hfresh, segment_numberStep, graftAll_translation] at hgrown

/-! ## 5. A run on its way -/

/-- A run that has put the forwarded ports `done`. -/
structure Translated (schema : SchemaNode) (settings : Settings)
    (done : List (Host × UInt16 × UInt16)) (g : Generation) : Prop where
  indexed : Indexed g.tree
  tidy : Tidy translationKey g.tree
  schema_eq : g.tree.schema = schema
  rules : g.tree.get? translationRulesPath.key
    = translationDefinition schema (translationRules schema settings done)
  /-- The sequence has given one number to each port. -/
  counter : g.counters.get? .nat = some (settings.sequence .nat done.length)
  step_ne_zero : settings.nat.ruleStep ≠ 0

/-- The request has nothing to do with address translation. -/
def Request.Apart : Request → Prop
  | .sequence name => name ≠ .nat
  | .demand d => Avoids translationKey d.path
  | .action _ _ => True
  | .rule name demands =>
    name ≠ .nat ∧ ∀ number, ∀ d ∈ demands number, Avoids translationKey d.path

theorem keyWithin_translationRulesPath : KeyWithin translationKey translationRulesPath.key :=
  .inr ⟨"destination/rule", by decide⟩

/-- A path with another first word than that of address translation avoids its key. -/
theorem avoids_of_word {word : String} (hon : ¬ word.toList <+: translationKey.toList)
    (hin : ¬ translationKey.toList <+: word.toList) (rest : List Segment) :
    Avoids translationKey (.ofSegments (.fixed word :: rest)) :=
  @Avoids.ofWords translationKey [word] (by simp) (by simpa using hon) (by simpa using hin) rest

theorem avoids_ruleSetPath (name : String) : Avoids translationKey (ruleSetPath name) :=
  avoids_of_word (by decide) (by decide) _

theorem avoids_subnetPath (network : Network) (s : Subnet) :
    Avoids translationKey (subnetPath network s) := avoids_of_word (by decide) (by decide) _

namespace Translated

variable {schema : SchemaNode} {settings : Settings} {done : List (Host × UInt16 × UInt16)}
  {g g' : Generation}

/-- What changes other paths only, and leaves the sequence, leaves the rules. -/
theorem frame (h : Translated schema settings done g) {P : ConfigPath → Prop}
    (hchanges : Changes P g.tree g'.tree) (hP : ∀ p, P p → Avoids translationKey p)
    (hcounter : g'.counters.get? .nat = g.counters.get? .nat) :
    Translated schema settings done g' where
  indexed := h.indexed.changes hchanges
  tidy := h.tidy.changes (fun p hp hwithin => absurd hwithin (hP p hp).not_within) hchanges
  schema_eq := hchanges.schema_eq.trans h.schema_eq
  rules := by
    rw [hchanges.get?_apart h.indexed fun p hp hwithin =>
      (hP p hp).not_within (keyWithin_translationRulesPath.trans hwithin)]
    exact h.rules
  counter := hcounter.trans h.counter
  step_ne_zero := h.step_ne_zero

theorem demand (h : Translated schema settings done g) {d : Demand}
    (hd : Avoids translationKey d.path) (hrun : edit d.edit g = .ok () g') :
    Translated schema settings done g' := by
  obtain ⟨hedit, hcounters⟩ := edit_ok hrun
  refine h.frame ((keeps_demand d).changes h.indexed hedit) ?_ (by rw [hcounters])
  rintro p rfl
  exact hd

/-- A step that only counts for other rules leaves those of address translation. -/
theorem counted (h : Translated schema settings done g) (htree : g'.tree = g.tree)
    (hcounter : g'.counters.get? .nat = g.counters.get? .nat) :
    Translated schema settings done g' := by
  refine h.frame (P := fun _ => False) ?_ (fun _ => False.elim) hcounter
  rw [htree]

/-- A request that has nothing to do with address translation leaves its rules. -/
theorem apart (h : Translated schema settings done g) {r : Request} (hr : r.Apart)
    (hrun : r.perform settings g = .ok () g') : Translated schema settings done g' := by
  cases r with
  | sequence name =>
    obtain ⟨_, u, hmake, hpure⟩ := bind_eq_ok.mp hrun
    cases hpure
    obtain ⟨hcounters, htree⟩ := count_ok hmake
    refine h.counted htree ?_
    rcases RuleCounters.make_ok hcounters with ⟨_, -, hsame⟩ | ⟨-, -, hput⟩
    · rw [hsame]
    · rw [hput, RuleCounters.get?_put, if_neg hr]
  | demand d => exact h.demand hr hrun
  | action name text =>
    rw [Request.perform, putShared_apply] at hrun
    split at hrun
    · cases hrun
      exact h
    · have hpath : Avoids translationKey (actionPath name) := (avoids_ruleSetPath name).append _
      exact h.demand (d := demandText (actionPath name) text) hpath hrun
  | rule name demands =>
    obtain ⟨hname, hdemands⟩ := hr
    obtain ⟨number, u, hnext, hrest⟩ := bind_eq_ok.mp hrun
    obtain ⟨hcounters, htree⟩ := count_ok hnext
    obtain ⟨_, -, -, hput⟩ := RuleCounters.next_ok hcounters
    have hcounted : Translated schema settings done u :=
      h.counted htree (by rw [hput, RuleCounters.get?_put, if_neg hname])
    exact forEach_keeps (demands number)
      (fun d hd _ _ hu hstep => hu.demand (hdemands number d hd) hstep) hcounted hrest

/-- A forwarded port becomes the last rule. -/
theorem forward (h : Translated schema settings done g) (f : Host × UInt16 × UInt16)
    (hrun : (Request.rule .nat fun number => forwardDemands settings f.1 f.2
      (natRulePath number)).perform settings g = .ok () g') :
    Translated schema settings (done ++ [f]) g' := by
  obtain ⟨number, u, hnext, hrest⟩ := bind_eq_ok.mp hrun
  obtain ⟨hcounters, htree⟩ := count_ok hnext
  obtain ⟨counter, hhas, hupcoming, hput⟩ := RuleCounters.next_ok hcounters
  obtain rfl : counter = settings.sequence .nat done.length :=
    Option.some.inj (hhas.symm.trans h.counter)
  have hnumber : number.toNat = settings.ruleNumber .nat done.length :=
    RuleCounter.toNat_of_upcoming hupcoming
  have hfresh := translationRules_fresh h.step_ne_zero schema done
  rw [← hnumber] at hfresh
  -- what stands under the rules before the new one
  have hstanding : Standing schema translationKey translationPath (Step.ofSegment (.fixed "rule"))
      u.counters ((bound schema translationPath (.fixed "rule")).withChildren
        (translationRules schema settings done)) u := {
    indexed := htree ▸ h.indexed
    tidy := htree ▸ h.tidy
    schema_eq := htree ▸ h.schema_eq
    counters_eq := rfl
    here := by
      have hrules := congrArg (·.getD (bound schema translationPath (.fixed "rule"))) h.rules
      rw [htree, segment_ofSegment_fixed]
      exact hrules.trans (getD_holding rfl _) }
  have hgrown := standing_forward hstanding f hfresh hrest
  have hrules := hgrown.here
  rw [segment_ofSegment_fixed, hnumber, ← translationRules_concat] at hrules
  have hsome : translationRules schema settings (done ++ [f]) ≠ [] := by
    simp [translationRules_concat]
  exact {
    indexed := hgrown.indexed
    tidy := hgrown.tidy
    schema_eq := hgrown.schema_eq
    rules := eq_holding_of_getD rfl hsome hrules
    counter := by
      rw [hgrown.counters_eq, hput, RuleCounters.get?_put, if_pos rfl, Settings.sequence,
        RuleCounter.advance_position, List.length_append]
      rfl
    step_ne_zero := h.step_ne_zero }

end Translated

/-! ## 6. What requests add -/

/-- Demands below a path that avoids address translation have nothing to do with it. -/
theorem AllBelow.apart {base : ConfigPath} {ds : List Demand} (h : AllBelow base ds)
    (hbase : Avoids translationKey base) :
    ∀ r ∈ ds.map Request.demand, r.Apart := by
  rintro r hr
  obtain ⟨d, hd, rfl⟩ := List.mem_map.mp hr
  exact hbase.below (h d hd)

/-- Going through the requests adds the rules for these forwarded ports. -/
def Adds (schema : SchemaNode) (settings : Settings) (fs : List (Host × UInt16 × UInt16))
    (rs : List Request) : Prop :=
  ∀ done g g', Translated schema settings done g → performAll settings rs g = .ok () g' →
    Translated schema settings (done ++ fs) g'

namespace Adds

variable {schema : SchemaNode} {settings : Settings} {fs fs' : List (Host × UInt16 × UInt16)}
  {rs rs' : List Request}

theorem append (h : Adds schema settings fs rs) (h' : Adds schema settings fs' rs') :
    Adds schema settings (fs ++ fs') (rs ++ rs') := by
  intro done g g' hg hrun
  rw [performAll_append] at hrun
  obtain ⟨_, u, hfirst, hsecond⟩ := bind_eq_ok.mp hrun
  rw [← List.append_assoc]
  exact h' _ u g' (h done g u hg hfirst) hsecond

theorem flatMap {items : List α} {fs : α → List (Host × UInt16 × UInt16)}
    {rs : α → List Request} (h : ∀ item, Adds schema settings (fs item) (rs item)) :
    Adds schema settings (items.flatMap fs) (items.flatMap rs) := by
  induction items with
  | nil =>
    intro done g g' hg hrun
    cases hrun
    rwa [List.flatMap_nil, List.append_nil]
  | cons item rest ih => exact (h item).append ih

/-- Requests that have nothing to do with address translation add no rule. -/
theorem apart (h : ∀ r ∈ rs, r.Apart) : Adds schema settings [] rs := by
  intro done g g' hg hrun
  rw [List.append_nil]
  exact forEach_keeps rs (fun r hr _ _ hu hstep => hu.apart (h r hr) hstep) hg hrun

theorem forward (h : Host) (pair : UInt16 × UInt16) : Adds schema settings [(h, pair)]
    [.rule .nat fun number => forwardDemands settings h pair (natRulePath number)] := by
  intro done g g' hg hrun
  rw [performAll, forEach_singleton] at hrun
  exact hg.forward (h, pair) hrun

theorem host (network : Network) {subnet : ConfigPath} (hsubnet : Avoids translationKey subnet)
    (h : Host) :
    Adds schema settings h.translations (hostRequests schema settings network subnet h) := by
  have hmapping := AllBelow.mapping schema
    (subnet.append [.fixed "static-mapping", .value h.name]) h
  have hconnections : Adds schema settings [] (h.connections.map fun c =>
      .rule (.firewall (network.firewall.name c.direction)) fun number =>
        connectionDemands (rulePath (network.firewall.name c.direction) number) c) := by
    refine apart ?_
    rintro r hr
    obtain ⟨c, -, rfl⟩ := List.mem_map.mp hr
    exact ⟨by simp, fun number d hd =>
      ((avoids_ruleSetPath _).append _).below (AllBelow.connection _ c d hd)⟩
  have hforwards : Adds schema settings h.translations (h.forwards.sorted.map fun forward =>
      .rule .nat fun number => forwardDemands settings h forward (natRulePath number)) := by
    rw [Host.translations, List.map_eq_flatMap, List.map_eq_flatMap]
    exact flatMap fun pair => forward h pair
  exact (apart (hmapping.apart (hsubnet.append _))).append (hconnections.append hforwards)

theorem subnet (network : Network) (s : Subnet) :
    Adds schema settings s.translations (subnetRequests schema settings network s) :=
  (apart ((AllBelow.subnet schema _ s).apart (avoids_subnetPath network s))).append
    (flatMap fun h => host network (avoids_subnetPath network s) h)

theorem network (network : Network) :
    Adds schema settings network.translations (networkRequests schema settings network) := by
  have hsequences : Adds schema settings [] (network.firewall.all.map fun entry =>
      .sequence (.firewall entry.2)) := by
    refine apart ?_
    rintro r hr
    obtain ⟨entry, -, rfl⟩ := List.mem_map.mp hr
    simp [Request.Apart]
  have hactions : Adds schema settings [] (actionRequests network.firewall) := by
    refine apart ?_
    rintro r hr
    unfold actionRequests at hr
    split at hr
    · cases hr
    · obtain ⟨entry, -, rfl⟩ := List.mem_map.mp hr
      trivial
  have hinterface := (AllBelow.interface schema
    (.ofSegments [.fixed "interfaces", .fixed "ethernet", .value network.interface])
    network).apart (avoids_of_word (by decide) (by decide) _)
  exact hsequences.append ((apart hinterface).append (hactions.append
    (flatMap fun s => subnet network s)))

theorem portGroups (gs : List PortGroup) : Adds schema settings []
    (gs.flatMap fun g => (portGroupDemands g).map .demand) := by
  refine apart ?_
  intro r hr
  obtain ⟨g, -, hr⟩ := List.mem_flatMap.mp hr
  exact (AllBelow.portGroup g).apart (avoids_of_word (by decide) (by decide) []) r hr

/-- A step of a run adds what its requests add. -/
theorem run {x : Run Unit} (h : Adds schema settings fs rs) (hx : Performs schema settings x rs)
    {done : List (Host × UInt16 × UInt16)} {g g' : Generation}
    (hg : Translated schema settings done g) (hrun : x g = .ok () g') :
    Translated schema settings (done ++ fs) g' := by
  rw [hx g hg.indexed hg.schema_eq] at hrun
  exact h done g g' hg hrun

end Adds

/-! ## 7. Whole runs -/

/-- After the settings a run has its sequence, and no rule of address translation yet. -/
theorem translated_settings {schema : SchemaNode} {settings : Settings} {inventory : Inventory}
    (hapart : SettingsAvoid translationKey schema settings inventory) {made : Bool}
    {g g' : Generation}
    (hmake : count (RuleCounters.make .nat settings.nat.ruleStart settings.nat.ruleStep)
      (start schema settings) = .ok made g)
    (hrun : putTemplate .root inventory.settings g = .ok () g') :
    Translated schema settings [] g' := by
  obtain ⟨hcounters, htree⟩ := count_ok hmake
  obtain ⟨hindexed, htidy, hschema, hsame, hvacant⟩ := vacant_settings hapart htree hrun
  rcases RuleCounters.make_ok hcounters with ⟨counter, hhas, -⟩ | ⟨-, hstep, hput⟩
  · cases hhas
  · exact {
      indexed := hindexed
      tidy := htidy
      schema_eq := hschema
      rules := hvacant _ keyWithin_translationRulesPath
      counter := by
        rw [hsame, hput, RuleCounters.get?_put, if_pos rfl, Settings.sequence, List.length_nil,
          RuleCounter.position_zero]
        rfl
      step_ne_zero := hstep }

/-- **The rules of address translation are those of the forwarded ports in the order of the
inventory and, for one host, in ascending order of the outside port, which no listing of the ports
can change.** -/
theorem translation_rules (schema : SchemaNode) (settings : Settings) (inventory : Inventory) :
    (∀ forwards : Forwards, forwards.Ascending forwards.sorted) ∧
      (∀ run, generate schema settings inventory = .ok run →
        SettingsAvoid "nat" schema settings inventory →
        run.tree.get? "nat/destination/rule" = translationDefinition schema
            (translationRules schema settings inventory.translations) ∧
          run.counters.get? .nat = some (.position settings.nat.ruleStart settings.nat.ruleStep
            inventory.translations.length)) ∧
      ∀ inventory', inventory.Relists inventory' →
        generate schema settings inventory = generate schema settings inventory' := by
  refine ⟨Forwards.ascending_sorted, ?_, fun _ => generate_relists schema settings⟩
  intro run hrun hapart
  obtain ⟨_, g₁, hmake, hput⟩ := bind_eq_ok.mp (generate_ok hrun)
  obtain ⟨_, g₂, hsettings, hput⟩ := bind_eq_ok.mp hput
  obtain ⟨_, g₃, hgroups, hnetworks⟩ := bind_eq_ok.mp hput
  obtain ⟨made, u, hmake, hpure⟩ := bind_eq_ok.mp hmake
  cases hpure
  have h₂ : Translated schema settings [] g₂ := translated_settings hapart hmake hsettings
  have h₃ := (Adds.portGroups inventory.portGroups).run
    (Performs.forEach fun g => Performs.demands (putPortGroup_eq g)) h₂ hgroups
  have h₄ := (Adds.flatMap Adds.network).run (Performs.forEach Performs.network) h₃ hnetworks
  exact ⟨h₄.rules, h₄.counter⟩

/-- Two hosts forward ports, one of them two ports, which may be listed in either order. -/
theorem translation_rules_relisted :
    let web : Host :=
      { name := "web", ipAddress := "10.1.0.2", forwards := ⟨[(443, 8443), (80, 8080)], by decide⟩ }
    let other : Host := { web with forwards := ⟨[(80, 8080), (443, 8443)], by decide⟩ }
    let mail : Host :=
      { name := "mail", ipAddress := "10.1.0.3", forwards := ⟨[(25, 25)], by decide⟩ }
    let inventory (h : Host) : Inventory :=
      { settings := .ofEntries [("system", .node [("host-name", .scalar (.text "gw"))])],
        networks := [
          { name := "LAN", interface := "eth1", firewall := ⟨"IN", "OUT", "SELF", none⟩,
            subnets := [{ cidr := "10.1.0.0", router := "10.1.0.1", hosts := [h, mail] }] }] }
    (inventory web).Relists (inventory other) ∧ SettingsAvoid "nat" default {} (inventory web) ∧
      ∃ run, generate default {} (inventory web) = .ok run ∧
        generate default {} (inventory other) = .ok run ∧
        (run.tree.get? "nat/destination/rule").map (·.children) = some
          [translationRule default {} 100 (web, 80, 8080),
            translationRule default {} 110 (web, 443, 8443),
            translationRule default {} 120 (mail, 25, 25)] ∧
        run.counters.get? .nat = some ⟨10, some 130⟩ := by
  intro web other mail inventory
  have hweb : web.Relists other := ⟨rfl, .swap _ _ _⟩
  have hmail : mail.Relists mail := ⟨rfl, .refl _⟩
  have hrelists : (inventory web).Relists (inventory other) :=
    ⟨rfl, .cons ⟨rfl, .cons ⟨rfl, .cons hweb (.cons hmail .nil)⟩ .nil⟩ .nil⟩
  obtain ⟨hascending, hrules, hsame⟩ := translation_rules default {} (inventory web)
  have hsorted : web.forwards.sorted = [(80, 8080), (443, 8443)] :=
    Forwards.Ascending.unique ⟨.swap _ _ _, by decide⟩ (hascending _) (.refl _)
  have hsorted' : mail.forwards.sorted = [(25, 25)] :=
    Forwards.Ascending.unique ⟨.refl _, by decide⟩ (hascending _) (.refl _)
  have hports : (inventory web).translations
      = [(web, 80, 8080), (web, 443, 8443), (mail, 25, 25)] := by
    simp [inventory, Inventory.translations, Network.translations, Subnet.translations,
      Host.translations, hsorted, hsorted']
  -- with the ports in order, what is to be checked of the requests can be computed
  have hrequests := Eq.refl (requests default {} (inventory web))
  conv_rhs at hrequests =>
    simp only [requests, inventory, networkRequests, subnetRequests, hostRequests,
      List.flatMap_cons, List.flatMap_nil, hsorted, hsorted']
  have hmeaning : Demand.OneMeaning (demands default {} (inventory web)) := by
    refine .of_plain ?_
    rw [demands, hrequests]
    decide +kernel
  have hok : ∃ run, generate default {} (inventory web) = .ok run := by
    rw [generate_ok_iff rfl hmeaning, demands, hrequests]
    decide +kernel
  have hkeys : ∀ k ∈ ((Definitions.insertTemplate .root (inventory web).settings).after
      (.new default (Settings.policy {}))).paths, ¬ "nat".toList <+: k.toList := by
    decide +kernel
  have havoid : SettingsAvoid "nat" default {} (inventory web) := fun k hk hwithin =>
    hkeys k hk (toList_prefix_of_keyWithin hwithin)
  obtain ⟨run, hrun⟩ := hok
  obtain ⟨hget, hcounter⟩ := hrules run hrun havoid
  rw [hports] at hget hcounter
  refine ⟨hrelists, havoid, run, hrun, (hsame _ hrelists).symm.trans hrun, ?_, ?_⟩
  · rw [hget]
    rfl
  · rw [hcounter]
    decide +kernel

end Generation

end RouterConfig
