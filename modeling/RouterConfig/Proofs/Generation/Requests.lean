/-
RouterConfig.Proofs.Generation.Requests — a run as a list of what it asks
for.

A run does four things: it asks for a definition, it asks for the default
action of a rule set unless that is there, it makes a sequence of numbers,
and it takes a number for a rule. `requests` lists them for a whole
inventory, without a tree or a number, and a run is nothing but this list
gone through in order (`putInventory_eq`). So what can be said of runs is
said of lists.
-/
import RouterConfig.Proofs.Definition.Demands
import RouterConfig.Proofs.Generation.Blocks
import RouterConfig.Proofs.Generation.Progress
import RouterConfig.Proofs.Generation.Strict

namespace RouterConfig

namespace Generation

open Definitions

/-! ## 1. Demands in a run -/

/-- Goes through demands in order. -/
def demandAll (ds : List Demand) : Run Unit := forEach ds fun d => edit d.edit

/-- Lists one after the other are gone through one after the other. -/
theorem forEach_append (xs ys : List α) (step : α → Run Unit) :
    forEach (xs ++ ys) step = (do forEach xs step; forEach ys step) := by
  induction xs with
  | nil => exact (pure_bind () fun _ => forEach ys step).symm
  | cons x xs ih =>
    simp only [List.cons_append, forEach, ih, bind_assoc]

theorem forEach_singleton (x : α) (step : α → Run Unit) : forEach [x] step = step x :=
  bind_pure_unit

theorem forEach_map (f : α → β) (xs : List α) (step : β → Run Unit) :
    forEach (xs.map f) step = forEach xs fun x => step (f x) := by
  induction xs with
  | nil => rfl
  | cons x xs ih => simp only [List.map_cons, forEach, ih]

theorem demandAll_cons (d : Demand) (ds : List Demand) :
    demandAll (d :: ds) = (do edit d.edit; demandAll ds) := rfl

/-- Demands may be gone through in two parts. -/
theorem demandAll_append (ds es : List Demand) :
    demandAll (ds ++ es) = (do demandAll ds; demandAll es) := forEach_append _ _ _

theorem demandAll_singleton (d : Demand) : demandAll [d] = edit d.edit := forEach_singleton _ _

/-- A text that is wanted at a path. -/
def demandText (path : ConfigPath) (text : String) : Demand := ⟨path, .single text⟩

/-- A text that is wanted at a path, if there is one. -/
def demandIfSome (path : ConfigPath) (text : Option String) : List Demand :=
  text.toList.map (demandText path)

/-- Texts that are wanted at a path, if there are any. -/
def demandAny (path : ConfigPath) (texts : List String) : List Demand :=
  if texts.isEmpty then [] else [⟨path, .multi texts⟩]

theorem put_eq (path : ConfigPath) (text : String) :
    put path text = demandAll [demandText path text] :=
  (demandAll_singleton (demandText path text)).symm

theorem putAll_eq (path : ConfigPath) (texts : List String) :
    putAll path texts = demandAll [⟨path, .multi texts⟩] :=
  (demandAll_singleton ⟨path, .multi texts⟩).symm

/-- A text that may be missing is one demand or none. -/
theorem putIfSome_eq (path : ConfigPath) (text : Option String) :
    putIfSome path text = demandAll (demandIfSome path text) := by
  cases text with
  | none => rfl
  | some text => exact put_eq path text

theorem putAny_eq (path : ConfigPath) (texts : List String) :
    putAny path texts = demandAll (demandAny path texts) := by
  unfold putAny demandAny
  split
  · rfl
  · exact putAll_eq path texts

/-- To make a definition is to demand it without a value. -/
theorem ensure_eq (path : ConfigPath) :
    discard (edit (Definitions.ensure path)) = demandAll [{ path }] := by
  rw [demandAll_singleton, ← edit_discard]
  rfl

/-! ## 2. What the parts of an inventory demand -/

/-- A port group. -/
def portGroupDemands (g : PortGroup) : List Demand :=
  let base : ConfigPath :=
    .ofSegments [.fixed "firewall", .fixed "group", .fixed "port-group", .value g.name]
  [⟨base.words ["port"], .multi (g.ports.map Scalar.render)⟩] ++
    demandIfSome (base.words ["description"]) g.description

/-- One end of a connection. -/
def endpointDemands (rule : ConfigPath) (word : String) : Option Endpoint → List Demand
  | none => []
  | some e =>
    let base := rule.words [word]
    demandIfSome (base.words ["address"]) e.address ++
      (demandIfSome (base.words ["port"]) (e.port.map Scalar.render) ++
        demandIfSome (base.words ["group", "port-group"]) e.portGroup)

/-- A connection, below its rule. -/
def connectionDemands (rule : ConfigPath) (c : Connection) : List Demand :=
  [demandText (rule.words ["action"]) c.action] ++
    ([demandText (rule.words ["protocol"]) c.protocol] ++
    ([demandText (rule.words ["log"]) c.logValue] ++
    (demandIfSome (rule.words ["description"]) c.description ++
    (endpointDemands rule "source" c.source ++
      endpointDemands rule "destination" c.destination))))

/-- A forwarded port of a host, below its rule. -/
def forwardDemands (settings : Settings) (h : Host) (forward : UInt16 × UInt16)
    (rule : ConfigPath) : List Demand :=
  let outside := Text.ofNat forward.1.toNat
  let inside := Text.ofNat forward.2.toNat
  [demandText (rule.words ["description"])
      (h.name ++ " port " ++ outside ++ " to " ++ inside)] ++
    ([demandText (rule.words ["inbound-interface"]) settings.nat.inboundInterface] ++
    ([demandText (rule.words ["protocol"]) "tcp_udp"] ++
    ([demandText (rule.words ["destination", "port"]) outside] ++
    ([demandText (rule.words ["translation", "address"]) h.ipAddress] ++
      [demandText (rule.words ["translation", "port"]) inside]))))

mutual

/-- What stands under one name of a template. -/
def entryDemands (schema : SchemaNode) (path : ConfigPath) : TemplateValue → List Demand
  | .scalar scalar => [⟨path, .single scalar.render⟩]
  | .list items => [⟨path, .multi (items.map Scalar.render)⟩]
  | .node entries => { path } :: entriesDemands schema path entries
  | .presence => [{ path }]

/-- The entries of a template below a path. -/
def entriesDemands (schema : SchemaNode) (above : ConfigPath) : TemplateEntries → List Demand
  | [] => []
  | (name, value) :: rest =>
    entryDemands schema (entryPath schema above name) value ++ entriesDemands schema above rest

end

/-- The address mapping of a host. -/
def mappingDemands (schema : SchemaNode) (mapping : ConfigPath) (h : Host) : List Demand :=
  [demandText (mapping.words ["ip-address"]) h.ipAddress] ++
    (demandIfSome (mapping.words ["mac-address"]) h.macAddress ++
      entriesDemands schema mapping h.extra.entries)

/-- A range of addresses to lease. -/
def rangeDemands (base : ConfigPath) : Option AddressRange → List Demand
  | none => []
  | some r =>
    let range := base.append [.fixed "range", .value "0"]
    [demandText (range.words ["start"]) r.start] ++ [demandText (range.words ["stop"]) r.stop]

/-- A subnet without its hosts. -/
def subnetDemands (schema : SchemaNode) (base : ConfigPath) (s : Subnet) : List Demand :=
  [{ path := base }] ++
    ([demandText (base.words ["default-router"]) s.router] ++
    (demandAny (base.words ["dns-server"]) s.dnsServers ++
    (demandIfSome (base.words ["domain-name"]) s.domainName ++
    (demandIfSome (base.words ["lease"]) (s.lease.map fun n => Text.ofNat n.toNat) ++
    (rangeDemands base s.range ++
      entriesDemands schema base s.extra.entries)))))

/-- An interface with its rule sets. -/
def interfaceDemands (schema : SchemaNode) (interface : ConfigPath) (network : Network) :
    List Demand :=
  [{ path := interface }] ++
    (demandIfSome (interface.words ["description"]) network.description ++
    (demandAny (interface.words ["address"]) (network.subnets.map Subnet.interfaceAddress) ++
    ((network.firewall.all.map fun entry =>
        demandText (interface.words ["firewall", entry.1.keyword, "name"]) entry.2) ++
      entriesDemands schema interface network.extra.entries)))

/-- A port group is put by going through its demands. -/
theorem putPortGroup_eq (g : PortGroup) : putPortGroup g = demandAll (portGroupDemands g) := by
  simp only [putPortGroup, portGroupDemands, demandAll_append, putAll_eq, putIfSome_eq]

/-- So is an end of a connection. -/
theorem putEndpoint_eq (rule : ConfigPath) (word : String) (e : Option Endpoint) :
    putEndpoint rule word e = demandAll (endpointDemands rule word e) := by
  cases e with
  | none => rfl
  | some e => simp only [putEndpoint, endpointDemands, demandAll_append, putIfSome_eq]

/-- So is a connection. -/
theorem putRule_eq (rule : ConfigPath) (c : Connection) :
    putRule rule c = demandAll (connectionDemands rule c) := by
  simp only [putRule, connectionDemands, demandAll_append, put_eq, putIfSome_eq, putEndpoint_eq]

theorem putRange_eq (base : ConfigPath) (r : Option AddressRange) :
    putRange base r = demandAll (rangeDemands base r) := by
  cases r with
  | none => rfl
  | some r => simp only [putRange, rangeDemands, demandAll_append, put_eq]

theorem putTranslation_eq (settings : Settings) (h : Host) (forward : UInt16 × UInt16)
    (rule : ConfigPath) : putTranslation settings h forward rule =
      demandAll (forwardDemands settings h forward rule) := by
  simp only [putTranslation, forwardDemands, demandAll_append, put_eq]

mutual

/-- An entry of a template is inserted by going through its demands. -/
theorem insertEntry_eq (schema : SchemaNode) (path : ConfigPath) : (value : TemplateValue) →
    edit (insertEntry schema path value) = demandAll (entryDemands schema path value)
  | .scalar _ => (demandAll_singleton ⟨path, .single _⟩).symm
  | .list _ => (demandAll_singleton ⟨path, .multi _⟩).symm
  | .node entries => by
    rw [insertEntry, edit_bind, edit_discard, ensure_eq, demandAll_singleton, entryDemands,
      demandAll_cons]
    simp only [insertEntries_eq schema path entries]
  | .presence => by
    rw [insertEntry, edit_discard, ensure_eq, entryDemands]

theorem insertEntries_eq (schema : SchemaNode) (above : ConfigPath) :
    (entries : TemplateEntries) →
    edit (insertEntries schema above entries) = demandAll (entriesDemands schema above entries)
  | [] => rfl
  | (name, value) :: rest => by
    rw [insertEntries, edit_bind, insertEntry_eq schema _ value, entriesDemands, demandAll_append]
    simp only [insertEntries_eq schema above rest]

end

/-! ## 3. Where demands are -/

/-- All demands are at or below the path. -/
def AllBelow (base : ConfigPath) (ds : List Demand) : Prop := ∀ d ∈ ds, Below base d.path

namespace AllBelow

variable {base : ConfigPath} {ds es : List Demand}

theorem append (hd : AllBelow base ds) (he : AllBelow base es) : AllBelow base (ds ++ es) :=
  List.forall_mem_append.mpr ⟨hd, he⟩

theorem single {d : Demand} (h : Below base d.path) : AllBelow base [d] := by
  rintro e he
  obtain rfl := List.mem_singleton.mp he
  exact h

/-- A text that may be missing is below the path where it would be. -/
theorem ifSome {path : ConfigPath} (h : Below base path) (text : Option String) :
    AllBelow base (demandIfSome path text) := by
  intro d hd
  obtain ⟨text, -, rfl⟩ := List.mem_map.mp hd
  exact h

theorem any {path : ConfigPath} (h : Below base path) (texts : List String) :
    AllBelow base (demandAny path texts) := by
  unfold demandAny
  split
  · exact fun _ hd => absurd hd List.not_mem_nil
  · exact single h

mutual

/-- The entries of a template stay below the path where the template is put. -/
theorem entry (schema : SchemaNode) (path : ConfigPath) : (value : TemplateValue) →
    AllBelow path (entryDemands schema path value)
  | .scalar _ => single (below_of_eq rfl)
  | .list _ => single (below_of_eq rfl)
  | .node values => append (single (below_of_eq rfl)) (entries schema path values)
  | .presence => single (below_of_eq rfl)

theorem entries (schema : SchemaNode) (above : ConfigPath) : (entries : TemplateEntries) →
    AllBelow above (entriesDemands schema above entries)
  | [] => fun _ hd => absurd hd List.not_mem_nil
  | (name, value) :: rest =>
    append (fun _ hd => below_entryPath schema above name (entry schema _ value _ hd))
      (entries schema above rest)

end

theorem endpoint (rule : ConfigPath) (word : String) (e : Option Endpoint) :
    AllBelow rule (endpointDemands rule word e) := by
  have hbase : ∀ words, Below rule ((rule.words [word]).words words) := fun words =>
    (below_words rule [word]).trans (below_words _ words)
  cases e with
  | none => exact fun _ hd => absurd hd List.not_mem_nil
  | some e => exact (ifSome (hbase _) _).append ((ifSome (hbase _) _).append (ifSome (hbase _) _))

theorem connection (rule : ConfigPath) (c : Connection) :
    AllBelow rule (connectionDemands rule c) :=
  have hword := below_words rule
  (single (hword _)).append ((single (hword _)).append ((single (hword _)).append
    ((ifSome (hword _) _).append ((endpoint rule _ _).append (endpoint rule _ _)))))

theorem mapping (schema : SchemaNode) (mapping : ConfigPath) (h : Host) :
    AllBelow mapping (mappingDemands schema mapping h) :=
  have hword := below_words mapping
  (single (hword _)).append ((ifSome (hword _) _).append (entries schema mapping _))

theorem range (base : ConfigPath) (r : Option AddressRange) :
    AllBelow base (rangeDemands base r) := by
  cases r with
  | none => exact fun _ hd => absurd hd List.not_mem_nil
  | some r =>
    have hword : ∀ words, Below base ((base.append [.fixed "range", .value "0"]).words words) :=
      fun words => (List.prefix_append _ _).trans (below_words _ words)
    exact (single (hword _)).append (single (hword _))

theorem subnet (schema : SchemaNode) (base : ConfigPath) (s : Subnet) :
    AllBelow base (subnetDemands schema base s) :=
  have hword := below_words base
  (single (below_of_eq rfl)).append ((single (hword _)).append ((any (hword _) _).append
    ((ifSome (hword _) _).append ((ifSome (hword _) _).append
      ((range base _).append (entries schema base _))))))

/-- An interface names its rule sets below its own path. -/
theorem interface (schema : SchemaNode) (interface : ConfigPath) (network : Network) :
    AllBelow interface (interfaceDemands schema interface network) := by
  have hword := below_words interface
  have hsets : AllBelow interface (network.firewall.all.map fun entry =>
      demandText (interface.words ["firewall", entry.1.keyword, "name"]) entry.2) := by
    intro d hd
    obtain ⟨entry, -, rfl⟩ := List.mem_map.mp hd
    exact hword _
  exact (single (below_of_eq rfl)).append ((ifSome (hword _) _).append ((any (hword _) _).append
    (hsets.append (entries schema interface _))))

/-- Port groups stand below the word of the firewall, beside its rule sets. -/
theorem portGroup (g : PortGroup) : AllBelow (.ofSegments [.fixed "firewall"])
    (portGroupDemands g) := by
  have hword : ∀ words, Below (.ofSegments [.fixed "firewall"]) ((ConfigPath.ofSegments
      [.fixed "firewall", .fixed "group", .fixed "port-group", .value g.name]).words words) :=
    fun words => List.IsPrefix.trans ⟨_, rfl⟩ (below_words _ words)
  exact (single (hword _)).append (ifSome (hword _) _)

end AllBelow

/-! ## 4. Requests -/

/-- One thing that a run does. -/
inductive Request where
  /-- Gives a rule set a sequence of numbers, unless it has one. -/
  | sequence (name : RuleSet)
  | demand (d : Demand)
  /-- Demands a default action of a rule set, unless that is its default action. -/
  | action (name text : String)
  /-- Takes the next number of a rule set, and demands what belongs to the rule of this number. -/
  | rule (name : RuleSet) (demands : UInt32 → List Demand)

/-- Where the default action of a rule set stands. -/
def actionPath (name : String) : ConfigPath := (ruleSetPath name).words ["default-action"]

namespace Request

/-- The step of a run that a request is. -/
def perform (settings : Settings) : Request → Run Unit
  | .sequence name => discard (count (RuleCounters.make name (settings.numbers name).ruleStart
      (settings.numbers name).ruleStep))
  | .demand d => Generation.edit d.edit
  | .action name text => putShared (actionPath name) text
  | .rule name demands => do
    let number ← count (RuleCounters.next name)
    demandAll (demands number)

/-- The rule sets that get sequences. -/
def makes : Request → List RuleSet
  | .sequence name => [name]
  | .demand _ | .action _ _ | .rule _ _ => []

/-- The rule sets that numbers are taken from. -/
def takes : Request → List RuleSet
  | .rule name _ => [name]
  | .sequence _ | .demand _ | .action _ _ => []

/-- What is demanded after numbers have been taken from these rule sets. -/
def demands (settings : Settings) (taken : List RuleSet) : Request → List Demand
  | .sequence _ => []
  | .demand d => [d]
  | .action name text => [demandText (actionPath name) text]
  | .rule name demands => demands (UInt32.ofNat (settings.ruleNumber name (taken.count name)))

end Request

/-- Goes through requests in order. -/
def performAll (settings : Settings) (rs : List Request) : Run Unit :=
  forEach rs (Request.perform settings)

theorem performAll_append (settings : Settings) (rs rs' : List Request) :
    performAll settings (rs ++ rs') = (do performAll settings rs; performAll settings rs') :=
  forEach_append _ _ _

/-- A host: its address mapping, and a rule for each connection and each forwarded port. -/
def hostRequests (schema : SchemaNode) (settings : Settings) (network : Network)
    (subnet : ConfigPath) (h : Host) : List Request :=
  (mappingDemands schema (subnet.append [.fixed "static-mapping", .value h.name]) h).map .demand ++
  ((h.connections.map fun c => .rule (.firewall (network.firewall.name c.direction))
      fun number => connectionDemands (rulePath (network.firewall.name c.direction) number) c) ++
    h.forwards.sorted.map fun forward => .rule .nat
      fun number => forwardDemands settings h forward (natRulePath number))

/-- A subnet with its hosts. -/
def subnetRequests (schema : SchemaNode) (settings : Settings) (network : Network) (s : Subnet) :
    List Request :=
  (subnetDemands schema (subnetPath network s) s).map .demand ++
    s.hosts.flatMap (hostRequests schema settings network (subnetPath network s))

/-- The default actions of rule sets. -/
def actionRequests (names : RuleSetNames) : List Request :=
  match names.defaultAction with
  | none => []
  | some action => names.all.map fun entry => .action entry.2 action

/-- A network: sequences for its rule sets, its interface, their default actions, its subnets. -/
def networkRequests (schema : SchemaNode) (settings : Settings) (network : Network) :
    List Request :=
  (network.firewall.all.map fun entry => .sequence (.firewall entry.2)) ++
  ((interfaceDemands schema (.ofSegments
      [.fixed "interfaces", .fixed "ethernet", .value network.interface]) network).map .demand ++
  (actionRequests network.firewall ++
    network.subnets.flatMap (subnetRequests schema settings network)))

/-- All that an inventory asks for. -/
def requests (schema : SchemaNode) (settings : Settings) (inventory : Inventory) : List Request :=
  [.sequence .nat] ++
    ((entriesDemands schema .root inventory.settings.entries).map .demand ++
    (inventory.portGroups.flatMap (fun g => (portGroupDemands g).map .demand) ++
      inventory.networks.flatMap (networkRequests schema settings)))

/-- What requests demand, in order, after numbers have been taken from these rule sets. -/
def demandsFrom (settings : Settings) (taken : List RuleSet) : List Request → List Demand
  | [] => []
  | r :: rest => r.demands settings taken ++ demandsFrom settings (taken ++ r.takes) rest

/-- All that an inventory demands of the tree, in order, each rule with its number. -/
def demands (schema : SchemaNode) (settings : Settings) (inventory : Inventory) : List Demand :=
  demandsFrom settings [] (requests schema settings inventory)

/-! ## 5. A run goes through its requests -/

/-- On a tree of the grammar the step goes through the requests. -/
def Performs (schema : SchemaNode) (settings : Settings) (x : Run Unit) (rs : List Request) :
    Prop :=
  ∀ g, Indexed g.tree → g.tree.schema = schema → x g = performAll settings rs g

variable {schema : SchemaNode} {settings : Settings}

/-- A request changes the tree, and does nothing else to it. -/
theorem Request.changes_perform {r : Request} {g g' : Generation} (hg : Indexed g.tree)
    (hok : r.perform settings g = .ok () g') : Changes (fun _ => True) g.tree g'.tree := by
  have hdemand : ∀ (d : Demand) {g g' : Generation}, Indexed g.tree →
      Generation.edit d.edit g = .ok () g' → Changes (fun _ => True) g.tree g'.tree := by
    intro d g g' hg hok
    exact ((keeps_demand d).changes hg (edit_ok hok).1).mono fun _ _ => trivial
  cases r with
  | sequence name =>
    obtain ⟨_, u, hcount, hpure⟩ := bind_eq_ok.mp hok
    cases hpure
    rw [(count_ok hcount).2]
  | demand d => exact hdemand d hg hok
  | action name text =>
    rw [perform, putShared_apply] at hok
    split at hok
    · cases hok
      exact .refl
    · exact hdemand (demandText (actionPath name) text) hg hok
  | rule name demands =>
    obtain ⟨number, u, hcount, hrest⟩ := bind_eq_ok.mp hok
    have htree := (count_ok hcount).2
    have hnone : Changes (fun _ => True) g.tree u.tree := by rw [htree]
    refine forEach_keeps (I := fun g' => Changes (fun _ => True) g.tree g'.tree)
      (demands number) ?_ hnone hrest
    intro d _ v v' hv hstep
    exact hv.trans (hdemand d (hg.changes hv) hstep)

/-- Requests one after the other change the tree, and do nothing else to it. -/
theorem changes_performAll {rs : List Request} {g g' : Generation} (hg : Indexed g.tree)
    (hok : performAll settings rs g = .ok () g') : Changes (fun _ => True) g.tree g'.tree := by
  have hnone : Changes (fun _ => True) g.tree g.tree := .refl
  refine forEach_keeps (I := fun g' => Changes (fun _ => True) g.tree g'.tree) rs ?_ hnone hok
  intro r _ v v' hv hstep
  exact hv.trans (r.changes_perform (hg.changes hv) hstep)

namespace Performs

theorem pure : Performs schema settings (Pure.pure ()) [] := fun _ _ _ => rfl

/-- Two steps go through the requests of the first and then those of the second. The tree in between
is one of the same grammar. -/
theorem bind {x y : Run Unit} {rs rs' : List Request} (hx : Performs schema settings x rs)
    (hy : Performs schema settings y rs') :
    Performs schema settings (do x; y) (rs ++ rs') := by
  intro g hg hschema
  rw [performAll_append]
  have hfirst := hx g hg hschema
  cases hrun : x g with
  | error cause u => rw [bind_of_error hrun, bind_of_error (hfirst.symm.trans hrun)]
  | ok a u =>
    have hrun' := hfirst.symm.trans hrun
    have hchanges := changes_performAll hg hrun'
    rw [bind_of_ok hrun, bind_of_ok hrun']
    exact hy u (hg.changes hchanges) (hchanges.schema_eq.trans hschema)

/-- Items one after the other go through the requests of each. -/
theorem forEach {items : List α} {step : α → Run Unit} {rs : α → List Request}
    (h : ∀ item, Performs schema settings (step item) (rs item)) :
    Performs schema settings (forEach items step) (items.flatMap rs) := by
  induction items with
  | nil => exact pure
  | cons item rest ih => exact (h item).bind ih

/-- A step that goes through demands goes through them as requests. -/
theorem demands {x : Run Unit} {ds : List Demand} (h : x = demandAll ds) :
    Performs schema settings x (ds.map .demand) := by
  intro g _ _
  rw [h, performAll, forEach_map]
  rfl

theorem request (r : Request) : Performs schema settings (r.perform settings) [r] := by
  intro g _ _
  rw [performAll, forEach_singleton]

/-- A template is read by the grammar of the tree. -/
theorem template (path : ConfigPath) (template : Template) :
    Performs schema settings (putTemplate path template)
      ((entriesDemands schema path template.entries).map .demand) := by
  intro g hg hschema
  have hput : putTemplate path template g =
      edit (insertEntries schema path template.entries) g := by rw [← hschema]; rfl
  rw [hput]
  exact demands (insertEntries_eq schema path template.entries) g hg hschema

theorem mapping (mapping : ConfigPath) (h : Host) : Performs schema settings (putMapping mapping h)
    ((mappingDemands schema mapping h).map .demand) := by
  simp only [mappingDemands, List.map_append]
  exact (demands (put_eq _ _)).bind ((demands (putIfSome_eq _ _)).bind (template mapping h.extra))

/-- A host takes the numbers of its rules as it comes to them. -/
theorem host (network : Network) (subnet : ConfigPath) (h : Host) :
    Performs schema settings (putHost settings network subnet h)
      (hostRequests schema settings network subnet h) := by
  rw [putHost_eq, hostRequests]
  refine (mapping _ h).bind (bind ?_ ?_)
  · rw [List.map_eq_flatMap]
    refine forEach fun c => ?_
    have hrule : Performs schema settings _ [.rule (.firewall (network.firewall.name c.direction))
        fun number => connectionDemands
          (rulePath (network.firewall.name c.direction) number) c] := request _
    simp only [Request.perform, ← putRule_eq] at hrule
    exact hrule
  · rw [List.map_eq_flatMap]
    refine forEach fun forward => ?_
    have hrule : Performs schema settings _ [.rule .nat
        fun number => forwardDemands settings h forward (natRulePath number)] := request _
    simp only [Request.perform, ← putTranslation_eq] at hrule
    exact hrule

theorem subnet (network : Network) (s : Subnet) :
    Performs schema settings (putSubnet settings network s)
      (subnetRequests schema settings network s) := by
  rw [putSubnet_eq, subnetRequests]
  refine bind ?_ (forEach fun h => host network _ h)
  simp only [subnetDemands, List.map_append]
  exact (demands (ensure_eq _)).bind ((demands (put_eq _ _)).bind
    ((demands (putAny_eq _ _)).bind ((demands (putIfSome_eq _ _)).bind
    ((demands (putIfSome_eq _ _)).bind ((demands (putRange_eq _ _)).bind (template _ s.extra))))))

/-- A default action is asked for once for each rule set of the network. -/
theorem actions (names : RuleSetNames) :
    Performs schema settings (putDefaultAction names) (actionRequests names) := by
  unfold putDefaultAction actionRequests
  cases names.defaultAction with
  | none => exact pure
  | some action =>
    simp only [List.map_eq_flatMap]
    exact forEach fun entry => request (.action entry.2 action)

theorem interface (path : ConfigPath) (network : Network) :
    Performs schema settings (putInterface path network)
      ((interfaceDemands schema path network).map .demand) := by
  simp only [interfaceDemands, List.map_append]
  refine (demands (ensure_eq _)).bind ((demands (putIfSome_eq _ _)).bind
    ((demands (putAny_eq _ _)).bind (bind ?_ (template path network.extra))))
  rw [List.map_map, List.map_eq_flatMap]
  exact forEach fun entry => demands (put_eq _ _)

/-- A network makes its sequences before it needs them. -/
theorem network (network : Network) : Performs schema settings (putNetwork settings network)
    (networkRequests schema settings network) := by
  rw [putNetwork_eq, networkRequests, List.map_eq_flatMap]
  exact (forEach fun (entry : Direction × String) => request (.sequence (.firewall entry.2))).bind
    ((interface _ network).bind ((actions network.firewall).bind
      (forEach fun s => subnet network s)))

theorem inventory (inventory : Inventory) :
    Performs schema settings (putInventory settings inventory)
      (requests schema settings inventory) :=
  (request (.sequence .nat)).bind ((template .root inventory.settings).bind
    ((forEach fun g => demands (putPortGroup_eq g)).bind (forEach network)))

end Performs

/-- **A run with an inventory goes through the requests of the inventory, in order, and does nothing
else.** -/
theorem putInventory_eq (schema : SchemaNode) (settings : Settings) (inventory : Inventory) :
    putInventory settings inventory (start schema settings) =
      performAll settings (requests schema settings inventory) (start schema settings) :=
  Performs.inventory inventory _ (indexed_new schema settings.policy) rfl

end Generation

end RouterConfig
