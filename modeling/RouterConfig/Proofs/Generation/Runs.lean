/-
RouterConfig.Proofs.Generation.Runs — what a step of a generation run can
alter.

`Touches P x` says of a step that, when it succeeds, the tree has changed
for the paths `P` only, and no sequence of the firewall has moved. All
that a run puts for interfaces, subnets, hosts and forwarded ports is of
this kind, each with its own paths.
-/
import RouterConfig.Generation.Networks
import RouterConfig.Proofs.Definition.Frame
import RouterConfig.Proofs.Generation.Numbers

namespace RouterConfig

namespace Generation

open Definitions

/-! ## 1. Steps of a run -/

/-- An edit that succeeds in a run has changed the tree and no sequence. -/
theorem edit_ok {e : Edit α} {g g' : Generation} {a : α} (h : edit e g = .ok a g') :
    e g.tree = .ok a g'.tree ∧ g'.counters = g.counters := by
  unfold edit at h
  cases he : e g.tree with
  | error cause t =>
    rw [he] at h
    cases h
  | ok b t =>
    rw [he] at h
    cases h
    exact ⟨rfl, rfl⟩

/-- A step that counts leaves the tree. -/
theorem count_ok {e : RuleCounters.Counting α} {g g' : Generation} {a : α}
    (h : count e g = .ok a g') : e g.counters = .ok a g'.counters ∧ g'.tree = g.tree := by
  unfold count at h
  cases he : e g.counters with
  | error cause counters =>
    rw [he] at h
    cases h
  | ok b counters =>
    rw [he] at h
    cases h
    exact ⟨rfl, rfl⟩

/-- A run that succeeds has gone through its inventory. -/
theorem generate_ok {schema : SchemaNode} {settings : Settings} {inventory : Inventory}
    {run : Generation} (h : generate schema settings inventory = .ok run) :
    putInventory settings inventory (start schema settings) = .ok () run := by
  unfold generate at h
  split at h
  case h_1 run' hok =>
    obtain rfl := Except.ok.inj h
    exact hok
  case h_2 => cases h

/-- What holds of the items done so far holds of them all in the end. -/
theorem forEach_ok {I : List α → Generation → Prop} {step : α → Run Unit} (items : List α)
    (hstep : ∀ item ∈ items, ∀ done g g', I done g → step item g = .ok () g' →
      I (done ++ [item]) g')
    {done : List α} {g g' : Generation} (hI : I done g)
    (h : forEach items step g = .ok () g') : I (done ++ items) g' := by
  induction items generalizing done g with
  | nil =>
    cases h
    rwa [List.append_nil]
  | cons item rest ih =>
    obtain ⟨_, u, hitem, hrest⟩ := bind_eq_ok.mp h
    have := ih (fun e he => hstep e (List.mem_cons_of_mem _ he))
      (hstep item List.mem_cons_self done g u hI hitem) hrest
    rwa [List.append_assoc, List.singleton_append] at this

/-- What every step keeps is kept. -/
theorem forEach_keeps {I : Generation → Prop} {step : α → Run Unit} (items : List α)
    (hstep : ∀ item ∈ items, ∀ g g', I g → step item g = .ok () g' → I g')
    {g g' : Generation} (hI : I g) (h : forEach items step g = .ok () g') : I g' :=
  @forEach_ok α (fun _ => I) step items (fun item hitem _ => hstep item hitem) [] g g' hI h

/-! ## 2. The paths that a step is about -/

/-- When the step succeeds, the tree has changed for the paths `P` and no other, and the sequences
of the firewall are as before. -/
def Touches (P : ConfigPath → Prop) (x : Run α) : Prop :=
  ∀ g a g', Indexed g.tree → x g = .ok a g' →
    Changes P g.tree g'.tree ∧ g'.counters.firewall = g.counters.firewall

namespace Touches

variable {P Q : ConfigPath → Prop}

theorem pure (a : α) : Touches P (Pure.pure a : Run α) := by
  intro g b g' _ h
  cases h
  exact ⟨.refl, rfl⟩

/-- Two steps that touch the same paths touch these paths. -/
theorem bind {x : Run α} {f : α → Run β} (hx : Touches P x) (hf : ∀ a, Touches P (f a)) :
    Touches P (x >>= f) := by
  intro g b g' hg h
  obtain ⟨a, u, hxu, hfu⟩ := bind_eq_ok.mp h
  obtain ⟨hchanges, hcounters⟩ := hx g a u hg hxu
  obtain ⟨hchanges', hcounters'⟩ := hf a u b g' (hg.changes hchanges) hfu
  exact ⟨hchanges.trans hchanges', hcounters'.trans hcounters⟩

/-- The state of the run may be looked at on the way. -/
theorem read {f : Generation → Run α} (hf : ∀ g, Touches P (f g)) :
    Touches P (get >>= f) := by
  intro g a g' hg h
  exact hf g g a g' hg h

theorem discard {x : Run α} (hx : Touches P x) : Touches P (discard x) :=
  hx.bind fun _ => .pure ()

/-- An edit touches the paths that it is about. -/
theorem edit {e : Edit α} (he : Keeps P e) : Touches P (edit e) := by
  intro g a g' hg h
  obtain ⟨htree, hcounters⟩ := edit_ok h
  have := he g.tree hg
  rw [Edit.after_ok htree] at this
  exact ⟨this, by rw [hcounters]⟩

theorem put {path : ConfigPath} (hpath : P path) (text : String) : Touches P (put path text) :=
  Touches.edit ((keeps_setValue path _).mono (by rintro _ rfl; exact hpath))

theorem putIfSome {path : ConfigPath} (hpath : P path) (text : Option String) :
    Touches P (putIfSome path text) := by
  cases text with
  | none => exact .pure ()
  | some text => exact put hpath text

theorem putAll {path : ConfigPath} (hpath : P path) (texts : List String) :
    Touches P (putAll path texts) :=
  Touches.edit ((keeps_setValue path _).mono (by rintro _ rfl; exact hpath))

theorem putAny {path : ConfigPath} (hpath : P path) (texts : List String) :
    Touches P (putAny path texts) := by
  unfold Generation.putAny
  split
  · exact .pure ()
  · exact putAll hpath texts

/-- A template touches what is below its path. -/
theorem putTemplate {path : ConfigPath} (hpath : ∀ p, Below path p → P p) (template : Template) :
    Touches P (putTemplate path template) :=
  Touches.edit ((keeps_insertTemplate path template).mono hpath)

/-- A shared text is set at its path, or is there already. -/
theorem putShared {path : ConfigPath} (hpath : P path) (text : String) :
    Touches P (putShared path text) := by
  refine read ?_
  intro g
  dsimp only
  split
  · exact .pure ()
  · exact put hpath text

theorem ensure {path : ConfigPath} (hpath : P path) :
    Touches P (Generation.edit (Definitions.ensure path)) :=
  Touches.edit ((keeps_ensure path).mono (by rintro _ rfl; exact hpath))

/-- Steps that touch these paths do so one after the other. -/
theorem forEach {items : List α} {step : α → Run Unit}
    (h : ∀ item ∈ items, Touches P (step item)) : Touches P (forEach items step) := by
  induction items with
  | nil => exact .pure ()
  | cons item rest ih =>
    exact (h item List.mem_cons_self).bind fun _ =>
      ih fun e he => h e (List.mem_cons_of_mem _ he)

/-- The sequence of address translation is not one of the firewall. -/
theorem next_nat : Touches P (count (RuleCounters.next .nat)) := by
  intro g a g' _ h
  obtain ⟨hcounters, htree⟩ := count_ok h
  obtain ⟨counter, -, -, hput⟩ := RuleCounters.next_ok hcounters
  rw [htree, hput]
  exact ⟨.refl, rfl⟩

theorem make_nat (start step : UInt32) :
    Touches P (count (RuleCounters.make .nat start step)) := by
  intro g a g' _ h
  obtain ⟨hcounters, htree⟩ := count_ok h
  rw [htree]
  rcases RuleCounters.make_ok hcounters with ⟨counter, -, hsame⟩ | ⟨-, -, hput⟩
  · rw [hsame]
    exact ⟨.refl, rfl⟩
  · rw [hput]
    exact ⟨.refl, rfl⟩

end Touches

/-! ## 3. Paths outside the rule sets -/

theorem below_words (path : ConfigPath) (names : List String) : Below path (path.words names) :=
  List.prefix_append _ _

/-- Being within a key can be told by the characters of both. -/
theorem toList_prefix_of_keyWithin {top k : String} (h : KeyWithin top k) :
    top.toList <+: k.toList := by
  rcases h with rfl | ⟨tail, rfl⟩
  · exact List.prefix_refl _
  · exact ⟨"/".toList ++ tail.toList, by simp⟩

/-- The path leads neither to the key nor below it, and is not on the way. -/
def Avoids (top : String) (path : ConfigPath) : Prop :=
  path.isRoot = false ∧ ¬ path.key.toList <+: top.toList ∧ ¬ top.toList <+: path.key.toList

namespace Avoids

variable {top : String} {base path : ConfigPath}

theorem not_within (h : Avoids top path) : ¬ KeyWithin top path.key :=
  fun hwithin => h.2.2 (toList_prefix_of_keyWithin hwithin)

/-- What is below a path that avoids the key avoids it. -/
theorem below (h : Avoids top base) (hp : Below base path) : Avoids top path := by
  have hbase := toList_prefix_of_keyWithin (ConfigPath.keyWithin_of_prefix h.1 hp)
  refine ⟨?_, ?_, ?_⟩
  · have := h.1
    simp only [ConfigPath.isRoot, List.isEmpty_eq_false_iff] at this ⊢
    intro hnil
    exact this (List.prefix_nil.mp (hnil ▸ hp))
  · intro hon
    exact h.2.1 (hbase.trans hon)
  · intro hin
    rcases List.prefix_or_prefix_of_prefix hbase hin with hcase | hcase
    · exact h.2.1 hcase
    · exact h.2.2 hcase

theorem append (h : Avoids top base) (segments : List Segment) :
    Avoids top (base.append segments) := h.below (List.prefix_append _ _)

theorem words (h : Avoids top base) (names : List String) : Avoids top (base.words names) :=
  h.append _

/-- A path that begins with these words avoids a key that they do not lead to or come from. -/
theorem ofWords {words : List String} (hne : words ≠ [])
    (hon : ¬ (Text.join "/" words).toList <+: top.toList)
    (hin : ¬ top.toList <+: (Text.join "/" words).toList) (rest : List Segment) :
    Avoids top (.ofSegments (words.map .fixed ++ rest)) := by
  have hsteps : (ConfigPath.ofSegments (words.map .fixed)).steps =
      words.map fun w => Step.ofSegment (.fixed w) := by
    simp [ConfigPath.ofSegments, ConfigPath.append, ConfigPath.root]
  have hkey : (ConfigPath.ofSegments (words.map .fixed)).key = Text.join "/" words := by
    simp [ConfigPath.key, ConfigPath.literal, hsteps, Function.comp_def, Step.ofSegment,
      Segment.literal]
  have hroot : (ConfigPath.ofSegments (words.map .fixed)).isRoot = false := by
    simp [ConfigPath.isRoot, hsteps, hne]
  have hbase : Avoids top (.ofSegments (words.map .fixed)) := ⟨hroot, by rwa [hkey], by rwa [hkey]⟩
  have hpath : (ConfigPath.ofSegments (words.map .fixed)).append rest =
      .ofSegments (words.map .fixed ++ rest) := by
    simp [ConfigPath.ofSegments, ConfigPath.append, ConfigPath.root]
  rw [← hpath]
  exact hbase.append rest

end Avoids

/-- The key above those of all rule sets of the firewall. -/
def ruleSetsKey : String := "firewall/name"

/-- What a run puts for an interface is apart from the rule sets. -/
theorem interface_avoids (segments : List Segment) :
    Avoids ruleSetsKey (.ofSegments (.fixed "interfaces" :: segments)) :=
  @Avoids.ofWords ruleSetsKey ["interfaces"] (by decide) (by decide) (by decide) segments

/-- What a run puts for a subnet is apart from the rule sets. -/
theorem subnetPath_avoids (network : Network) (s : Subnet) :
    Avoids ruleSetsKey (subnetPath network s) :=
  @Avoids.ofWords ruleSetsKey ["service"] (by decide) (by decide) (by decide) _

/-- So are the rules of address translation. -/
theorem natRulePath_avoids (number : UInt32) : Avoids ruleSetsKey (natRulePath number) :=
  @Avoids.ofWords ruleSetsKey ["nat"] (by decide) (by decide) (by decide) _

/-! ## 4. Steps that stay outside -/

namespace Touches

theorem putPortGroup (g : PortGroup) : Touches (Avoids ruleSetsKey) (putPortGroup g) := by
  have hbase : Avoids ruleSetsKey (.ofSegments
      [.fixed "firewall", .fixed "group", .fixed "port-group", .value g.name]) :=
    @Avoids.ofWords ruleSetsKey ["firewall", "group"] (by decide) (by decide) (by decide) _
  exact (putAll (hbase.words _) _).bind fun _ => putIfSome (hbase.words _) _

/-- A forwarded port has its rule below address translation. -/
theorem putForward (settings : Settings) (h : Host) (forward : UInt16 × UInt16) :
    Touches (Avoids ruleSetsKey) (putForward settings h forward) := by
  refine next_nat.bind ?_
  intro number
  have hrule := natRulePath_avoids number
  exact (put (hrule.words _) _).bind fun _ => (put (hrule.words _) _).bind fun _ =>
    (put (hrule.words _) _).bind fun _ => (put (hrule.words _) _).bind fun _ =>
    (put (hrule.words _) _).bind fun _ => put (hrule.words _) _

theorem putForwards (settings : Settings) (h : Host) :
    Touches (Avoids ruleSetsKey) (putForwards settings h) :=
  forEach fun forward _ => putForward settings h forward

theorem putRange {base : ConfigPath} (hbase : Avoids ruleSetsKey base) (r : Option AddressRange) :
    Touches (Avoids ruleSetsKey) (putRange base r) := by
  cases r with
  | none => exact .pure ()
  | some r =>
    have hrange := hbase.append [.fixed "range", .value "0"]
    exact (put (hrange.words _) _).bind fun _ => put (hrange.words _) _

/-- An interface names its rule sets, and leaves them alone. -/
theorem attachRuleSet {interface : ConfigPath} (h : Avoids ruleSetsKey interface)
    (entry : Direction × String) : Touches (Avoids ruleSetsKey) (attachRuleSet interface entry) :=
  put (h.words _) _

end Touches

end Generation

end RouterConfig
