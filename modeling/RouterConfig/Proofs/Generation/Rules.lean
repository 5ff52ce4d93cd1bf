/-
RouterConfig.Proofs.Generation.Rules — what a connection leaves in its rule
set.

`ruleDefinition` is the rule of a number and a connection with all below
it, and `rulesDefinition` is what stands under the rules of a rule set.
A run puts the parts of a rule one after the other; `Draft` says how far
it has come, and `putRule_draft` that it comes to the whole rule.
-/
import RouterConfig.Proofs.Definition.Graft
import RouterConfig.Proofs.Generation.Runs

namespace RouterConfig

namespace Generation

open Definitions Definition

/-! ## 1. The rules of a rule set -/

/-- The path of the rules of a rule set. -/
def rulesPath (name : String) : ConfigPath := (ruleSetPath name).append [.fixed "rule"]

/-- The path of the rule of a number. -/
def numberPath (name : String) (number : Nat) : ConfigPath :=
  (rulesPath name).append [.value (Text.ofNat number)]

theorem rulePath_eq (name : String) (number : UInt32) :
    rulePath name number = numberPath name number.toNat := rfl

/-- A definition with one text as its value. -/
def leaf (schema : SchemaNode) (above : ConfigPath) (name text : String) : Definition :=
  { bound schema above (.fixed name) with value := .single text }

/-- What one end of a connection leaves below its word. -/
def endpointLeaves (schema : SchemaNode) (base : ConfigPath) (e : Endpoint) : List Definition :=
  (e.address.map (leaf schema base "address")).toList
    ++ (e.port.map fun port => leaf schema base "port" port.render).toList
    ++ (e.portGroup.map fun group =>
      (bound schema base (.fixed "group")).withChildren
        [leaf schema (base.words ["group"]) "port-group" group]).toList

/-- One end of a connection, if it demands anything. -/
def endpointDefinition (schema : SchemaNode) (rule : ConfigPath) (word : String)
    (e : Option Endpoint) : Option Definition :=
  (bound schema rule (.fixed word)).holding
    (e.elim [] (endpointLeaves schema (rule.words [word])))

/-- What a connection leaves below its rule. -/
def ruleLeaves (schema : SchemaNode) (rule : ConfigPath) (c : Connection) : List Definition :=
  [leaf schema rule "action" (if c.allow then "accept" else "drop"),
      leaf schema rule "protocol" c.protocol,
      leaf schema rule "log" (if c.log then "enable" else "disable")]
    ++ (c.description.map (leaf schema rule "description")).toList
    ++ (endpointDefinition schema rule "source" c.source).toList
    ++ (endpointDefinition schema rule "destination" c.destination).toList

/-- A rule without anything below it. -/
def emptyRule (schema : SchemaNode) (name : String) (number : Nat) : Definition :=
  bound schema (rulesPath name) (.value (Text.ofNat number))

/-- The rule of a number for a connection. -/
def ruleDefinition (schema : SchemaNode) (name : String) (number : Nat) (c : Connection) :
    Definition :=
  (emptyRule schema name number).withChildren (ruleLeaves schema (numberPath name number) c)

/-- The rules for connections, numbered from `start` by `step`. -/
def numberedRules (schema : SchemaNode) (name : String) (start step : UInt32)
    (cs : List Connection) : List Definition :=
  cs.mapIdx fun i c => ruleDefinition schema name (start.toNat + i * step.toNat) c

/-- What stands under the rules of a rule set, if there are any. -/
def rulesDefinition (schema : SchemaNode) (name : String) (rules : List Definition) :
    Option Definition :=
  (bound schema (ruleSetPath name) (.fixed "rule")).holding rules

theorem name_ruleDefinition (schema : SchemaNode) (name : String) (number : Nat) (c : Connection) :
    (ruleDefinition schema name number c).name = Text.ofNat number := rfl

/-- Every connection leaves something below its rule. -/
theorem emptyRule_holding (schema : SchemaNode) (name : String) (number : Nat) (c : Connection) :
    (emptyRule schema name number).holding (ruleLeaves schema (numberPath name number) c)
      = some (ruleDefinition schema name number c) :=
  holding_of_ne_nil (by simp [ruleLeaves])

section Numbered

variable (schema : SchemaNode) (name : String) (start step : UInt32) (cs : List Connection)

theorem numberedRules_concat (c : Connection) :
    numberedRules schema name start step (cs ++ [c]) = numberedRules schema name start step cs
      ++ [ruleDefinition schema name (start.toNat + cs.length * step.toNat) c] := by
  rw [numberedRules, List.mapIdx_concat]
  rfl

/-- The number after those of the rules is the number of none of them. -/
theorem numberedRules_fresh (hstep : step ≠ 0) :
    ∀ d ∈ numberedRules schema name start step cs,
      d.name ≠ Text.ofNat (start.toNat + cs.length * step.toNat) := by
  intro d hd hname
  obtain ⟨i, hi, rfl⟩ := List.mem_mapIdx.mp hd
  rw [name_ruleDefinition] at hname
  have hmul := Nat.add_left_cancel (Text.ofNat_injective hname)
  have hpos : 0 < step.toNat := Nat.pos_of_ne_zero fun h => hstep (UInt32.toNat_inj.mp h)
  have := Nat.eq_of_mul_eq_mul_right hpos hmul
  omega

end Numbered

/-! ## 2. Paths of rules -/

theorem segment_ofSegment_fixed (name : String) :
    (Step.ofSegment (.fixed name)).segment = .fixed name := by
  simp [Step.segment, Step.isValue, Step.ofSegment, Segment.literal, Segment.schema]

theorem segment_ofSegment_number (number : Nat) :
    (Step.ofSegment (.value (Text.ofNat number))).segment = .value (Text.ofNat number) := by
  have := Text.ofNat_ne_placeholder number
  simp [Step.segment, Step.isValue, Step.ofSegment, Segment.literal, Segment.schema, this]

theorem key_ruleSetPath (name : String) :
    (ruleSetPath name).key = ruleSetsKey ++ "/" ++ name := by
  have hsnoc : ruleSetPath name
      = (ConfigPath.ofSegments [.fixed "firewall", .fixed "name"]).snoc
        (Step.ofSegment (.value name)) := rfl
  rw [hsnoc, ConfigPath.key_snoc rfl]
  rfl

theorem key_rulesPath (name : String) :
    (rulesPath name).key = ruleSetsKey ++ "/" ++ name ++ "/rule" := by
  have hsnoc : rulesPath name = (ruleSetPath name).snoc (Step.ofSegment (.fixed "rule")) := rfl
  rw [hsnoc, ConfigPath.key_snoc rfl, key_ruleSetPath, String.append_assoc]
  rfl

theorem keyWithin_ruleSetPath (name : String) : KeyWithin ruleSetsKey (ruleSetPath name).key := by
  rw [key_ruleSetPath]
  exact KeyWithin.child _ _

theorem slash_not_mem_ruleSetPath {name : String} (hname : '/' ∉ name.toList)
    {segments : List Segment} (hsegments : ∀ seg ∈ segments, '/' ∉ seg.literal.toList) :
    ∀ s ∈ ((ruleSetPath name).append segments).steps, '/' ∉ s.literal.toList := by
  have hsteps : ((ruleSetPath name).append segments).steps
      = [Step.ofSegment (.fixed "firewall"), Step.ofSegment (.fixed "name"),
          Step.ofSegment (.value name)] ++ segments.map Step.ofSegment := rfl
  intro s hs
  rw [hsteps, List.mem_append] at hs
  rcases hs with hs | hs
  · simp only [List.mem_cons, List.not_mem_nil, or_false] at hs
    rcases hs with rfl | rfl | rfl
    · decide
    · decide
    · exact hname
  · obtain ⟨seg, hseg, rfl⟩ := List.mem_map.mp hs
    exact hsegments seg hseg

/-- The words below a rule are slash-free, like all steps above them. -/
theorem slash_not_mem_numberPath {name : String} (hname : '/' ∉ name.toList) (number : Nat)
    {words : List String} (hwords : ∀ w ∈ words, '/' ∉ w.toList) :
    ∀ s ∈ ((numberPath name number).words words).steps, '/' ∉ s.literal.toList := by
  have hpath : (numberPath name number).words words = (ruleSetPath name).append
      (.fixed "rule" :: .value (Text.ofNat number) :: words.map .fixed) := by
    simp [numberPath, rulesPath, ConfigPath.words, ConfigPath.append]
  rw [hpath]
  refine slash_not_mem_ruleSetPath hname ?_
  intro seg hseg
  rcases List.mem_cons.mp hseg with rfl | hseg
  · decide
  rcases List.mem_cons.mp hseg with rfl | hseg
  · exact Text.slash_not_mem_ofNat number
  · obtain ⟨w, hw, rfl⟩ := List.mem_map.mp hseg
    exact hwords w hw

/-! ## 3. A rule on its way -/

/-- The definition with a text as its value. -/
def withText (text : String) (d : Definition) : Definition := { d with value := .single text }

/-- The fixed steps of these words. -/
def wordSteps (words : List String) : List Step := words.map fun w => Step.ofSegment (.fixed w)

section Graft

variable {schema : SchemaNode} {f : Definition → Definition} (rule : ConfigPath) (word : String)
  (rest : List String) {d : Definition}

/-- Under a word that is not there yet a graft puts a new child last. -/
theorem graft_word (hfree : ∀ e ∈ d.children, e.name ≠ word) :
    graft schema f rule (wordSteps (word :: rest)) d = d.withChildren (d.children
      ++ [graft schema f (rule.words [word]) (wordSteps rest)
        (bound schema rule (.fixed word))]) := by
  have hlast : d.children = d.children ++ (none : Option Definition).toList := by simp
  rw [wordSteps, List.map_cons, graft_last rule _ _ hlast hfree (by simp), segment_ofSegment_fixed]
  rfl

/-- Under the word of the last child a graft goes on there, or makes it. -/
theorem graft_words_holding {before inner : List Definition}
    (hd : d.children = before ++ ((bound schema rule (.fixed word)).holding inner).toList)
    (hbefore : ∀ e ∈ before, e.name ≠ word) :
    graft schema f rule (wordSteps (word :: rest)) d = d.withChildren (before
      ++ [graft schema f (rule.words [word]) (wordSteps rest)
        ((bound schema rule (.fixed word)).withChildren inner)]) := by
  rw [wordSteps, List.map_cons, graft_last rule _ _ hd hbefore fun c hc => name_of_holding hc,
    segment_ofSegment_fixed, getD_holding rfl]
  rfl

end Graft

theorem name_graft_withText (schema : SchemaNode) (text : String) (done : ConfigPath)
    (steps : List Step) (d : Definition) :
    (graft schema (withText text) done steps d).name = d.name := by
  rw [Definition.name, graft_segment (f := withText text) fun _ => rfl]
  rfl

theorem name_of_mem_grafted {schema : SchemaNode} {base above : ConfigPath} {steps : List Step}
    {word : String} {text : Option String} {d : Definition}
    (h : d ∈ (text.map fun text => graft schema (withText text) base steps
      (bound schema above (.fixed word))).toList) : d.name = word := by
  rw [Option.mem_toList, Option.map_eq_some_iff] at h
  obtain ⟨text, -, rfl⟩ := h
  exact name_graft_withText _ _ _ _ _

/-- A definition with texts set below it one after the other, each where its steps lead. -/
def graftAll (schema : SchemaNode) (done : ConfigPath) (texts : List (List Step × String))
    (d : Definition) : Definition :=
  texts.foldl (fun d text => graft schema (withText text.2) done text.1 d) d

section GraftAll

variable {schema : SchemaNode} {done : ConfigPath} {step : Step} {before : List Definition}

/-- Texts that all belong under the last child are set below it. -/
theorem graftAll_last (texts : List (List Step × String)) (d : Definition) {c : Definition}
    (hbefore : ∀ e ∈ before, e.name ≠ step.literal) (hc : c.name = step.literal) :
    graftAll schema done (texts.map fun text => (step :: text.1, text.2))
        (d.withChildren (before ++ [c]))
      = d.withChildren (before ++ [graftAll schema (done.snoc step) texts c]) := by
  induction texts generalizing c with
  | nil => rfl
  | cons text rest ih =>
    have hgraft := @graft_last schema (withText text.2) done step text.1
      (d.withChildren (before ++ [c])) before (some c) rfl hbefore (by rintro _ ⟨⟩; exact hc)
    rw [withChildren_withChildren, Option.getD_some] at hgraft
    rw [List.map_cons, graftAll, List.foldl_cons, hgraft]
    exact ih ((name_graft_withText _ _ _ _ c).trans hc)

/-- Texts that all belong under a new child make it, and are set below it. -/
theorem graftAll_new {texts : List (List Step × String)} (hne : texts ≠ []) (d : Definition)
    (hbefore : ∀ e ∈ before, e.name ≠ step.literal) :
    graftAll schema done (texts.map fun text => (step :: text.1, text.2)) (d.withChildren before)
      = d.withChildren (before
        ++ [graftAll schema (done.snoc step) texts (bound schema done step.segment)]) := by
  cases texts with
  | nil => exact absurd rfl hne
  | cons text rest =>
    have hnew : (d.withChildren before).children = before ++ (none : Option Definition).toList := by
      simp
    rw [List.map_cons, graftAll, List.foldl_cons,
      graft_last done step text.1 hnew hbefore (by simp)]
    exact graftAll_last rest d hbefore
      ((name_graft_withText _ _ _ _ _).trans (name_bound schema done step))

end GraftAll

/-- A rule set with the rules `before` and then the rule of a number, of which `leaves` are there so
far; as long as there are none, the rule is not there either. -/
structure Draft (schema : SchemaNode) (name : String) (number : Nat)
    (before leaves : List Definition) (g : Generation) : Prop where
  indexed : Indexed g.tree
  tidy : Tidy ruleSetsKey g.tree
  schema_eq : g.tree.schema = schema
  here : g.tree.get? (rulesPath name).key = rulesDefinition schema name
    (before ++ ((emptyRule schema name number).holding leaves).toList)

section Draft

variable {schema : SchemaNode} {name : String} {number : Nat} {before leaves : List Definition}
  {g g' : Generation}

/-- Putting a text below the rule is a graft on the rule. -/
theorem Draft.put (h : Draft schema name number before leaves g) (hname : '/' ∉ name.toList)
    (hbefore : ∀ d ∈ before, d.name ≠ Text.ofNat number) {words : List String}
    (hwords : ∀ w ∈ words, '/' ∉ w.toList) {text : String} {leaves' : List Definition}
    (hne : leaves' ≠ [])
    (hgraft : graft schema (withText text) (numberPath name number) (wordSteps words)
        ((emptyRule schema name number).withChildren leaves)
      = (emptyRule schema name number).withChildren leaves')
    (hrun : Generation.put ((numberPath name number).words words) text g = .ok () g') :
    Draft schema name number before leaves' g' := by
  have htree : setValue ((numberPath name number).words words) (.single text) g.tree
      = .ok () g'.tree := (edit_ok hrun).1
  have hslash := slash_not_mem_numberPath hname number hwords
  have hchanges := keeps_setValue ((numberPath name number).words words) (.single text) g.tree
    h.indexed
  rw [Edit.after_ok htree] at hchanges
  refine ⟨h.indexed.changes hchanges, h.tidy.changes (by rintro p rfl _; exact hslash) hchanges,
    hchanges.schema_eq.trans h.schema_eq, ?_⟩
  have hpath : ((numberPath name number).words words).steps = (ruleSetPath name).steps
      ++ Step.ofSegment (.fixed "rule")
        :: (Step.ofSegment (.value (Text.ofNat number)) :: wordSteps words) := by
    simp [numberPath, rulesPath, ConfigPath.words, ConfigPath.append, wordSteps]
  have hget := get?_setValue h.indexed h.tidy rfl (keyWithin_ruleSetPath name) hpath hslash htree
  have hrules : (ruleSetPath name).snoc (Step.ofSegment (.fixed "rule")) = rulesPath name := rfl
  have hnumber : (rulesPath name).snoc (Step.ofSegment (.value (Text.ofNat number)))
      = numberPath name number := rfl
  rw [hrules, h.here, h.schema_eq, segment_ofSegment_fixed, rulesDefinition, getD_holding rfl,
    graft_last _ _ _ (withChildren_children _ _) hbefore fun c hc => name_of_holding hc, hnumber,
    segment_ofSegment_number, ← emptyRule, getD_holding rfl, withChildren_withChildren] at hget
  rw [hget, rulesDefinition, holding_of_ne_nil hne, Option.toList_some,
    holding_of_ne_nil (by simp)]
  exact congrArg (fun d => some (Definition.withChildren _ (before ++ [d]))) hgraft

/-- A text under a word that the rule does not have yet comes last. -/
theorem Draft.putLeaf (h : Draft schema name number before leaves g) (hname : '/' ∉ name.toList)
    (hbefore : ∀ d ∈ before, d.name ≠ Text.ofNat number) {word : String}
    (hword : '/' ∉ word.toList) (hfree : ∀ d ∈ leaves, d.name ≠ word) {text : String}
    (hrun : Generation.put ((numberPath name number).words [word]) text g = .ok () g') :
    Draft schema name number before
      (leaves ++ [leaf schema (numberPath name number) word text]) g' := by
  refine h.put hname hbefore (by simpa using hword) (by simp) ?_ hrun
  exact graft_word _ word [] hfree

theorem Draft.putLeaf? (h : Draft schema name number before leaves g) (hname : '/' ∉ name.toList)
    (hbefore : ∀ d ∈ before, d.name ≠ Text.ofNat number) {word : String}
    (hword : '/' ∉ word.toList) (hfree : ∀ d ∈ leaves, d.name ≠ word) {text : Option String}
    (hrun : putIfSome ((numberPath name number).words [word]) text g = .ok () g') :
    Draft schema name number before
      (leaves ++ (text.map (leaf schema (numberPath name number) word)).toList) g' := by
  cases text with
  | none =>
    cases hrun
    simpa using h
  | some text => exact h.putLeaf hname hbefore hword hfree hrun

/-- A text below one end of the connection comes last there, and makes the end if it is
the first. -/
theorem Draft.putEnd? {outer inner : List Definition} {word : String}
    (h : Draft schema name number before
      (outer ++ ((bound schema (numberPath name number) (.fixed word)).holding inner).toList) g)
    (hname : '/' ∉ name.toList) (hbefore : ∀ d ∈ before, d.name ≠ Text.ofNat number)
    (houter : ∀ d ∈ outer, d.name ≠ word) {w : String} {rest : List String}
    (hwords : ∀ v ∈ word :: w :: rest, '/' ∉ v.toList) (hinner : ∀ d ∈ inner, d.name ≠ w)
    {text : Option String}
    (hrun : putIfSome ((numberPath name number).words (word :: w :: rest)) text g = .ok () g') :
    Draft schema name number before
      (outer ++ ((bound schema (numberPath name number) (.fixed word)).holding
        (inner ++ (text.map fun text => graft schema (withText text)
          (((numberPath name number).words [word]).words [w]) (wordSteps rest)
          (bound schema ((numberPath name number).words [word]) (.fixed w))).toList)).toList)
      g' := by
  cases text with
  | none =>
    cases hrun
    simpa using h
  | some text =>
    have hnew : ∀ x, (bound schema (numberPath name number) (.fixed word)).holding (inner ++ [x])
        = some
          ((bound schema (numberPath name number) (.fixed word)).withChildren (inner ++ [x])) :=
      fun x => holding_of_ne_nil (by simp)
    rw [Option.map_some, Option.toList_some, hnew]
    refine h.put hname hbefore hwords (by simp) ?_ hrun
    rw [graft_words_holding _ word (w :: rest) (withChildren_children _ _) houter,
      graft_word _ w rest (by simpa using hinner)]
    rfl

/-- One end of a connection comes last below the rule. -/
theorem Draft.putEndpoint (h : Draft schema name number before leaves g)
    (hname : '/' ∉ name.toList) (hbefore : ∀ d ∈ before, d.name ≠ Text.ofNat number)
    {word : String} (hword : '/' ∉ word.toList) (hfree : ∀ d ∈ leaves, d.name ≠ word)
    {e : Option Endpoint}
    (hrun : Generation.putEndpoint (numberPath name number) word e g = .ok () g') :
    Draft schema name number before
      (leaves ++ (endpointDefinition schema (numberPath name number) word e).toList) g' := by
  cases e with
  | none =>
    cases hrun
    simpa [endpointDefinition, holding] using h
  | some e =>
    obtain ⟨_, g₁, haddress, hrun⟩ := bind_eq_ok.mp hrun
    obtain ⟨_, g₂, hport, hgroup⟩ := bind_eq_ok.mp hrun
    have hbelow : ∀ ws : List String, (∀ w ∈ ws, '/' ∉ w.toList) →
        ∀ v ∈ word :: ws, '/' ∉ v.toList := by
      intro ws hws v hv
      rcases List.mem_cons.mp hv with rfl | hv
      · exact hword
      · exact hws v hv
    have h₀ : Draft schema name number before (leaves
        ++ ((bound schema (numberPath name number) (.fixed word)).holding []).toList) g := by
      simpa [holding] using h
    have h₁ := h₀.putEnd? hname hbefore hfree (hbelow ["address"] (by decide)) (by simp) haddress
    have h₂ := h₁.putEnd? hname hbefore hfree (hbelow ["port"] (by decide)) (by
      intro d hd
      rw [List.nil_append] at hd
      rw [name_of_mem_grafted hd]
      decide) hport
    have h₃ := h₂.putEnd? hname hbefore hfree (hbelow ["group", "port-group"] (by decide)) (by
      intro d hd
      rw [List.nil_append] at hd
      rcases List.mem_append.mp hd with hd | hd
      · rw [name_of_mem_grafted hd]
        decide
      · rw [name_of_mem_grafted hd]
        decide) hgroup
    rw [List.nil_append, Option.map_map] at h₃
    exact h₃

/-! ## 4. A whole rule -/

/-- What a connection puts once it has its number. -/
def putRule (rule : ConfigPath) (c : Connection) : Run Unit := do
  Generation.put (rule.words ["action"]) c.action
  Generation.put (rule.words ["protocol"]) c.protocol
  Generation.put (rule.words ["log"]) c.logValue
  putIfSome (rule.words ["description"]) c.description
  Generation.putEndpoint rule "source" c.source
  Generation.putEndpoint rule "destination" c.destination

theorem putConnection_eq (ruleSet : String) (c : Connection) :
    putConnection ruleSet c = (count (RuleCounters.next (.firewall ruleSet)) >>= fun number =>
      putRule (rulePath ruleSet number) c) := rfl

@[simp] theorem name_leaf (above : ConfigPath) (word text : String) :
    (leaf schema above word text).name = word := rfl

theorem name_of_mem_leaf? {above : ConfigPath} {word : String} {text : Option String}
    {d : Definition} (h : d ∈ (text.map (leaf schema above word)).toList) : d.name = word := by
  rw [Option.mem_toList, Option.map_eq_some_iff] at h
  obtain ⟨text, -, rfl⟩ := h
  rfl

theorem name_of_mem_endpoint {rule : ConfigPath} {word : String} {e : Option Endpoint}
    {d : Definition} (h : d ∈ (endpointDefinition schema rule word e).toList) : d.name = word := by
  rw [Option.mem_toList] at h
  exact name_of_holding h

/-- A connection leaves its whole rule. -/
theorem putRule_draft (h : Draft schema name number before [] g) (hname : '/' ∉ name.toList)
    (hbefore : ∀ d ∈ before, d.name ≠ Text.ofNat number) {c : Connection}
    (hrun : putRule (numberPath name number) c g = .ok () g') :
    Draft schema name number before (ruleLeaves schema (numberPath name number) c) g' := by
  obtain ⟨_, g₁, haction, hrun⟩ := bind_eq_ok.mp hrun
  obtain ⟨_, g₂, hprotocol, hrun⟩ := bind_eq_ok.mp hrun
  obtain ⟨_, g₃, hlog, hrun⟩ := bind_eq_ok.mp hrun
  obtain ⟨_, g₄, hdescription, hrun⟩ := bind_eq_ok.mp hrun
  obtain ⟨_, g₅, hsource, hdestination⟩ := bind_eq_ok.mp hrun
  have h₁ := h.putLeaf hname hbefore (by decide) (by simp) haction
  have h₂ := h₁.putLeaf hname hbefore (by decide) (by simp) hprotocol
  have h₃ := h₂.putLeaf hname hbefore (by decide) (by simp) hlog
  have hfirst : ∀ word, word ≠ "action" → word ≠ "protocol" → word ≠ "log" →
      ∀ d ∈ [] ++ [leaf schema (numberPath name number) "action" c.action]
        ++ [leaf schema (numberPath name number) "protocol" c.protocol]
        ++ [leaf schema (numberPath name number) "log" c.logValue], d.name ≠ word := by
    intro word ha hp hl d hd
    simp only [List.nil_append, List.cons_append, List.mem_cons, List.not_mem_nil, or_false] at hd
    rcases hd with rfl | rfl | rfl
    · exact ha.symm
    · exact hp.symm
    · exact hl.symm
  have h₄ := h₃.putLeaf? hname hbefore (by decide)
    (hfirst _ (by decide) (by decide) (by decide)) hdescription
  have h₅ := h₄.putEndpoint hname hbefore (by decide) (by
    intro d hd
    rcases List.mem_append.mp hd with hd | hd
    · exact hfirst _ (by decide) (by decide) (by decide) d hd
    · rw [name_of_mem_leaf? hd]
      decide) hsource
  have h₆ := h₅.putEndpoint hname hbefore (by decide) (by
    intro d hd
    rcases List.mem_append.mp hd with hd | hd
    · rcases List.mem_append.mp hd with hd | hd
      · exact hfirst _ (by decide) (by decide) (by decide) d hd
      · rw [name_of_mem_leaf? hd]
        decide
    · rw [name_of_mem_endpoint hd]
      decide) hdestination
  exact h₆

end Draft

/-- What a connection puts once it has its number is at or below its rule. -/
theorem Touches.putRule (rule : ConfigPath) (c : Connection) :
    Touches (Below rule) (putRule rule c) := by
  have hword : ∀ words, Below rule (rule.words words) := below_words rule
  have hend : ∀ word e, Touches (Below rule) (Generation.putEndpoint rule word e) := by
    intro word e
    cases e with
    | none => exact .pure ()
    | some e =>
      have hbase : ∀ words, Below rule ((rule.words [word]).words words) := fun words =>
        (hword [word]).trans (below_words _ words)
      exact (Touches.putIfSome (hbase _) _).bind fun _ =>
        (Touches.putIfSome (hbase _) _).bind fun _ => Touches.putIfSome (hbase _) _
  exact (Touches.put (hword _) _).bind fun _ => (Touches.put (hword _) _).bind fun _ =>
    (Touches.put (hword _) _).bind fun _ => (Touches.putIfSome (hword _) _).bind fun _ =>
    (hend _ _).bind fun _ => hend _ _

end Generation

end RouterConfig
