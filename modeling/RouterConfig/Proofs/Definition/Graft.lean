/-
RouterConfig.Proofs.Definition.Graft — setting a value, step by step.

An edit looks up every step of its path by the whole key so far. Where no
step holds a slash, that is the same as to look among the children for the
name of the step, to go on there, and to put a new child last where there
is none: `graft`. A value that is set below a key changes the definition
of the key in just this way (`get?_setValue`).
-/
import RouterConfig.Proofs.Definition.Frame

namespace RouterConfig

namespace Definition

/-! ## 1. Children -/

/-- The definition with these children. -/
def withChildren (d : Definition) (children : List Definition) : Definition := { d with children }

@[simp] theorem withChildren_children (d : Definition) (cs : List Definition) :
    (d.withChildren cs).children = cs := rfl

@[simp] theorem withChildren_withChildren (d : Definition) (cs cs' : List Definition) :
    (d.withChildren cs).withChildren cs' = d.withChildren cs' := rfl

theorem withChildren_nil {d : Definition} (h : d.children = []) : d.withChildren [] = d := by
  obtain ⟨_, _, _, _, _, _, children⟩ := d
  obtain rfl : children = [] := h
  rfl

/-- The definition with these children, unless there are none. -/
def holding (d : Definition) : List Definition → Option Definition
  | [] => none
  | c :: rest => some (d.withChildren (c :: rest))

section Holding

variable {d : Definition}

theorem getD_holding (hd : d.children = []) (cs : List Definition) :
    (d.holding cs).getD d = d.withChildren cs := by
  cases cs with
  | nil => exact (withChildren_nil hd).symm
  | cons c rest => rfl

theorem holding_of_ne_nil {cs : List Definition} (h : cs ≠ []) :
    d.holding cs = some (d.withChildren cs) := by
  cases cs with
  | nil => exact absurd rfl h
  | cons c rest => rfl

/-- What stands for a definition with children is not the definition without them. -/
theorem eq_holding_of_getD (hd : d.children = []) {cs : List Definition} (hcs : cs ≠ [])
    {d? : Option Definition} (h : d?.getD d = d.withChildren cs) : d? = d.holding cs := by
  rw [holding_of_ne_nil hcs, ← h]
  cases d? with
  | some e => rfl
  | none =>
    have hchildren := congrArg (·.children) h
    exact absurd (hchildren.symm.trans hd) hcs

theorem name_of_holding {cs : List Definition} {e : Definition} (h : d.holding cs = some e) :
    e.name = d.name := by
  cases cs with
  | nil => cases h
  | cons c rest =>
    cases h
    rfl

end Holding

/-! ## 2. Grafting -/

/-- The definitions with the first of a name changed; where there is none, a changed new one comes
last. -/
def graftInto (name : String) (g : Definition → Definition) (new : Definition) :
    List Definition → List Definition
  | [] => [g new]
  | d :: rest => if d.name = name then g d :: rest else d :: graftInto name g new rest

/-- The definition of a path with the one changed to which steps lead down from it, by name. What is
missing on the way is made. -/
def graft (schema : SchemaNode) (f : Definition → Definition) :
    ConfigPath → List Step → Definition → Definition
  | _, [], d => f d
  | done, step :: rest, d =>
    d.withChildren (graftInto step.literal (graft schema f (done.snoc step) rest)
      (bound schema done step.segment) d.children)

section GraftInto

variable {name : String} {g : Definition → Definition} {new : Definition}

theorem graftInto_of_forall_ne {ds : List Definition} (h : ∀ d ∈ ds, d.name ≠ name) :
    graftInto name g new ds = ds ++ [g new] := by
  induction ds with
  | nil => rfl
  | cons d rest ih =>
    rw [graftInto, if_neg (h d List.mem_cons_self),
      ih fun e he => h e (List.mem_cons_of_mem _ he), List.cons_append]

theorem graftInto_append {before : List Definition} {d : Definition} (after : List Definition)
    (h : ∀ e ∈ before, e.name ≠ name) (hd : d.name = name) :
    graftInto name g new (before ++ d :: after) = before ++ g d :: after := by
  induction before with
  | nil => rw [List.nil_append, graftInto, if_pos hd, List.nil_append]
  | cons e rest ih =>
    rw [List.cons_append, graftInto, if_neg (h e List.mem_cons_self),
      ih fun e' he' => h e' (List.mem_cons_of_mem _ he'), List.cons_append]

/-- The one definition of a name is the one that is changed. -/
theorem graftInto_of_getElem? {ds : List Definition} {i : Nat} {c : Definition}
    (hc : ds[i]? = some c) (hname : c.name = name)
    (hfirst : ∀ j c', ds[j]? = some c' → c'.name = name → j = i) :
    graftInto name g new ds = ds.modify i g := by
  obtain ⟨hi, hget⟩ := List.getElem?_eq_some_iff.mp hc
  have hsplit : ds = ds.take i ++ c :: ds.drop (i + 1) := by
    rw [← hget, List.getElem_cons_drop, List.take_append_drop]
  have hbefore : ∀ e ∈ ds.take i, e.name ≠ name := by
    intro e he hen
    obtain ⟨j, hj⟩ := List.getElem?_of_mem he
    have hlt : j < i := by
      have := (List.getElem?_eq_some_iff.mp hj).1
      simp at this
      omega
    rw [List.getElem?_take_of_lt hlt] at hj
    have := hfirst j e hj hen
    omega
  have hmodify : ds.modify i g = ds.take i ++ g c :: ds.drop (i + 1) := by
    rw [List.modify_eq_take_cons_drop hi, hget]
  rw [hmodify]
  conv_lhs => rw [hsplit]
  exact graftInto_append _ hbefore hname

/-- What is found under the name afterwards is what was there, or the new one, changed. -/
theorem find?_graftInto {ds : List Definition} (hg : ∀ d, (g d).name = d.name)
    (hnew : new.name = name) :
    (graftInto name g new ds).find? (·.name == name)
      = some (g ((ds.find? (·.name == name)).getD new)) := by
  induction ds with
  | nil => simp [graftInto, hg, hnew]
  | cons d rest ih =>
    by_cases hd : d.name = name
    · simp [graftInto, hd, hg]
    · simp [graftInto, hd, ih]

end GraftInto

section Graft

variable {schema : SchemaNode} {f : Definition → Definition}

theorem graft_cons (done : ConfigPath) (step : Step) (rest : List Step) (d : Definition) :
    graft schema f done (step :: rest) d = d.withChildren
      (graftInto step.literal (graft schema f (done.snoc step) rest)
        (bound schema done step.segment) d.children) := rfl

theorem graft_segment (hf : ∀ d, (f d).segment = d.segment) (done : ConfigPath)
    (steps : List Step) (d : Definition) : (graft schema f done steps d).segment = d.segment := by
  cases steps with
  | nil => exact hf d
  | cons step rest => rfl

/-- A child is found under the next step afterwards. -/
theorem child?_graft (hf : ∀ d, (f d).segment = d.segment) (done : ConfigPath) (step : Step)
    (rest : List Step) (d : Definition) :
    (graft schema f done (step :: rest) d).child? step.literal
      = some (graft schema f (done.snoc step) rest
          ((d.child? step.literal).getD (bound schema done step.segment))) := by
  refine find?_graftInto ?_ (name_bound schema done step)
  intro d
  rw [name, name, graft_segment hf]

/-- A graft goes on below the last child, where this is the one of the name, or makes it. -/
theorem graft_last (done : ConfigPath) (step : Step) (rest : List Step) {d : Definition}
    {before : List Definition} {c? : Option Definition} (hd : d.children = before ++ c?.toList)
    (hbefore : ∀ e ∈ before, e.name ≠ step.literal)
    (hc : ∀ c, c? = some c → c.name = step.literal) :
    graft schema f done (step :: rest) d = d.withChildren (before
      ++ [graft schema f (done.snoc step) rest (c?.getD (bound schema done step.segment))]) := by
  rw [graft_cons, hd]
  congr 1
  cases c? with
  | none =>
    rw [Option.toList_none, List.append_nil]
    exact graftInto_of_forall_ne hbefore
  | some c => exact graftInto_append [] hbefore (hc c rfl)

end Graft

/-! ## 3. Changes at and below one place -/

theorem modify_congr {ds : List Definition} {i : Nat} {f g : Definition → Definition}
    {d : Definition} (hd : ds[i]? = some d) (hfg : f d = g d) : ds.modify i f = ds.modify i g := by
  obtain ⟨hi, rfl⟩ := List.getElem?_eq_some_iff.mp hd
  rw [List.modify_eq_take_cons_drop hi, List.modify_eq_take_cons_drop hi, hfg]

theorem modifyAt_congr {f g : Definition → Definition} {l : Location} {roots : List Definition}
    {d : Definition} (hd : at? roots l = some d) (hfg : f d = g d) :
    modifyAt f l roots = modifyAt g l roots := by
  induction l generalizing roots with
  | nil => cases hd
  | cons i rest ih =>
    cases rest with
    | nil => exact modify_congr hd hfg
    | cons j more =>
      rw [at?_cons _ _ (by simp)] at hd
      obtain ⟨c, hc, hd⟩ := Option.bind_eq_some_iff.mp hd
      rw [modifyAt_cons _ _ (by simp), modifyAt_cons _ _ (by simp)]
      exact modify_congr hc (by rw [ih hd])

theorem modifyAt_modifyAt (f g : Definition → Definition) (l : Location)
    (roots : List Definition) :
    modifyAt g l (modifyAt f l roots) = modifyAt (fun d => g (f d)) l roots := by
  induction l generalizing roots with
  | nil => rfl
  | cons i rest ih =>
    cases rest with
    | nil => simp [modifyAt, List.modify_modify_eq, Function.comp_def]
    | cons j more =>
      rw [modifyAt_cons _ _ (by simp), modifyAt_cons _ _ (by simp), modifyAt_cons _ _ (by simp),
        List.modify_modify_eq]
      congr 1
      funext d
      simp [ih]

theorem modify_concat (ds : List Definition) (d : Definition) (g : Definition → Definition) :
    (ds ++ [d]).modify ds.length g = ds ++ [g d] := by
  rw [List.modify_eq_take_cons_drop (by simp)]
  simp

/-- To change a child is to change its parent. -/
theorem modifyAt_concat (g : Definition → Definition) {loc : Location} (h : loc ≠ []) (i : Nat)
    (roots : List Definition) :
    modifyAt g (loc ++ [i]) roots
      = modifyAt (fun d => { d with children := d.children.modify i g }) loc roots := by
  induction loc generalizing roots with
  | nil => exact absurd rfl h
  | cons j rest ih =>
    cases rest with
    | nil => rfl
    | cons k more =>
      rw [List.cons_append, modifyAt_cons _ _ (by simp), modifyAt_cons _ _ (by simp)]
      congr 1
      funext d
      rw [ih (by simp)]

end Definition

namespace Definitions

open Definition

/-! ## 4. The descent in two parts -/

/-- A descent goes through the place of every path on its way. -/
theorem ensureBelow_append (a : List Step) {b : List Step} (hb : b ≠ []) {done : ConfigPath}
    {loc l : Location} {t t' : Definitions} (h : Indexed t) (hs : t.Stands done loc)
    (hopen : t.Open loc) (hrun : ensureBelow done loc (a ++ b) t = .ok l t') :
    ∃ m u, ensureBelow done loc a t = .ok m u ∧ u.Open m ∧
      ensureBelow ⟨done.steps ++ a⟩ m b u = .ok l t' := by
  induction a generalizing done loc t with
  | nil =>
    refine ⟨loc, t, rfl, hopen, ?_⟩
    simpa using hrun
  | cons step rest ih =>
    rw [List.cons_append] at hrun
    have hpath := (ConfigPath.mk_append_cons done step rest).symm
    cases hk : t.index.get? (done.snoc step).key with
    | some found =>
      cases hleaf : (t.at? found).any (·.isLeaf) with
      | true =>
        have hstop : (!(rest ++ b).isEmpty && (t.at? found).any (·.isLeaf)) = true := by
          simp [hleaf, hb]
        rw [ensureBelow_leaf hk hstop] at hrun
        cases hrun
      | false =>
        rw [ensureBelow_found hk (by simp [hleaf])] at hrun
        obtain ⟨m, u, hfirst, hopen', hsecond⟩ :=
          ih h (stands_snoc hk) (open_of_not_isLeaf hleaf) hrun
        rw [hpath] at hsecond
        exact ⟨m, u, by rw [ensureBelow_found hk (by simp [hleaf]), hfirst], hopen', hsecond⟩
    | none =>
      obtain ⟨siblings, room⟩ := hs.room h
      rw [ensureBelow_missing hk room] at hrun
      have hgrown := h.grow hs room hopen hk
      obtain ⟨m, u, hfirst, hopen', hsecond⟩ := ih hgrown (stands_grow _) (open_grow room) hrun
      rw [hpath] at hsecond
      exact ⟨m, u, by rw [ensureBelow_missing hk room, hfirst], hopen', hsecond⟩

/-! ## 5. The descent by names -/

section Names

variable {top : String} {t : Definitions} {done : ConfigPath} {step : Step} {loc : Location}
  {d : Definition}

/-- A graft below the place of the next step is one below the place of the path. -/
theorem Tidy.graft_found (ht : Tidy top t) (h : Indexed t) (f : Definition → Definition)
    (rest : List Step) (hd : t.at? loc = some d) (hdkey : d.key = done.key)
    (hroot : done.isRoot = false) (hwithin : KeyWithin top done.key)
    (hstep : '/' ∉ step.literal.toList) {found : Location}
    (hk : t.index.get? (done.snoc step).key = some found) :
    modifyAt (graft t.schema f (done.snoc step) rest) found t.roots
      = modifyAt (graft t.schema f done (step :: rest)) loc t.roots := by
  have hindex := fun m => ht.index_child h hd (by rwa [hdkey]) hstep (l := m)
  rw [ConfigPath.key_snoc hroot, ← hdkey] at hk
  obtain ⟨i, c, rfl, hc, hname⟩ := (hindex found).mp hk
  have honly : ∀ j c', d.children[j]? = some c' → c'.name = step.literal → j = i := by
    intro j c' hc' hname'
    have hplace := (hindex (loc ++ [j])).mpr ⟨j, c', rfl, hc', hname'⟩
    rw [hk] at hplace
    simpa using (Option.some.inj hplace).symm
  rw [modifyAt_concat _ (ne_nil_of_at? hd)]
  refine modifyAt_congr hd ?_
  rw [graft_cons, graftInto_of_getElem? hc hname honly]
  rfl

/-- The same where the next step has just been made. -/
theorem Tidy.graft_grow (ht : Tidy top t) (h : Indexed t) (f : Definition → Definition)
    (rest : List Step) (hd : t.at? loc = some d) (hdkey : d.key = done.key)
    (hroot : done.isRoot = false) (hwithin : KeyWithin top done.key)
    (hstep : '/' ∉ step.literal.toList) {siblings : List Definition}
    (room : below? t.roots loc = some siblings)
    (hk : t.index.get? (done.snoc step).key = none) :
    modifyAt (graft t.schema f (done.snoc step) rest) (loc ++ [siblings.length])
        (t.grow done step loc siblings.length).roots
      = modifyAt (graft t.schema f done (step :: rest)) loc t.roots := by
  have hloc := ne_nil_of_at? hd
  have hroots : (t.grow done step loc siblings.length).roots = modifyAt
      (fun d => { d with children := d.children ++ [bound t.schema done step.segment] })
      loc t.roots := appendAt_eq_modifyAt _ hloc _
  have hsiblings : siblings = d.children := by
    rw [below?_eq_map_at? _ hloc] at room
    rw [at?] at hd
    rw [hd] at room
    exact (Option.some.inj room).symm
  have hnone : ∀ c ∈ d.children, c.name ≠ step.literal := by
    intro c hc hname
    obtain ⟨i, hi⟩ := List.getElem?_of_mem hc
    have hplace := (ht.index_child h hd (by rwa [hdkey]) hstep).mpr ⟨i, c, rfl, hi, hname⟩
    rw [hdkey, ← ConfigPath.key_snoc hroot, hk] at hplace
    cases hplace
  rw [modifyAt_concat _ hloc, hroots, modifyAt_modifyAt]
  refine modifyAt_congr hd ?_
  rw [graft_cons, graftInto_of_forall_ne hnone, hsiblings]
  simp only [modify_concat]
  rfl

/-- Where no step holds a slash, a descent with a change at its end is a graft. -/
theorem ensureBelow_graft (f : Definition → Definition) (steps : List Step)
    {l : Location} {t' : Definitions} (h : Indexed t) (ht : Tidy top t)
    (hs : t.Stands done loc) (hroot : done.isRoot = false) (hwithin : KeyWithin top done.key)
    (hslash : ∀ s ∈ steps, '/' ∉ s.literal.toList) (hopen : steps ≠ [] → t.Open loc)
    (hrun : ensureBelow done loc steps t = .ok l t') :
    (t'.relabel l f).roots = modifyAt (graft t.schema f done steps) loc t.roots := by
  induction steps generalizing done loc t with
  | nil =>
    obtain ⟨rfl, rfl⟩ : l = loc ∧ t' = t := by
      cases hrun
      exact ⟨rfl, rfl⟩
    rfl
  | cons step rest ih =>
    obtain ⟨d, hd, hdkey⟩ := h.at?_of_index (hs.index hroot)
    have hstep : '/' ∉ step.literal.toList := hslash step List.mem_cons_self
    have hrest : ∀ s ∈ rest, '/' ∉ s.literal.toList := fun s hs =>
      hslash s (List.mem_cons_of_mem _ hs)
    have hbelow : KeyWithin top (done.snoc step).key := by
      rw [ConfigPath.key_snoc hroot]
      exact hwithin.trans (KeyWithin.child _ _)
    cases hk : t.index.get? (done.snoc step).key with
    | some found =>
      cases hleaf : !rest.isEmpty && (t.at? found).any (·.isLeaf) with
      | true =>
        rw [ensureBelow_leaf hk hleaf] at hrun
        cases hrun
      | false =>
        rw [ensureBelow_found hk hleaf] at hrun
        have hopen' : rest ≠ [] → t.Open found := by
          intro hne
          refine open_of_not_isLeaf ?_
          simpa [hne] using hleaf
        rw [ih h ht (stands_snoc hk) (ConfigPath.isRoot_snoc _ _) hbelow hrest hopen' hrun]
        exact ht.graft_found h f rest hd hdkey hroot hwithin hstep hk
    | none =>
      obtain ⟨siblings, room⟩ := hs.room h
      rw [ensureBelow_missing hk room] at hrun
      have hgrown := h.grow hs room (hopen (by simp)) hk
      rw [ih hgrown (ht.grow room fun _ => hstep) (stands_grow _) (ConfigPath.isRoot_snoc _ _)
        hbelow hrest (fun _ => open_grow room) hrun]
      exact ht.graft_grow h f rest hd hdkey hroot hwithin hstep room hk

/-- Setting a value first finds or makes the definition of a path on the way, and goes on there. -/
theorem setValue_descent {above path : ConfigPath} {rest : List Step} {value : Value}
    {t' : Definitions} (h : Indexed t) (hpath : path.steps = above.steps ++ step :: rest)
    (hrun : setValue path value t = .ok () t') :
    ∃ m v l u, Changes (· = above) t v ∧ v.Stands above m ∧ v.Open m ∧
      ensureBelow above m (step :: rest) v = .ok l u ∧
      t' = u.relabel l fun d => { d with value } := by
  rcases setValue_cases path value t with ⟨e, he⟩ | ⟨-, heq⟩
  · rw [hrun] at he
    cases he
  rw [heq, bind_eq_ok] at hrun
  obtain ⟨l, u, hensure, hupdate⟩ := hrun
  have hpathroot : path.isRoot = false := by
    simp [ConfigPath.isRoot, hpath]
  rw [ensure, hpathroot, hpath] at hensure
  have hopen : t.Open [] := by
    intro f hf
    cases hf
  have hstands : t.Stands .root [] := stands_nil t rfl
  have habove : ConfigPath.root.steps ++ above.steps = above.steps := rfl
  obtain ⟨m, v, hfirst, hvopen, hsecond⟩ :=
    ensureBelow_append above.steps (List.cons_ne_nil step rest) h hstands hopen hensure
  obtain ⟨hchanges, hresult⟩ :=
    ensureBelow_changes above.steps h hstands (fun _ => hopen) habove
  rw [Edit.after_ok hfirst] at hchanges
  refine ⟨m, v, l, u, hchanges, hresult m v hfirst, hvopen, hsecond, ?_⟩
  cases hupdate
  rfl

/-- Setting a value below a key where no step holds a slash changes the definition of the key by a
graft, made anew where there was none. -/
theorem get?_setValue {above path : ConfigPath} {rest : List Step} {value : Value}
    {t' : Definitions} (h : Indexed t) (ht : Tidy top t) (hroot : above.isRoot = false)
    (hwithin : KeyWithin top above.key) (hpath : path.steps = above.steps ++ step :: rest)
    (hslash : ∀ s ∈ path.steps, '/' ∉ s.literal.toList)
    (hrun : setValue path value t = .ok () t') :
    t'.get? (above.snoc step).key = some (graft t.schema (fun d => { d with value })
      (above.snoc step) rest ((t.get? (above.snoc step).key).getD
        (bound t.schema above step.segment))) := by
  have hchanged := keeps_setValue path value t h
  rw [Edit.after_ok hrun] at hchanged
  have hindexed' := h.changes hchanged
  have htidy' : Tidy top t' := ht.changes (by rintro p rfl _; exact hslash) hchanged
  obtain ⟨m, v, l, u, hchanges, hvstands, hvopen, hsecond, rfl⟩ :=
    setValue_descent h hpath hrun
  rw [hpath] at hslash
  have habove : ∀ s ∈ above.steps, '/' ∉ s.literal.toList := fun s hs =>
    hslash s (List.mem_append_left _ hs)
  have hbelow : ∀ s ∈ step :: rest, '/' ∉ s.literal.toList := fun s hs =>
    hslash s (List.mem_append_right _ hs)
  have hstep := hbelow step List.mem_cons_self
  have hv := h.changes hchanges
  have hvtidy : Tidy top v := ht.changes (by rintro p rfl _; exact habove) hchanges
  have hkey := ConfigPath.key_snoc hroot step
  -- the descent to the path above changes nothing below it
  have hkept : v.get? (above.snoc step).key = t.get? (above.snoc step).key := by
    refine hchanges.get?_apart h ?_
    rintro p rfl hlong
    have hlength := hlong.length_le
    rw [hkey, String.length_append, String.length_append] at hlength
    have : "/".length = 1 := rfl
    omega
  -- from there on it is a graft
  obtain ⟨d, hd, hdkey⟩ := hv.at?_of_index (hvstands.index hroot)
  have hroots := ensureBelow_graft (fun d => { d with value }) (step :: rest) hv hvtidy hvstands
    hroot hwithin hbelow (fun _ => hvopen) hsecond
  have hat : (u.relabel l fun d => { d with value }).at? m
      = some (graft v.schema (fun d => { d with value }) above (step :: rest) d) := by
    rw [at?, hroots, at?_modifyAt_self, ← at?, hd]
    rfl
  have hgraftkey :
      (graft v.schema (fun d => { d with value }) above (step :: rest) d).key = d.key := rfl
  have hget := hindexed'.get?_of_at? hat
  have hgetd := hv.get?_of_at? hd
  rw [hgraftkey, hdkey] at hget
  rw [hdkey] at hgetd
  rw [hkey, htidy'.get?_child hindexed' hwithin hget hstep, child?_graft (by intro d; rfl),
    ← hvtidy.get?_child hv hwithin hgetd hstep, ← hkey, hkept, hchanges.schema_eq]

end Names

end Definitions

end RouterConfig
