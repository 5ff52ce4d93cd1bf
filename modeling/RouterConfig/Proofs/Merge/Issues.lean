/-
RouterConfig.Proofs.Merge.Issues — what a grammar objects to in a tree that
another was merged into.

`makesNoIssue_build`: of two trees made by calls, `MakesNoIssue` holds. What
is reported of the target after the merge was reported of one of the two
trees, also when the merge stopped with an error. Two trees without issues
give one without issues.

## How the proof goes

A merge puts definitions below others and copies whole branches; it changes
nothing in a definition itself. So every definition of the tree afterwards
is one of the two trees, possibly with more below it (`widens_of_adopts`).
What stands below a definition can silence an objection and never raises
one (`Widens.issues_subset`): the value of a definition is looked at only
where nothing is below it. A merge that stops has adopted fewer branches
and is otherwise like one that ends well (`exists_adopts_after`).

## Side conditions

There are none. The trees may have other grammars and other policies, and
the patterns may be read in any way (`PatternReader`), as an issue of a
definition depends on the definition alone. An issue of one of the two
trees may be missing afterwards: that of a value below which the other tree
puts a definition.
-/
import RouterConfig.Definition.Validation
import RouterConfig.Proofs.Merge.Union

namespace RouterConfig

namespace Definition

/-! ## 1. More below a definition -/

/-- The definition `e` is `d`, and has something below it where `d` has. -/
structure Widens (d e : Definition) : Prop where
  bare_eq : e.bare = d.bare
  children : e.children = [] → d.children = []

theorem Widens.refl (d : Definition) : Widens d d := ⟨rfl, id⟩

namespace Widens

variable {patterns : PatternReader} {d e : Definition} (h : Widens d e)
include h

theorem key_eq : e.key = d.key := by
  rw [← bare_key, h.bare_eq, bare_key]

theorem nameObjections_eq : e.nameObjections patterns = d.nameObjections patterns := by
  have hsegment : e.segment = d.segment := (congrArg Definition.segment h.bare_eq :)
  have hparent : e.parentNode = d.parentNode := (congrArg Definition.parentNode h.bare_eq :)
  simp only [nameObjections, hsegment, hparent]

/-- A definition with something below it is asked for neither a grammar node nor a value. -/
theorem valueObjections_subset :
    e.valueObjections patterns ⊆ d.valueObjections patterns := by
  have hnode : e.node = d.node := (congrArg Definition.node h.bare_eq :)
  have hvalue : e.value = d.value := (congrArg Definition.value h.bare_eq :)
  cases he : e.children with
  | nil =>
    have hd := h.children he
    simp [valueObjections, he, hd, hnode, hvalue]
  | cons c rest => simp [valueObjections, he]

/-- So its issues are among those that it has with nothing below it. -/
theorem issues_subset : e.issues patterns ⊆ d.issues patterns := by
  have hobjections : e.nameObjections patterns ++ e.valueObjections patterns
      ⊆ d.nameObjections patterns ++ d.valueObjections patterns := by
    rw [h.nameObjections_eq, List.append_subset]
    refine ⟨List.subset_append_left _ _, fun message hmessage => ?_⟩
    exact List.mem_append_right _ (h.valueObjections_subset hmessage)
  rw [issues, issues, h.key_eq]
  exact List.map_subset _ hobjections

end Widens

end Definition

namespace Definitions

open Definition

/-! ## 2. Definitions of a tree that has adopted branches -/

/-- What stands in a tree that has adopted branches stood in it before or stands in a branch. -/
theorem widens_of_adopts {t t' : Definitions} {branches : List Definition}
    (h : Adopts t branches t') {e : Definition} (he : e ∈ t'.walk) :
    ∃ d ∈ t.walk ++ walkAll branches, Widens d e := by
  obtain ⟨l, hl⟩ := mem_walkAll.mp he
  rcases h.only l e.bare (face?_of_at? hl) with hold | ⟨b, hb, -, -, hat⟩
  · obtain ⟨d, hd, hbare⟩ := face?_eq_some.mp hold
    refine ⟨d, List.mem_append_left _ (mem_walkAll.mpr ⟨l, hd⟩), hbare.symm, ?_⟩
    intro hnone
    -- a first child would still be there
    rw [children_eq_nil_iff hl] at hnone
    rw [children_eq_nil_iff hd]
    cases hfirst : Definition.face? t.roots (l ++ [0]) with
    | none => rfl
    | some f =>
      have hkept := h.kept (l ++ [0]) f hfirst
      rw [face?, hnone] at hkept
      cases hkept
  · obtain rfl : e = b := Option.some.inj (hl.symm.trans hat)
    exact ⟨e, List.mem_append_right _ hb, Widens.refl e⟩

variable {patterns : PatternReader}

theorem mem_validate_iff {t : Definitions} {issue : Issue} :
    issue ∈ t.validate patterns ↔ ∃ d ∈ t.walk, issue ∈ d.issues patterns := List.mem_flatMap

/-- Adopting branches of a tree makes no issue that neither tree had. -/
theorem validate_subset_of_adopts {t t' s : Definitions} {branches : List Definition}
    (h : Adopts t branches t') (hbranches : walkAll branches ⊆ s.walk) :
    t'.validate patterns ⊆ t.validate patterns ++ s.validate patterns := by
  intro issue hissue
  obtain ⟨e, he, hmem⟩ := mem_validate_iff.mp hissue
  obtain ⟨d, hd, hwidens⟩ := widens_of_adopts h he
  have hold := hwidens.issues_subset hmem
  rw [List.mem_append]
  rcases List.mem_append.mp hd with hd | hd
  · exact .inl (mem_validate_iff.mpr ⟨d, hd, hold⟩)
  · exact .inr (mem_validate_iff.mpr ⟨d, hbranches hd, hold⟩)

/-! ## 3. Merges -/

/-- The target after a merge, also when the merge stopped with an error. -/
def Merging.after (merging : Merging α) (t : Definitions) : Definitions :=
  match merging t with
  | .ok _ t => t
  | .error _ t => t

/-- However a merge ends, some of the missing branches have been adopted. -/
theorem exists_adopts_after {t s : Definitions} (ht : Indexed t) (hs : Indexed s) :
    ∃ branches, branches <+: missingAll t s.roots ∧
      Adopts t branches ((absorbTree s).after t) := by
  have houtcome := absorbTree_outcome ht hs
  cases hrun : absorbTree s t with
  | ok a r =>
    rw [hrun] at houtcome
    rw [Merging.after, hrun]
    cases houtcome with
    | merged agree adopts => exact ⟨_, List.prefix_refl _, by simpa using adopts⟩
  | error cause r =>
    rw [hrun] at houtcome
    rw [Merging.after, hrun]
    cases houtcome with
    | refused first agree there differ part adopts => exact ⟨_, part, by simpa using adopts⟩

theorem walkAll_subset_of_initial {ds es : List Definition} (h : ds <+: es) :
    walkAll ds ⊆ walkAll es := by
  obtain ⟨more, rfl⟩ := h
  rw [walkAll_append]
  exact List.subset_append_left _ _

theorem after_of_merge {t s r : Definitions} (h : merge t s = .ok r) :
    (absorbTree s).after t = r := by
  unfold merge at h
  rw [Merging.after]
  cases hrun : absorbTree s t with
  | ok a u =>
    rw [hrun] at h
    exact Except.ok.inj h
  | error cause u =>
    rw [hrun] at h
    cases h

/-- What a merge of a tree into another leaves of the issues of both, for one way to
read patterns. -/
structure MakesNoIssue (patterns : PatternReader) (t s : Definitions) : Prop where
  /-- What is reported of the target afterwards was reported of one of the two trees. -/
  subset : ((absorbTree s).after t).validate patterns ⊆ t.validate patterns ++ s.validate patterns
  /-- Two trees without issues give one without issues. -/
  clean : ∀ r, merge t s = .ok r → t.validate patterns = [] → s.validate patterns = [] →
    r.validate patterns = []

theorem Indexed.makesNoIssue {t s : Definitions} (ht : Indexed t) (hs : Indexed s) :
    MakesNoIssue patterns t s := by
  have hsubset : ((absorbTree s).after t).validate patterns
      ⊆ t.validate patterns ++ s.validate patterns := by
    obtain ⟨branches, hpart, hadopts⟩ := exists_adopts_after ht hs
    refine validate_subset_of_adopts hadopts fun e he => ?_
    exact (walkAll_missingAll_sublist t s.roots).subset (walkAll_subset_of_initial hpart he)
  refine ⟨hsubset, ?_⟩
  intro r hmerge hnone hnone'
  rw [after_of_merge hmerge, hnone, hnone'] at hsubset
  exact List.subset_nil.mp hsubset

/-- **A merge makes no new issue**, whether it goes through or stops with an error, and however
patterns are read. -/
theorem makesNoIssue_build (patterns : PatternReader) (schema₁ schema₂ : SchemaNode)
    (policy₁ policy₂ : DuplicatePolicy) (calls₁ calls₂ : List Call) :
    MakesNoIssue patterns (build schema₁ policy₁ calls₁) (build schema₂ policy₂ calls₂) :=
  (indexed_build schema₁ policy₁ calls₁).makesNoIssue (indexed_build schema₂ policy₂ calls₂)

end Definitions

end RouterConfig
