/-
RouterConfig.Proofs.Schema.Scopes — the scopes of a grammar text are the
blocks it is made of.

`ofText_blocks`: a text that is written as blocks (`Block.rendering`) is
read as the scopes of the blocks, whatever blank lines stand before them and
whatever lines that open no scope stand above. And the scopes of any text
are those of some blocks, so that these can be written down and read again.

## How the proof goes

A `Block` is a line that opens a scope with the lines that continue it. It
can be written down in one way only (`Block.lines`). Section 3 has one
equation for each kind of line: blank, opening, continuing, idle.

* For the first part the lines of a block close the scope that was open and
  open that of the block (`ofLines_block`), with blank lines before it too
  (`ofLines_gap_block`); `ofLines_parts` goes through the blocks.
* For the second part the lines of a text are gone through with the block
  that is open (`ofLines_eq_scopes`): each is blank, opens a block, goes on
  with the open one, or belongs to none.

## Side conditions

No carriage return stands in a block or in the text: one at the end of a
line is dropped when the text is cut into lines, so it would not be read
again. It may stand in the lines above and in blank lines. A name has no
colon, no newline and no blanks at its ends, all of which is part of
`Block`.
-/
import RouterConfig.Proofs.Text.Cutting
import RouterConfig.Schema.Grammar

namespace RouterConfig

/-! ## 1. Lines of a text -/

namespace Text

theorem mem_of_mem_dropReturn {c : Char} {line : List Char} (h : c ∈ dropReturn line) : c ∈ line := by
  fun_induction dropReturn line with
  | case1 => exact h
  | case2 => cases h
  | case3 d line _ ih =>
    rcases List.mem_cons.mp h with rfl | h
    · exact List.mem_cons_self
    · exact List.mem_cons_of_mem _ (ih h)

theorem dropReturn_of_not_mem {line : List Char} (h : '\r' ∉ line) : dropReturn line = line := by
  fun_induction dropReturn line with
  | case1 => rfl
  | case2 => simp at h
  | case3 d line _ ih => rw [ih (fun hmem => h (List.mem_cons_of_mem d hmem))]

theorem lines_join {ls : List String} (h : ∀ line ∈ ls, '\n' ∉ line.toList) :
    lines (join "\n" ls).toList = closeLines (ls.map String.toList) := by
  cases ls with
  | nil => rfl
  | cons line ls =>
    have hsplit := splitAll_join (List.cons_ne_nil line ls) h
    have hnewline : String.singleton '\n' = "\n" := rfl
    rw [hnewline] at hsplit
    rw [lines, hsplit]

/-- A line has characters of the text, and no newline. -/
theorem mem_of_mem_lines {cs line : List Char} {c : Char} (hline : line ∈ lines cs) (hc : c ∈ line) :
    c ∈ cs ∧ c ≠ '\n' := by
  have hclosed : ∀ pieces : List (List Char), line ∈ closeLines pieces →
      ∃ piece ∈ pieces, c ∈ piece := by
    intro pieces hmem
    fun_induction closeLines pieces with
    | case1 => cases hmem
    | case2 => cases hmem
    | case3 last => exact ⟨line, hmem, hc⟩
    | case4 first next rest ih =>
      rcases List.mem_cons.mp hmem with rfl | hmem
      · exact ⟨first, List.mem_cons_self, mem_of_mem_dropReturn hc⟩
      · obtain ⟨piece, hpiece, hc⟩ := ih hmem
        exact ⟨piece, List.mem_cons_of_mem _ hpiece, hc⟩
  obtain ⟨piece, hpiece, hc⟩ := hclosed _ hline
  exact (mem_of_mem_splitWhere hpiece hc).imp_right (by simp)

end Text

namespace Schema

open Scope

/-! ## 2. Blocks -/

/-- A line of a text, without the newline, that opens no scope. -/
def Idle (line : List Char) : Prop := '\n' ∉ line ∧ (isIndented line = true ∨ ':' ∉ line)

/-- A blank line. -/
def Blank (line : List Char) : Prop := '\n' ∉ line ∧ isBlankLine line = true

/-- A line that goes on with the open scope. -/
def Continues (line : List Char) : Prop := Idle line ∧ isBlankLine line = false

instance (line : List Char) : Decidable (Idle line) := inferInstanceAs (Decidable (_ ∧ _))

instance (line : List Char) : Decidable (Blank line) := inferInstanceAs (Decidable (_ ∧ _))

instance (line : List Char) : Decidable (Continues line) := inferInstanceAs (Decidable (_ ∧ _))

/-- A block of a grammar text: the name and the text on the line that opens a scope, and the lines
that continue it. -/
structure Block where
  name : String
  first : String
  more : List String
  colon_not_mem : ':' ∉ name.toList
  newline_not_mem : '\n' ∉ name.toList
  trim_name : Text.trim name = name
  first_line : '\n' ∉ first.toList
  more_continues : ∀ line ∈ more, Continues line.toList

namespace Block

/-- The lines that a block is written with. -/
def lines (b : Block) : List String := (b.name ++ ":" ++ b.first) :: b.more

/-- The text of a block. -/
def text (b : Block) : String := Text.join "\n" b.lines

/-- The scope that a block stands for. -/
def scope (b : Block) : Scope := ⟨b.name, Text.join "\n" (b.first :: b.more)⟩

/-- A text of blocks, each below lines of its own, with further lines above all. -/
def rendering (above : List String) (parts : List (List String × Block)) : String :=
  Text.join "\n" (above ++ parts.flatMap fun part => part.1 ++ part.2.lines)

end Block

/-! ## 3. What a line does -/

theorem opened?_eq_none_iff {line : List Char} :
    opened? line = none ↔ isIndented line = true ∨ ':' ∉ line := by
  by_cases hindented : isIndented line = true
  · simp [opened?, hindented]
  · simp [opened?, hindented, Text.cut_eq_none_iff]

/-- The line that opens a block has no blank at its start, and is not blank. -/
theorem opened?_opening (b : Block) :
    opened? (b.name ++ ":" ++ b.first).toList = some ⟨b.name, b.first⟩ := by
  have hname : Text.trimChars b.name.toList = b.name.toList := by
    have := congrArg String.toList b.trim_name
    simpa [Text.trim] using this
  have hindented : isIndented (b.name.toList ++ ':' :: b.first.toList) = false := by
    have hhead := Text.isBlank_head?_trimChars b.name.toList
    rw [hname] at hhead
    cases hcs : b.name.toList with
    | nil => exact (by decide : Text.isBlank ':' = false)
    | cons c cs => exact hhead c (by simp [hcs])
  have htext : (b.name ++ ":" ++ b.first).toList = b.name.toList ++ ':' :: b.first.toList := by simp
  rw [htext, opened?, hindented, Text.cut_append b.colon_not_mem]
  simp [hname]

theorem isBlankLine_opening (b : Block) :
    isBlankLine (b.name ++ ":" ++ b.first).toList = false := by
  rw [isBlankLine, List.all_eq_false]
  exact ⟨':', by simp, by decide⟩

theorem ofLines_nil (current : Option Scope) : ofLines current [] = current.toList := by
  cases current <;> rfl

theorem ofLines_blank {line : List Char} (h : isBlankLine line = true) (current : Option Scope)
    (rest : List (List Char)) :
    ofLines current (line :: rest) = current.toList ++ ofLines none rest := by
  rw [ofLines, if_pos h]

theorem ofLines_opened {line : List Char} {scope : Scope} (hblank : isBlankLine line = false)
    (h : opened? line = some scope) (current : Option Scope) (rest : List (List Char)) :
    ofLines current (line :: rest) = current.toList ++ ofLines (some scope) rest := by
  rw [ofLines, if_neg (by simp [hblank]), h]

theorem ofLines_continued {line : List Char} (hblank : isBlankLine line = false)
    (h : opened? line = none) (current : Option Scope) (rest : List (List Char)) :
    ofLines current (line :: rest) = ofLines (current.map (·.continued line)) rest := by
  rw [ofLines, if_neg (by simp [hblank]), h]

/-- Below no scope, a line that opens none is passed over. -/
theorem ofLines_idle {line : List Char} (h : opened? line = none) (rest : List (List Char)) :
    ofLines none (line :: rest) = ofLines none rest := by
  cases hblank : isBlankLine line with
  | true => rw [ofLines_blank hblank]; rfl
  | false => rw [ofLines_continued hblank h]; rfl

/-! ## 4. Reading the lines of blocks -/

theorem join_append_first (sep s t : String) (rest : List String) :
    Text.join sep ((s ++ sep ++ t) :: rest) = Text.join sep (s :: t :: rest) := by
  cases rest with
  | nil => rfl
  | cons u rest => simp only [Text.join_cons_cons, String.append_assoc]

/-- Lines that continue a scope are joined to its text. -/
theorem ofLines_continues {more : List String} (h : ∀ line ∈ more, Continues line.toList)
    (name first : String) (rest : List (List Char)) :
    ofLines (some ⟨name, first⟩) (more.map String.toList ++ rest) =
      ofLines (some ⟨name, Text.join "\n" (first :: more)⟩) rest := by
  induction more generalizing first with
  | nil => rfl
  | cons line more ih =>
    obtain ⟨hidle, hblank⟩ := h line List.mem_cons_self
    have hmore := ih (fun l hl => h l (List.mem_cons_of_mem _ hl)) (first ++ "\n" ++ line)
    rw [List.map_cons, List.cons_append, ofLines_continued hblank (opened?_eq_none_iff.mpr hidle.2),
      ← join_append_first, ← hmore]
    simp [Scope.continued]

/-- The lines of a block close the scope that was open, and open that of the block. -/
theorem ofLines_block (b : Block) (current : Option Scope) (rest : List (List Char)) :
    ofLines current (b.lines.map String.toList ++ rest) =
      current.toList ++ ofLines (some b.scope) rest := by
  rw [Block.lines, List.map_cons, List.cons_append,
    ofLines_opened (isBlankLine_opening b) (opened?_opening b), ofLines_continues b.more_continues]
  rfl

/-- So do blank lines before them, as they have no scope to close twice. -/
theorem ofLines_gap_block {gap : List String} (h : ∀ line ∈ gap, Blank line.toList) (b : Block)
    (current : Option Scope) (rest : List (List Char)) :
    ofLines current ((gap ++ b.lines).map String.toList ++ rest) =
      current.toList ++ ofLines (some b.scope) rest := by
  induction gap generalizing current with
  | nil => exact ofLines_block b current rest
  | cons line gap ih =>
    have hgap := ih (fun l hl => h l (List.mem_cons_of_mem _ hl)) none
    rw [List.cons_append, List.map_cons, List.cons_append, ofLines_blank (h line List.mem_cons_self).2,
      hgap]
    rfl

/-- The lines of blocks, with blank lines before each, are read as the scopes of the blocks. -/
theorem ofLines_parts {parts : List (List String × Block)}
    (h : ∀ part ∈ parts, ∀ line ∈ part.1, Blank line.toList) (current : Option Scope) :
    ofLines current ((parts.flatMap fun part => part.1 ++ part.2.lines).map String.toList) =
      current.toList ++ parts.map (·.2.scope) := by
  induction parts generalizing current with
  | nil => simp [ofLines_nil]
  | cons part parts ih =>
    have hparts := ih (fun p hp => h p (List.mem_cons_of_mem _ hp)) (some part.2.scope)
    rw [List.flatMap_cons, List.map_append, ofLines_gap_block (h part List.mem_cons_self), hparts]
    rfl

/-! ## 5. Reading the text of blocks -/

theorem idle_dropReturn {line : List Char} (h : Idle line) : Idle (Text.dropReturn line) := by
  obtain ⟨hnewline, h⟩ := h
  refine ⟨fun hmem => hnewline (Text.mem_of_mem_dropReturn hmem), ?_⟩
  rcases h with hindented | hcolon
  · fun_cases Text.dropReturn line with
    | case1 => exact .inl hindented
    | case2 => exact .inr List.not_mem_nil
    | case3 c line => exact .inl hindented
  · exact .inr fun hmem => hcolon (Text.mem_of_mem_dropReturn hmem)

theorem ofLines_congr {rest rest' : List (List Char)}
    (h : ∀ current, ofLines current rest = ofLines current rest') (current : Option Scope)
    (line : List Char) : ofLines current (line :: rest) = ofLines current (line :: rest') := by
  rw [ofLines, ofLines]
  simp only [h]

/-- Carriage returns at the ends of lines do not matter where they only make blank lines. -/
theorem ofLines_closeLines {pieces : List (List Char)}
    (h : ∀ piece ∈ pieces, '\r' ∉ piece ∨ isBlankLine piece = true) (current : Option Scope) :
    ofLines current (Text.closeLines pieces) = ofLines current pieces := by
  fun_induction Text.closeLines pieces generalizing current with
  | case1 => rfl
  | case2 last hempty =>
    obtain rfl : last = [] := by simpa using hempty
    rw [ofLines_blank rfl, ofLines_nil]
    simp [ofLines_nil]
  | case3 => rfl
  | case4 line next rest ih =>
    have hrest := ih (fun piece hpiece => h piece (List.mem_cons_of_mem _ hpiece))
    rcases h line List.mem_cons_self with hreturn | hblank
    · rw [Text.dropReturn_of_not_mem hreturn]
      exact ofLines_congr hrest current line
    · have hblank' : isBlankLine (Text.dropReturn line) = true := by
        rw [isBlankLine, List.all_eq_true] at hblank ⊢
        exact fun c hc => hblank c (Text.mem_of_mem_dropReturn hc)
      rw [ofLines_blank hblank', ofLines_blank hblank, hrest]

/-- Lines above that open no scope do not matter. -/
theorem ofLines_above {above : List (List Char)} (h : ∀ line ∈ above, Idle line)
    (pieces : List (List Char)) :
    ofLines none (Text.closeLines (above ++ pieces)) = ofLines none (Text.closeLines pieces) := by
  induction above with
  | nil => rfl
  | cons line above ih =>
    have hidle := h line List.mem_cons_self
    have habove := ih (fun l hl => h l (List.mem_cons_of_mem _ hl))
    rw [← habove, List.cons_append]
    cases above ++ pieces with
    | nil =>
      show ofLines none (if line.isEmpty then [] else [line]) = ofLines none []
      split
      case isTrue => rfl
      case isFalse => exact ofLines_idle (opened?_eq_none_iff.mpr hidle.2) []
    | cons next rest =>
      rw [Text.closeLines]
      exact ofLines_idle (opened?_eq_none_iff.mpr (idle_dropReturn hidle).2) _

theorem newline_not_mem_lines (b : Block) : ∀ line ∈ b.lines, '\n' ∉ line.toList := by
  intro line hline
  rcases List.mem_cons.mp hline with rfl | hmore
  · simp [b.newline_not_mem, b.first_line]
  · exact (b.more_continues line hmore).1.1

/-- A text of blocks has the scopes of the blocks. -/
theorem ofText_rendering {above : List String} {parts : List (List String × Block)}
    (habove : ∀ line ∈ above, Idle line.toList)
    (hparts : ∀ part ∈ parts, (∀ line ∈ part.1, Blank line.toList) ∧ '\r' ∉ part.2.text.toList) :
    ofText (Block.rendering above parts) = parts.map (·.2.scope) := by
  let lower := parts.flatMap fun part => part.1 ++ part.2.lines
  have hlower : ∀ line ∈ lower, '\n' ∉ line.toList ∧
      ('\r' ∉ line.toList ∨ isBlankLine line.toList = true) := by
    intro line hline
    obtain ⟨part, hpart, hline⟩ := List.mem_flatMap.mp hline
    obtain ⟨hblank, hreturn⟩ := hparts part hpart
    rcases List.mem_append.mp hline with hgap | hblock
    · exact ⟨(hblank line hgap).1, .inr (hblank line hgap).2⟩
    · exact ⟨newline_not_mem_lines part.2 line hblock,
        .inl fun hmem => hreturn (Text.mem_join_of_mem "\n" hblock hmem)⟩
  have hlines : Text.lines (Block.rendering above parts).toList =
      Text.closeLines (above.map String.toList ++ lower.map String.toList) := by
    rw [Block.rendering, Text.lines_join, List.map_append]
    intro line hline
    rcases List.mem_append.mp hline with hmem | hmem
    · exact (habove line hmem).1
    · exact (hlower line hmem).1
  rw [ofText, hlines, ofLines_above (by simpa using habove), ofLines_closeLines]
  · rw [ofLines_parts fun part hpart => (hparts part hpart).1]
    rfl
  · intro piece hpiece
    obtain ⟨line, hline, rfl⟩ := List.mem_map.mp hpiece
    exact (hlower line hline).2

/-! ## 6. The blocks of any text -/

/-- A line that opens a scope is a block of its own. -/
theorem exists_opening {line : List Char} {scope : Scope} (hline : '\n' ∉ line ∧ '\r' ∉ line)
    (h : opened? line = some scope) : ∃ b : Block, b.scope = scope ∧ '\r' ∉ b.text.toList := by
  rw [opened?] at h
  split at h
  case isTrue => cases h
  case isFalse =>
    obtain ⟨⟨name, first⟩, hcut, rfl⟩ := Option.map_eq_some_iff.mp h
    obtain ⟨rfl, hcolon⟩ := Text.cut_eq_some_iff.mp hcut
    simp only [List.mem_append, List.mem_cons, not_or] at hline
    obtain ⟨⟨hname, -, hfirst⟩, hname', -, hfirst'⟩ := hline
    refine ⟨⟨String.ofList (Text.trimChars name), String.ofList first, [], ?_, ?_, ?_, ?_, ?_⟩,
      rfl, ?_⟩
    · rw [String.toList_ofList]
      exact fun hmem => hcolon (Text.mem_of_mem_trimChars hmem)
    · rw [String.toList_ofList]
      exact fun hmem => hname (Text.mem_of_mem_trimChars hmem)
    · rw [Text.trim, String.toList_ofList, Text.trimChars_trimChars]
    · rwa [String.toList_ofList]
    · exact fun line hline => absurd hline List.not_mem_nil
    · intro hmem
      simp only [Block.text, Block.lines, Text.join_singleton, String.toList_append, List.mem_append,
        String.toList_ofList] at hmem
      rcases hmem with (hmem | hmem) | hmem
      · exact hname' (Text.mem_of_mem_trimChars hmem)
      · exact absurd hmem (by decide)
      · exact hfirst' hmem

/-- The block with one more line that continues it. -/
def Block.continued (b : Block) (line : List Char) (h : Continues line) : Block :=
  { b with
    more := b.more ++ [String.ofList line]
    more_continues := by
      intro l hl
      rcases List.mem_append.mp hl with hl | hl
      · exact b.more_continues l hl
      · obtain rfl : l = String.ofList line := by simpa using hl
        rwa [String.toList_ofList] }

theorem scope_continued (b : Block) {line : List Char} (h : Continues line) :
    (b.continued line h).scope = b.scope.continued line := by
  have hjoin := Text.join_concat "\n" (String.ofList line) (b.first :: b.more) (List.cons_ne_nil _ _)
  simpa [Block.scope, Block.continued, Scope.continued] using hjoin

theorem text_continued (b : Block) {line : List Char} (h : Continues line) :
    (b.continued line h).text = b.text ++ "\n" ++ String.ofList line :=
  Text.join_concat "\n" (String.ofList line) b.lines (List.cons_ne_nil _ _)

/-- The scopes of lines are those of blocks, the first of them the one that was open. -/
theorem ofLines_eq_scopes {lines : List (List Char)}
    (h : ∀ line ∈ lines, '\n' ∉ line ∧ '\r' ∉ line) (current : Option Block)
    (hcurrent : ∀ b ∈ current, '\r' ∉ b.text.toList) : ∃ blocks : List Block,
      ofLines (current.map (·.scope)) lines = blocks.map (·.scope) ∧
        ∀ b ∈ blocks, '\r' ∉ b.text.toList := by
  induction lines generalizing current with
  | nil =>
    refine ⟨current.toList, ?_, by simpa using hcurrent⟩
    rw [ofLines_nil, Option.toList_map]
  | cons line lines ih =>
    have hline := h line List.mem_cons_self
    have hlines := fun l hl => h l (List.mem_cons_of_mem _ hl)
    have hbelow := ih hlines
    -- the open block is complete, and the lines below begin another one, or none
    have hclosed : ∀ next : Option Block, (∀ b ∈ next, '\r' ∉ b.text.toList) →
        ofLines (current.map (·.scope)) (line :: lines) =
          (current.map (·.scope)).toList ++ ofLines (next.map (·.scope)) lines →
        ∃ blocks : List Block,
          ofLines (current.map (·.scope)) (line :: lines) = blocks.map (·.scope) ∧
            ∀ b ∈ blocks, '\r' ∉ b.text.toList := by
      intro next hnext heq
      obtain ⟨blocks, hblocks, hreturn⟩ := hbelow next hnext
      refine ⟨current.toList ++ blocks, ?_, ?_⟩
      · rw [heq, hblocks, List.map_append, Option.toList_map]
      · intro b hb
        rcases List.mem_append.mp hb with hb | hb
        · exact hcurrent b (by simpa using hb)
        · exact hreturn b hb
    cases hblank : isBlankLine line with
    | true => exact hclosed none (by simp) (ofLines_blank hblank _ _)
    | false =>
      cases hopened : opened? line with
      | some scope =>
        obtain ⟨b, rfl, hb⟩ := exists_opening hline hopened
        exact hclosed (some b) (by simpa using hb) (ofLines_opened hblank hopened _ _)
      | none =>
        rw [ofLines_continued hblank hopened]
        cases current with
        | none => exact hbelow none (by simp)
        | some b =>
          have hcontinues : Continues line := ⟨⟨hline.1, opened?_eq_none_iff.mp hopened⟩, hblank⟩
          have hreturn : '\r' ∉ (b.continued line hcontinues).text.toList := by
            simp [text_continued, hcurrent b rfl, hline.2]
          have hrest := hbelow (some (b.continued line hcontinues)) (by simpa using hreturn)
          rwa [Option.map_some, scope_continued] at hrest

/-- The scopes of any text are those of blocks. -/
theorem exists_blocks {text : String} (h : '\r' ∉ text.toList) : ∃ blocks : List Block,
    ofText text = blocks.map (·.scope) ∧ ∀ b ∈ blocks, '\r' ∉ b.text.toList := by
  refine ofLines_eq_scopes (fun line hline => ?_) none (by simp)
  exact ⟨fun hmem => (Text.mem_of_mem_lines hline hmem).2 rfl,
    fun hmem => h (Text.mem_of_mem_lines hline hmem).1⟩

/-- **The scopes of a text are its blocks.** Blocks are read as their scopes, whatever blank lines
stand before them and whatever lines that open no scope stand above. And the scopes of any text are
those of blocks, so that these can be written down and read again. -/
theorem ofText_blocks :
    (∀ (above : List String) (parts : List (List String × Block)),
      (∀ line ∈ above, Idle line.toList) →
      (∀ part ∈ parts, (∀ line ∈ part.1, Blank line.toList) ∧ '\r' ∉ part.2.text.toList) →
      ofText (Block.rendering above parts) = parts.map (·.2.scope)) ∧
    ∀ text : String, '\r' ∉ text.toList → ∃ blocks : List Block,
      ofText text = blocks.map (·.scope) ∧
      (∀ b ∈ blocks, '\r' ∉ b.text.toList) ∧
      ∀ parts : List (List String × Block), parts.map (·.2) = blocks →
        (∀ part ∈ parts, ∀ line ∈ part.1, Blank line.toList) →
        ofText (Block.rendering [] parts) = ofText text := by
  refine ⟨fun above parts habove hparts => ofText_rendering habove hparts, ?_⟩
  intro text htext
  obtain ⟨blocks, hblocks, hreturn⟩ := exists_blocks htext
  refine ⟨blocks, hblocks, hreturn, ?_⟩
  rintro parts rfl hblank
  have hparts : ∀ part ∈ parts, (∀ line ∈ part.1, Blank line.toList) ∧ '\r' ∉ part.2.text.toList :=
    fun part hpart => ⟨hblank part hpart, hreturn part.2 (List.mem_map_of_mem hpart)⟩
  rw [ofText_rendering (by simp) hparts]
  rw [List.map_map] at hblocks
  exact hblocks.symm

theorem ofText_blocks_help :
    let allowed : Block := ⟨"allowed", " local -a a ;", ["    a=(x:y) ;", "echo $a"], by decide,
      by decide, by decide, by decide, by decide⟩
    let help : Block := ⟨"help", " Name", [], by decide, by decide, by decide, by decide, by decide⟩
    let above := ["# ports", "  range: none"]
    let parts := [([], allowed), (["", " \t"], help)]
    ((∀ line ∈ above, Idle line.toList) ∧
      ∀ part ∈ parts, (∀ line ∈ part.1, Blank line.toList) ∧ '\r' ∉ part.2.text.toList) ∧
    ofText "# ports\n  range: none\nallowed: local -a a ;\n    a=(x:y) ;\necho $a\n\n \t\nhelp: Name" =
      [⟨"allowed", " local -a a ;\n    a=(x:y) ;\necho $a"⟩, ⟨"help", " Name"⟩] ∧
    '\r' ∉ "tag :\n".toList ∧ ∃ blocks : List Block, ofText "tag :\n" = blocks.map (·.scope) := by
  intro allowed help above parts
  have habove : ∀ line ∈ above, Idle line.toList := by decide
  have hparts : ∀ part ∈ parts, (∀ line ∈ part.1, Blank line.toList) ∧ '\r' ∉ part.2.text.toList := by
    decide
  have hreturn : '\r' ∉ "tag :\n".toList := by decide
  obtain ⟨blocks, hblocks, -⟩ := ofText_blocks.2 "tag :\n" hreturn
  exact ⟨⟨habove, hparts⟩, ofText_blocks.1 above parts habove hparts, hreturn, blocks, hblocks⟩

end Schema

end RouterConfig
