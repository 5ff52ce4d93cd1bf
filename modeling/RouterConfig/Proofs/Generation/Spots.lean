/-
RouterConfig.Proofs.Generation.Spots — the places at which a run sets
values, and why no two of them get in each other's way.

A spot is a stem, which an item of the inventory has for itself, and the
fixed words below it. The key of a proper spot is within the key of no
other one (`Spot.eq_of_keyWithin`), so no value is set twice and none
above another. The network address of a subnet may hold a slash; its
length then looks like a step of its own, but it is no word that stands
below a subnet.
-/
import RouterConfig.Generation.Networks
import RouterConfig.Proofs.Path.Key

namespace RouterConfig

namespace Generation

/-! ## 1. Spots -/

/-- The definition under which an item of the inventory puts its values. -/
inductive Stem where
  | portGroup (name : String)
  | interface (name : String)
  | ruleSet (name : String)
  | rule (ruleSet : RuleSet) (number : String)
  | subnet (network cidr : String)
  | mapping (network cidr host : String)
  deriving DecidableEq, Repr

namespace Stem

/-- The steps to a stem. -/
def literal : Stem → List String
  | .portGroup name => ["firewall", "group", "port-group", name]
  | .interface name => ["interfaces", "ethernet", name]
  | .ruleSet name => ["firewall", "name", name]
  | .rule (.firewall name) number => ["firewall", "name", name, "rule", number]
  | .rule .nat number => ["nat", "destination", "rule", number]
  | .subnet network cidr =>
    ["service", "dhcp-server", "shared-network-name", network, "subnet", cidr]
  | .mapping network cidr host => ["service", "dhcp-server", "shared-network-name", network,
    "subnet", cidr, "static-mapping", host]

theorem literal_ne_nil (stem : Stem) : stem.literal ≠ [] := by
  cases stem with
  | rule ruleSet number => cases ruleSet <;> simp [literal]
  | _ => simp [literal]

/-- The words below a stem under which there may be values. -/
def leaves : Stem → List (List String)
  | .portGroup _ => [["port"], ["description"]]
  | .interface _ => [["description"], ["address"], ["firewall", "in", "name"],
    ["firewall", "out", "name"], ["firewall", "local", "name"]]
  | .ruleSet _ => [["default-action"]]
  | .rule (.firewall _) _ => [["action"], ["protocol"], ["log"], ["description"],
    ["source", "address"], ["source", "port"], ["source", "group", "port-group"],
    ["destination", "address"], ["destination", "port"],
    ["destination", "group", "port-group"]]
  | .rule .nat _ => [["description"], ["inbound-interface"], ["protocol"],
    ["destination", "port"], ["translation", "address"], ["translation", "port"]]
  | .subnet _ _ => [["default-router"], ["dns-server"], ["domain-name"], ["lease"],
    ["range", "0", "start"], ["range", "0", "stop"]]
  | .mapping _ _ _ => [["ip-address"], ["mac-address"]]

end Stem

/-- A place at which a run may set a value. -/
structure Spot where
  stem : Stem
  words : List String
  deriving DecidableEq, Repr

/-- The key of a spot. -/
def Spot.key (s : Spot) : String := Text.join "/" (s.stem.literal ++ s.words)

/-! ## 2. Proper spots -/

/-- A name without a slash. -/
def Plain (name : String) : Prop := '/' ∉ name.toList

instance (name : String) : Decidable (Plain name) := inferInstanceAs (Decidable (_ ∉ _))

/-- The pieces of a network address: the address, and its length if there is one. -/
inductive CidrPieces : String → List String → Prop
  | address {address : String} : Plain address → CidrPieces address [address]
  | sized {address length : String} : Plain address → (∀ c ∈ length.toList, c.isDigit = true) →
      CidrPieces (address ++ "/" ++ length) [address, length]

/-- The pieces of the key of a stem, none with a slash. -/
inductive Stem.Pieces : Stem → List String → Prop
  | portGroup {name : String} : Plain name →
      Pieces (.portGroup name) ["firewall", "group", "port-group", name]
  | interface {name : String} : Plain name →
      Pieces (.interface name) ["interfaces", "ethernet", name]
  | ruleSet {name : String} : Plain name → Pieces (.ruleSet name) ["firewall", "name", name]
  | firewallRule {name number : String} : Plain name → Plain number →
      Pieces (.rule (.firewall name) number) ["firewall", "name", name, "rule", number]
  | natRule {number : String} : Plain number →
      Pieces (.rule .nat number) ["nat", "destination", "rule", number]
  | subnet {network cidr : String} {pieces : List String} : Plain network →
      CidrPieces cidr pieces → Pieces (.subnet network cidr)
        ("service" :: "dhcp-server" :: "shared-network-name" :: network :: "subnet" :: pieces)
  | mapping {network cidr host : String} {pieces : List String} : Plain network →
      CidrPieces cidr pieces → Plain host → Pieces (.mapping network cidr host)
        ("service" :: "dhcp-server" :: "shared-network-name" :: network :: "subnet" ::
          (pieces ++ ["static-mapping", host]))

/-- A spot whose names have no slashes and whose words are those of its stem. -/
structure Spot.Proper (s : Spot) : Prop where
  pieces : ∃ pieces, s.stem.Pieces pieces
  mem_leaves : s.words ∈ s.stem.leaves

theorem CidrPieces.join {cidr : String} {pieces : List String} (h : CidrPieces cidr pieces)
    (rest : List String) :
    Text.join "/" (pieces ++ rest) = Text.join "/" (cidr :: rest) := by
  cases h with
  | address => rfl
  | sized =>
    cases rest with
    | nil => rfl
    | cons a rest =>
      simp only [List.cons_append, List.nil_append, Text.join_cons_cons, String.append_assoc]

theorem CidrPieces.plain {cidr : String} {pieces : List String} (h : CidrPieces cidr pieces) :
    pieces ≠ [] ∧ ∀ p ∈ pieces, Plain p := by
  cases h with
  | address haddress => simpa using haddress
  | sized haddress hlength =>
    refine ⟨by simp, ?_⟩
    intro p hp
    rcases List.mem_cons.mp hp with rfl | hp
    · exact haddress
    · obtain rfl := List.mem_singleton.mp hp
      intro hslash
      exact absurd (hlength '/' hslash) (by decide)

theorem join_append_congr (first : List String) {l l' : List String} (hne : l ≠ [])
    (hne' : l' ≠ []) (h : Text.join "/" l = Text.join "/" l') :
    Text.join "/" (first ++ l) = Text.join "/" (first ++ l') := by
  by_cases hfirst : first = []
  · subst hfirst
    exact h
  · rw [Text.join_append hfirst hne, Text.join_append hfirst hne', h]

/-- The pieces are those of the key. -/
theorem Stem.Pieces.join {stem : Stem} {pieces : List String} (h : stem.Pieces pieces)
    (words : List String) :
    Text.join "/" (pieces ++ words) = Text.join "/" (stem.literal ++ words) := by
  have hcidr : ∀ (network : String) {cidr : String} {pieces : List String},
      CidrPieces cidr pieces → ∀ rest,
      Text.join "/" ("service" :: "dhcp-server" :: "shared-network-name" :: network ::
          "subnet" :: (pieces ++ rest))
        = Text.join "/" ("service" :: "dhcp-server" :: "shared-network-name" :: network ::
          "subnet" :: cidr :: rest) := by
    intro network cidr pieces h rest
    have hne : pieces ++ rest ≠ [] := List.append_ne_nil_of_left_ne_nil h.plain.1 rest
    exact join_append_congr ["service", "dhcp-server", "shared-network-name", network, "subnet"]
      hne (by simp) (h.join rest)
  cases h with
  | subnet _ h => exact hcidr _ h words
  | @mapping network cidr host pieces _ h _ =>
    have := hcidr network h ("static-mapping" :: host :: words)
    simpa [literal] using this
  | _ => rfl

theorem Stem.Pieces.plain {stem : Stem} {pieces : List String} (h : stem.Pieces pieces) :
    pieces ≠ [] ∧ ∀ p ∈ pieces, Plain p := by
  have hwords : Plain "firewall" ∧ Plain "group" ∧ Plain "port-group" ∧ Plain "interfaces" ∧
      Plain "ethernet" ∧ Plain "name" ∧ Plain "rule" ∧ Plain "nat" ∧ Plain "destination" ∧
      Plain "service" ∧ Plain "dhcp-server" ∧ Plain "shared-network-name" ∧ Plain "subnet" ∧
      Plain "static-mapping" := by decide
  cases h with
  | subnet hnetwork h =>
    have := h.plain.2
    simp_all
  | mapping hnetwork h hhost =>
    have := h.plain.2
    simp_all [or_imp]
  | _ => simp_all

/-- The words below stems have no slashes. -/
theorem Stem.plain_of_mem_leaves {stem : Stem} {words : List String} (h : words ∈ stem.leaves) :
    words ≠ [] ∧ ∀ w ∈ words, Plain w := by
  have hleaves : ∀ words ∈ stem.leaves, words ≠ [] ∧ ∀ w ∈ words, Plain w := by
    cases stem with
    | rule ruleSet number => cases ruleSet <;> (dsimp only [leaves]; decide)
    | _ => dsimp only [leaves]; decide
  exact hleaves words h

/-! ## 3. Keys of proper spots -/

theorem Stem.Pieces.proper {stem : Stem} {pieces words : List String} (h : stem.Pieces pieces)
    (hwords : words ∈ stem.leaves) : (Spot.mk stem words).Proper := ⟨⟨pieces, h⟩, hwords⟩

/-- A text that cannot be the length of a network. -/
def Worded (word : String) : Prop := word.toList.all Char.isDigit = false

instance (word : String) : Decidable (Worded word) := inferInstanceAs (Decidable (_ = _))

theorem Worded.not_digits {word : String} (h : Worded word) :
    ¬ ∀ c ∈ word.toList, c.isDigit = true := by
  rw [← List.all_eq_true, h]
  exact Bool.false_ne_true

theorem worded_mapping : Worded "static-mapping" := by decide

/-- A network address is told from what starts with a word. -/
theorem CidrPieces.cancel {cidr cidr' : String} {pieces pieces' : List String}
    (h : CidrPieces cidr pieces) (h' : CidrPieces cidr' pieces') {word word' : String}
    (hword : Worded word) (hword' : Worded word') {rest rest' : List String}
    (hstarts : pieces ++ word :: rest <+: pieces' ++ word' :: rest') :
    cidr = cidr' ∧ word :: rest <+: word' :: rest' := by
  cases h with
  | address =>
    cases h' with
    | address => simpa using hstarts
    | sized _ hlength =>
      -- the word would be the length of the other network
      simp only [List.cons_append, List.nil_append, List.cons_prefix_cons] at hstarts
      obtain ⟨-, rfl, -⟩ := hstarts
      exact absurd hlength hword.not_digits
  | sized _ hlength =>
    cases h' with
    | address =>
      simp only [List.cons_append, List.nil_append, List.cons_prefix_cons] at hstarts
      obtain ⟨-, rfl, -⟩ := hstarts
      exact absurd hlength hword'.not_digits
    | sized =>
      simp only [List.cons_append, List.nil_append, List.cons_prefix_cons] at hstarts
      obtain ⟨rfl, rfl, hstarts⟩ := hstarts
      exact ⟨rfl, List.cons_prefix_cons.mpr hstarts⟩

/-- What stands below a subnet starts with a word. -/
theorem Stem.worded_of_mem_leaves {network cidr : String} {words : List String}
    (h : words ∈ (Stem.subnet network cidr).leaves) :
    ∃ word rest, words = word :: rest ∧ Worded word ∧ word ≠ "static-mapping" := by
  have hleaves : ∀ words ∈ (Stem.subnet network cidr).leaves,
      words = words.headD "" :: words.tail ∧ Worded (words.headD "") ∧
        words.headD "" ≠ "static-mapping" := by
    dsimp only [leaves]
    decide
  exact ⟨_, _, hleaves words h⟩

/-- The words below a stem do not start one another. -/
theorem Stem.eq_of_mem_leaves {stem : Stem} {words words' : List String}
    (h : words ∈ stem.leaves) (h' : words' ∈ stem.leaves) (hstarts : words <+: words') :
    words = words' := by
  have hleaves : ∀ words ∈ stem.leaves, ∀ words' ∈ stem.leaves, words <+: words' →
      words = words' := by
    cases stem with
    | rule ruleSet number => cases ruleSet <;> (dsimp only [leaves]; decide)
    | _ => dsimp only [leaves]; decide
  exact hleaves words h words' h' hstarts

/-- Pieces with words below them start others only for the same stem. -/
theorem Stem.Pieces.cancel {stem stem' : Stem} {pieces pieces' words words' : List String}
    (h : stem.Pieces pieces) (h' : stem'.Pieces pieces') (hwords : words ∈ stem.leaves)
    (hwords' : words' ∈ stem'.leaves) (hstarts : pieces ++ words <+: pieces' ++ words') :
    stem = stem' ∧ words <+: words' := by
  cases h with
  | portGroup => cases h' <;> simp_all [List.cons_prefix_cons]
  | interface => cases h' <;> simp_all [List.cons_prefix_cons]
  | ruleSet => cases h' <;> simp_all [List.cons_prefix_cons, leaves]
  | firewallRule => cases h' <;> simp_all [List.cons_prefix_cons, leaves]
  | natRule => cases h' <;> simp_all [List.cons_prefix_cons]
  | subnet _ hcidr =>
    obtain ⟨word, rest, rfl, hword, hne⟩ := worded_of_mem_leaves hwords
    cases h' with
    | subnet _ hcidr' =>
      obtain ⟨word', rest', rfl, hword', -⟩ := worded_of_mem_leaves hwords'
      simp only [List.cons_append, List.cons_prefix_cons, true_and] at hstarts
      obtain ⟨rfl, hstarts⟩ := hstarts
      obtain ⟨rfl, hstarts⟩ := hcidr.cancel hcidr' hword hword' hstarts
      exact ⟨rfl, hstarts⟩
    | mapping _ hcidr' =>
      simp only [List.cons_append, List.append_assoc, List.nil_append, List.cons_prefix_cons,
        true_and] at hstarts
      obtain ⟨-, hstarts⟩ := hstarts
      obtain ⟨-, hstarts⟩ := hcidr.cancel hcidr' hword worded_mapping hstarts
      exact absurd (List.cons_prefix_cons.mp hstarts).1 hne
    | _ => simp_all [List.cons_prefix_cons]
  | mapping _ hcidr =>
    cases h' with
    | subnet _ hcidr' =>
      obtain ⟨word', rest', rfl, hword', hne⟩ := worded_of_mem_leaves hwords'
      simp only [List.cons_append, List.append_assoc, List.nil_append, List.cons_prefix_cons,
        true_and] at hstarts
      obtain ⟨-, hstarts⟩ := hstarts
      obtain ⟨-, hstarts⟩ := hcidr.cancel hcidr' worded_mapping hword' hstarts
      exact absurd (List.cons_prefix_cons.mp hstarts).1.symm hne
    | mapping _ hcidr' =>
      simp only [List.cons_append, List.append_assoc, List.nil_append, List.cons_prefix_cons,
        true_and] at hstarts
      obtain ⟨rfl, hpieces⟩ := hstarts
      obtain ⟨rfl, hhost⟩ := hcidr.cancel hcidr' worded_mapping worded_mapping hpieces
      simp only [List.cons_prefix_cons, true_and] at hhost
      obtain ⟨rfl, hwords⟩ := hhost
      exact ⟨rfl, hwords⟩
    | _ => simp_all [List.cons_prefix_cons]

/-- **The key of a proper spot is within the key of no other.** -/
theorem Spot.eq_of_keyWithin {s s' : Spot} (h : s.Proper) (h' : s'.Proper)
    (hwithin : KeyWithin s.key s'.key) : s = s' := by
  obtain ⟨pieces, hpieces⟩ := h.pieces
  obtain ⟨pieces', hpieces'⟩ := h'.pieces
  rw [key, key, ← hpieces.join, ← hpieces'.join] at hwithin
  have hplain : ∀ {pieces words : List String} {stem : Stem}, stem.Pieces pieces →
      words ∈ stem.leaves → ∀ p ∈ pieces ++ words, Plain p := by
    intro pieces words stem hpieces hwords p hp
    rcases List.mem_append.mp hp with hp | hp
    · exact hpieces.plain.2 p hp
    · exact (Stem.plain_of_mem_leaves hwords).2 p hp
  have hstarts := hwithin.prefix_of_join (hplain hpieces h.mem_leaves)
    (hplain hpieces' h'.mem_leaves) (List.append_ne_nil_of_left_ne_nil hpieces.plain.1 _)
    (List.append_ne_nil_of_left_ne_nil hpieces'.plain.1 _)
  obtain ⟨hstem, hwords⟩ := hpieces.cancel hpieces' h.mem_leaves h'.mem_leaves hstarts
  have hsame : s.words = s'.words :=
    Stem.eq_of_mem_leaves (hstem ▸ h.mem_leaves) h'.mem_leaves hwords
  cases s
  cases s'
  simp_all

end Generation

end RouterConfig
