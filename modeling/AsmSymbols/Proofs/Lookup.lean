import Mathlib.Data.List.Forall2
import AsmSymbols.Report
import AsmSymbols.Proofs.Linking
import AsmSymbols.Proofs.UpperCase

/-!
# Looking symbols up

A scan keeps its tables in good order: no key comes twice, each entry stands under the key of its
own symbol, and under every key of the usage table there is at least one usage (`Keyed`).  So a
look-up answers by what the entries are called, in whatever case, and not by where they happen to
be stored (`Answers`).

A usage list is never empty, so it does not matter what a link or a report would make of an empty
one.  `linkOr` and `renderOr` leave that open.
-/

set_option autoImplicit false

namespace AsmSymbols

section Spelling

/-- `capital` and `small` are the two cases of one ASCII letter. -/
def CasesOfLetter (capital small : Char) : Prop :=
  65 ≤ capital.toNat ∧ capital.toNat ≤ 90 ∧ small.toNat = capital.toNat + 32

/-- The same character, or the two cases of one ASCII letter. -/
def SameLetter (c d : Char) : Prop := c = d ∨ CasesOfLetter c d ∨ CasesOfLetter d c

/-- Spellings that differ in ASCII case at most. -/
def Text.SameUpToCase : Text → Text → Prop := List.Forall₂ SameLetter

theorem toUpper_eq_toUpper_iff {c d : Char} : c.toUpper = d.toUpper ↔ SameLetter c d := by
  simp only [SameLetter, CasesOfLetter, ← Char.toNat_inj]
  rcases toUpper_cases c with ⟨low, high, moved⟩ | ⟨other, kept⟩
  · rcases toUpper_cases d with ⟨lowToo, highToo, movedToo⟩ | ⟨otherToo, keptToo⟩
    · omega
    · rw [keptToo]
      omega
  · rw [kept]
    rcases toUpper_cases d with ⟨lowToo, highToo, movedToo⟩ | ⟨otherToo, keptToo⟩
    · omega
    · rw [keptToo]
      omega

/-- Two spellings share their key exactly if they differ in ASCII case at most. -/
theorem symbolKey_eq_iff {symbol other : Text} :
    symbolKey symbol = symbolKey other ↔ symbol.SameUpToCase other := by
  rw [symbolKey, symbolKey, Text.upper, Text.upper, ← List.forall₂_eq_eq_eq,
    List.forall₂_map_left_iff, List.forall₂_map_right_iff]
  simp only [toUpper_eq_toUpper_iff]
  rfl

end Spelling

section Entries

variable {Key Value Item : Type} [DecidableEq Key]

/-- Where each entry holds items of its own key, the items of a key are those found under it. -/
theorem Table.filter_items {table : Table Key Value} (items : Value → List Item)
    (keyOf : Item → Key) (distinct : table.keys.Nodup)
    (keyed : ∀ entry ∈ table.entries, ∀ item ∈ items entry.2, keyOf item = entry.1) (key : Key) :
    (table.values.flatMap items).filter (fun item => keyOf item = key) =
      ((table.find? key).map items).getD [] := by
  obtain ⟨entries⟩ := table
  induction entries with
  | nil => rfl
  | cons entry rest inductionHypothesis =>
    obtain ⟨other, value⟩ := entry
    obtain ⟨fresh, distinctRest⟩ := List.nodup_cons.mp distinct
    obtain ⟨keyedHere, keyedRest⟩ := List.forall_mem_cons.mp keyed
    have later := inductionHypothesis distinctRest keyedRest
    change ((items value ++ (Table.mk rest).values.flatMap items).filter _) =
      ((Table.findIn? key ((other, value) :: rest)).map items).getD []
    rw [List.filter_append, later, Table.findIn?]
    split
    next same =>
      -- all items of the key are in this entry, since no later one has its key
      subst same
      have allHere : (items value).filter (fun item => keyOf item = other) = items value := by
        rw [List.filter_eq_self]
        intro item inItems
        exact decide_eq_true (keyedHere item inItems)
      have noneLater : (Table.mk rest).find? other = none := Table.find?_eq_none_iff.mpr fresh
      rw [allHere, noneLater]
      exact List.append_nil _
    next differs =>
      have noneHere : (items value).filter (fun item => keyOf item = key) = [] := by
        rw [List.filter_eq_nil_iff]
        intro item inItems sameKey
        exact differs ((keyedHere item inItems).symm.trans (of_decide_eq_true sameKey))
      rw [noneHere]
      rfl

end Entries

namespace DefinitionTable

/-- The table is in good order. -/
structure Keyed (table : DefinitionTable) : Prop where
  distinct : table.keys.Nodup
  keyed : ∀ entry ∈ table.entries, symbolKey entry.2.symbol = entry.1

/-- What the table answers when it is asked for a symbol. -/
structure Answers (table : DefinitionTable) : Prop where
  /-- It defines what it has an entry for. -/
  defined : ∀ symbol, table.defines symbol = true ↔
    ∃ definition ∈ table.values, table.get? symbol = some definition
  anyCase : ∀ symbol other, symbol.SameUpToCase other →
    table.get? symbol = table.get? other ∧ table.defines symbol = table.defines other
  /-- The answer is every entry whose symbol has the key, and no other. -/
  entries : ∀ symbol, (table.get? symbol).toList =
    table.values.filter fun definition => symbolKey definition.symbol = symbolKey symbol

theorem Keyed.answers {table : DefinitionTable} (keyed : table.Keyed) : table.Answers where
  defined := by
    intro symbol
    rw [defines, Table.contains, Option.isSome_iff_exists]
    constructor
    · rintro ⟨definition, found⟩
      have held := Table.mem_entries_of_find? found
      exact ⟨definition, List.mem_map.mpr ⟨_, held, rfl⟩, found⟩
    · rintro ⟨definition, _, found⟩
      exact ⟨definition, found⟩
  anyCase := by
    intro symbol other same
    rw [get?, get?, defines, defines, symbolKey_eq_iff.mpr same]
    exact ⟨rfl, rfl⟩
  entries := by
    intro symbol
    -- a definition stands alone under its key
    have single : ∀ entry ∈ table.entries, ∀ definition ∈ [entry.2],
        symbolKey definition.symbol = entry.1 := by
      intro entry held definition isHeld
      rw [List.mem_singleton.mp isHeld]
      exact keyed.keyed entry held
    have found := Table.filter_items (fun definition => [definition])
      (fun definition => symbolKey definition.symbol) keyed.distinct single (symbolKey symbol)
    rw [List.flatMap_singleton'] at found
    rw [found, get?]
    cases table.find? (symbolKey symbol) <;> rfl

end DefinitionTable

namespace UsageTable

/-- The table is in good order, and no list of usages in it is empty. -/
structure Keyed (table : UsageTable) : Prop where
  distinct : table.keys.Nodup
  keyed : ∀ entry ∈ table.entries, ∀ usage ∈ entry.2, symbolKey usage.symbol = entry.1
  nonempty : ∀ entry ∈ table.entries, entry.2 ≠ []

/-- What the table answers when it is asked for a symbol. -/
structure Answers (table : UsageTable) : Prop where
  /-- It mentions what it has usages of. -/
  mentioned : ∀ symbol, table.mentions symbol = true ↔ table.get symbol ≠ []
  anyCase : ∀ symbol other, symbol.SameUpToCase other →
    table.get symbol = table.get other ∧ table.mentions symbol = table.mentions other
  /-- The answer is every usage whose symbol has the key, and no other. -/
  entries : ∀ symbol, table.get symbol =
    table.values.flatten.filter fun usage => symbolKey usage.symbol = symbolKey symbol

theorem Keyed.answers {table : UsageTable} (keyed : table.Keyed) : table.Answers where
  mentioned := by
    intro symbol
    rw [mentions, Table.contains, get]
    cases found : table.find? (symbolKey symbol) with
    | none => simp
    | some held =>
      have nonempty := keyed.nonempty _ (Table.mem_entries_of_find? found)
      simpa using nonempty
  anyCase := by
    intro symbol other same
    rw [get, get, mentions, mentions, symbolKey_eq_iff.mpr same]
    exact ⟨rfl, rfl⟩
  entries := by
    intro symbol
    have found := Table.filter_items id (fun usage : Usage => symbolKey usage.symbol)
      keyed.distinct keyed.keyed (symbolKey symbol)
    rw [List.flatMap_id] at found
    rw [found, get, Option.map_id, id]

theorem Keyed.renderOr_eq {table : UsageTable} (keyed : table.Keyed) (fallback : Text → Text) :
    table.renderOr fallback = table.render := by
  apply List.flatMap_congr
  rintro ⟨key, held⟩ inTable
  obtain ⟨first, rest, rfl⟩ := List.exists_cons_of_ne_nil (keyed.nonempty _ inTable)
  rfl

end UsageTable

section Fallback

variable {fallback : Module → Text → Option LinkError}

theorem findSome?_congr {α β : Type} {first second : α → Option β} {items : List α}
    (same : ∀ item ∈ items, first item = second item) :
    items.findSome? first = items.findSome? second := by
  rw [← List.head?_filterMap, ← List.head?_filterMap, List.filterMap_congr same]

theorem UsageTable.Keyed.missingOr?_eq {module : Module} (keyed : module.usages.Keyed)
    (globals : Globals) : globals.missingOr? fallback module = globals.missing? module := by
  apply findSome?_congr
  rintro ⟨key, held⟩ inTable
  obtain ⟨first, rest, rfl⟩ := List.exists_cons_of_ne_nil (keyed.nonempty _ inTable)
  rfl

theorem linkOr_eq_link {modules : List Module}
    (keyed : ∀ module ∈ modules, module.usages.Keyed) :
    linkOr fallback modules = link modules := by
  unfold link linkOr
  cases Globals.merge {} (modules.flatMap Module.exports) with
  | error problem => rfl
  | ok globals =>
    have sameProblem : modules.findSome? (globals.missingOr? fallback) =
        modules.findSome? (globals.missingOr? fun _ _ => none) := by
      apply findSome?_congr
      intro module inModules
      exact (keyed module inModules).missingOr?_eq globals
    dsimp only
    rw [sameProblem]

end Fallback

namespace Module

/-- A module that was made from its lines and then scanned any number of times, each time with an
instruction set of its own. -/
inductive Scanned : Module → Prop
  | unscanned (name : Text) (lines : List Text) : Scanned ⟨name, lines, {}⟩
  | again {module : Module} (set : InstructionSet) : Scanned module → Scanned (module.scan set)

variable {module : Module}

theorem Scanned.built (scanned : module.Scanned) : module.Built := by
  cases scanned with
  | unscanned name lines => exact Or.inl rfl
  | again set _ => exact built_scan set _

theorem Built.keyed_definitions (built : module.Built) : module.definitions.Keyed where
  distinct := by
    obtain ⟨labels, used, recorded, ordered, _⟩ := built.recorded
    rw [definitions, recorded]
    exact Symbols.nodup_keys_definitions_recording ordered used
  keyed := by
    rintro ⟨key, definition⟩ held
    exact (built.key_eq held).symm

theorem Built.keyed_usages (built : module.Built) : module.usages.Keyed := by
  obtain ⟨labels, used, recorded, _⟩ := built.recorded
  rw [usages, recorded]
  refine ⟨?_, ?_, ?_⟩
  · rw [Symbols.keys_usages_recording]
    exact nodup_eraseDups _
  · rintro ⟨key, held⟩ inTable
    exact (Symbols.mem_usages_recording inTable).2
  · rintro ⟨key, held⟩ inTable
    exact (Symbols.mem_usages_recording inTable).1

end Module

/-- Modules that were scanned any number of times have tables in good order.  These answer by the
names of their entries, in whatever case.  No report and no link of them meets an empty list of
usages. -/
theorem scanned_tables_answer_by_key (modules : List Module)
    (scanned : ∀ module ∈ modules, module.Scanned) :
    (∀ module ∈ modules, module.definitions.Keyed ∧ module.usages.Keyed ∧
        module.definitions.Answers ∧ module.usages.Answers ∧
        ∀ fallback, module.usages.renderOr fallback = module.usages.render) ∧
      ∀ fallback, linkOr fallback modules = link modules := by
  have keyed : ∀ module ∈ modules, module.definitions.Keyed ∧ module.usages.Keyed := by
    intro module inModules
    have built := (scanned module inModules).built
    exact ⟨built.keyed_definitions, built.keyed_usages⟩
  constructor
  · intro module inModules
    obtain ⟨definitions, usages⟩ := keyed module inModules
    exact ⟨definitions, usages, definitions.answers, usages.answers, usages.renderOr_eq⟩
  · intro fallback
    exact linkOr_eq_link fun module inModules => (keyed module inModules).2

/-- Two passes over one module, with different instruction sets, beside a module without any.  The
look-up for `N` finds what is spelled `n` and `N` in the table. -/
theorem scanned_tables_answer_after_two_passes :
    let made : Module :=
      ⟨"a".toList, ["loop: load n".toList, "JMP Loop,N".toList, "n: space".toList], {}⟩
    let module := (made.scan (.ofWords ["LDA".toList] [])).scan .standard
    let unscanned : Module := ⟨"b".toList, ["JMP x".toList], {}⟩
    let modules := [module, unscanned]
    (∀ other ∈ modules, other.Scanned) ∧
      module.usages.get "N".toList = [⟨"n".toList, 0, 11⟩, ⟨"N".toList, 1, 9⟩] ∧
      module.usages.get "N".toList = module.usages.values.flatten.filter
        (fun usage => symbolKey usage.symbol = symbolKey "N".toList) ∧
      module.definitions.get? "LOOP".toList = module.definitions.get? "loop".toList ∧
      ∀ fallback, linkOr fallback modules = link modules := by
  intro made module unscanned modules
  have scanned : ∀ other ∈ modules, other.Scanned := by
    intro other inModules
    rcases List.mem_pair.mp inModules with rfl | rfl
    · exact .again _ (.again _ (.unscanned _ _))
    · exact .unscanned _ _
  have whole := scanned_tables_answer_by_key modules scanned
  obtain ⟨_, _, definitions, usages, _⟩ := whole.1 module List.mem_cons_self
  have sameName : Text.SameUpToCase "LOOP".toList "loop".toList :=
    symbolKey_eq_iff.mp (by decide)
  exact ⟨scanned, by decide +kernel, usages.entries _, (definitions.anyCase _ _ sameName).1,
    whole.2⟩

end AsmSymbols
