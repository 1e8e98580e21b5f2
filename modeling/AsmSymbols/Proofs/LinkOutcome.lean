import Mathlib.Data.Prod.Lex
import AsmSymbols.Proofs.Linking

/-!
# What decides a link

A link succeeds exactly if every key is defined in one place and every used key somewhere, and then
its table lists the definitions of the modules one after the other.  Otherwise it reports the first
problem.  The linker itself walks tables: that the order of the tables is the order of the source is
what a scan guarantees (`Module.Built`), so the problem it meets first is also the first in the
source.
-/

set_option autoImplicit false

namespace AsmSymbols

/-- No key is defined at two places of the list. -/
def DefinedOnce (modules : List Module) : Prop :=
  ∀ (i j : Nat) (first second : Module) (key : Text), modules[i]? = some first →
    modules[j]? = some second → first.DefinesKey key → second.DefinesKey key → i = j

section Keys

variable {modules : List Module}

/-- No key is exported twice, exactly if none is defined at two places. -/
theorem nodup_exports_iff (built : ∀ module ∈ modules, module.Built) :
    ((modules.flatMap Module.exports).map Export.key).Nodup ↔ DefinedOnce modules := by
  constructor
  · intro distinct i j first second key atFirst atSecond byFirst bySecond
    have builtFirst := built first (List.mem_of_getElem? atFirst)
    have builtSecond := built second (List.mem_of_getElem? atSecond)
    obtain ⟨offered, inFirst, rfl⟩ := builtFirst.definesKey_iff.mp byFirst
    obtain ⟨other, inSecond, sameKey⟩ := builtSecond.definesKey_iff.mp bySecond
    exact place_unique_of_nodup distinct atFirst atSecond inFirst inSecond sameKey.symm
  · intro once
    rw [List.map_flatMap]
    refine List.pairwise_flatMap.mpr ⟨?_, List.pairwise_iff_getElem.mpr ?_⟩
    · intro module inModules
      exact List.pairwise_map.mpr ((built module inModules).exports_pairwise.imp And.right)
    · rintro i j boundFirst boundSecond lower key inFirst _ inSecond rfl
      rw [List.mem_map, ← (built _ (List.getElem_mem boundFirst)).definesKey_iff] at inFirst
      rw [List.mem_map, ← (built _ (List.getElem_mem boundSecond)).definesKey_iff] at inSecond
      have := once i j _ _ key (List.getElem?_eq_getElem boundFirst)
        (List.getElem?_eq_getElem boundSecond) inFirst inSecond
      omega

theorem mem_exportKeys_iff (built : ∀ module ∈ modules, module.Built) {key : Text} :
    key ∈ (modules.flatMap Module.exports).map Export.key ↔
      ∃ module ∈ modules, module.DefinesKey key := by
  rw [List.map_flatMap, List.mem_flatMap]
  refine exists_congr fun module => and_congr_right fun inModules => ?_
  rw [(built module inModules).definesKey_iff, List.mem_map]

end Keys

section Missing

variable {globals : Globals} {module : Module} {labels : List Definition} {used : List Usage}

/-- Going through usages key by key, in the order of their first usages, the first usage of the
first key that is asked for is the first usage of any such key. -/
theorem findSome?_firstKeys {α : Type} (asked : Text → Bool) (report : Usage → α)
    (used : List Usage) :
    ((used.map Usage.key).eraseDups.findSome? fun key =>
        if asked key then (used.find? fun usage => usage.key = key).map report else none) =
      (used.find? fun usage => asked usage.key).map report := by
  cases found : used.find? fun usage => asked usage.key with
  | none =>
    rw [List.find?_eq_none] at found
    rw [Option.map_none, List.findSome?_eq_none_iff]
    intro key inKeys
    obtain ⟨usage, inUsed, rfl⟩ := List.mem_map.mp (List.mem_eraseDups.mp inKeys)
    exact if_neg (found usage inUsed)
  | some usage =>
    obtain ⟨isAsked, before, after, rfl, others⟩ := List.find?_eq_some_iff_append.mp found
    have fresh : ∀ other ∈ before, other.key ≠ usage.key := by
      intro other inBefore sameKey
      have := others other inBefore
      rw [sameKey, isAsked] at this
      cases this
    have first : (before ++ usage :: after).find? (fun other => other.key = usage.key) =
        some usage := by
      refine List.find?_eq_some_iff_append.mpr ⟨by simp, before, after, rfl, ?_⟩
      intro other inBefore
      simpa using fresh other inBefore
    have unasked : (before.map Usage.key).eraseDups.findSome? (fun key =>
        if asked key then ((before ++ usage :: after).find? fun other => other.key = key).map report
        else none) = none := by
      rw [List.findSome?_eq_none_iff]
      intro key inKeys
      obtain ⟨other, inBefore, rfl⟩ := List.mem_map.mp (List.mem_eraseDups.mp inKeys)
      exact if_neg (by simpa using others other inBefore)
    have notBefore : usage.key ∉ before.map Usage.key := by
      simpa using fresh
    rw [List.map_append, List.map_cons, List.eraseDups_append, List.findSome?_append, unasked,
      Option.none_or, List.removeAll, List.filter_cons_of_pos (by simpa using notBefore),
      List.eraseDups_cons, List.findSome?_cons, if_pos isAsked, first]
    rfl

/-- The linker misses the first usage in the source whose key is not in its table. -/
theorem Globals.missing?_of_recorded (recorded : module.symbols = Symbols.recording labels used) :
    globals.missing? module =
      (used.find? fun usage => !globals.contains usage.key).map fun usage =>
        .undefined usage module.name := by
  rw [← findSome?_firstKeys (fun key => !globals.contains key), missing?, missingOr?, Module.usages,
    recorded, Symbols.recording, List.findSome?_map]
  congr 1
  funext key
  cases held : globals.contains key <;> simp [held, List.head?_filter]

theorem Module.mem_usages_iff (recorded : module.symbols = Symbols.recording labels used)
    {usage : Usage} : (∃ held ∈ module.usages.values, usage ∈ held) ↔ usage ∈ used := by
  rw [← List.mem_flatten, Module.usages, recorded]
  exact (flatten_usages_recording labels used).mem_iff

theorem Globals.undefined_of_missing? {problem : LinkError}
    (missing : globals.missing? module = some problem) :
    ∃ usage, problem = .undefined usage module.name := by
  obtain ⟨⟨key, held⟩, _, reported⟩ := List.exists_of_findSome?_eq_some missing
  rw [Option.ite_none_left_eq_some, Option.or_none] at reported
  obtain ⟨usage, _, rfl⟩ := Option.map_eq_some_iff.mp reported.2
  exact ⟨usage, rfl⟩

theorem Globals.missing?_eq_none_iff (built : module.Built) :
    globals.missing? module = none ↔ ∀ key ∈ module.usages.keys, globals.contains key = true := by
  obtain ⟨labels, used, recorded, _⟩ := built.recorded
  have keys : module.usages.keys = (used.map Usage.key).eraseDups := by
    rw [Module.usages, recorded, Symbols.keys_usages_recording]
  rw [missing?_of_recorded recorded, Option.map_eq_none_iff, List.find?_eq_none, keys]
  simp only [List.mem_eraseDups, List.mem_map, forall_exists_index, and_imp,
    forall_apply_eq_imp_iff₂, Bool.not_eq_true', Bool.not_eq_false]

end Missing

section Outcome

variable {modules : List Module}

/-- A link meets an export whose key is taken.  Or it merges all exports, and then no module has a
missing symbol, or the first one that has is reported. -/
theorem link_cases (modules : List Module) :
    (∃ before offered after held, modules.flatMap Module.exports = before ++ offered :: after ∧
        (before.map Export.key).Nodup ∧
        (offered.key, held) ∈ before.map (fun other => (other.key, other.definition)) ∧
        link modules =
          .error (.multiplyDefined offered.symbol held.module offered.definition.module)) ∨
      ∃ globals : Globals,
        globals.entries = (modules.flatMap Module.exports).map
          (fun offered => (offered.key, offered.definition)) ∧
        ((modules.flatMap Module.exports).map Export.key).Nodup ∧
        (((∀ module ∈ modules, globals.missing? module = none) ∧ link modules = .ok globals) ∨
          ∃ earlier module later usage, modules = earlier ++ module :: later ∧
            (∀ other ∈ earlier, globals.missing? other = none) ∧
            globals.missing? module = some (.undefined usage module.name) ∧
            link modules = .error (.undefined usage module.name)) := by
  have noKeys : (Table.keys ({} : Globals)).Nodup := List.nodup_nil
  rcases Globals.merge_cases noKeys (modules.flatMap Module.exports) with
    ⟨globals, merged, entries, distinct⟩ |
    ⟨before, offered, after, held, split, distinct, taken, failed⟩
  · refine Or.inr ⟨globals, entries, ?_, ?_⟩
    · rw [Table.keys, entries] at distinct
      simpa [Function.comp_def] using distinct
    · rw [link_of_merged merged]
      cases searched : modules.findSome? globals.missing? with
      | none => exact Or.inl ⟨List.findSome?_eq_none_iff.mp searched, rfl⟩
      | some problem =>
        obtain ⟨earlier, module, later, split, missing, complete⟩ :=
          List.findSome?_eq_some_iff.mp searched
        obtain ⟨usage, rfl⟩ := Globals.undefined_of_missing? missing
        exact Or.inr ⟨earlier, module, later, usage, split, complete, missing, rfl⟩
  · exact Or.inl ⟨before, offered, after, held, split, distinct, taken, link_of_unmerged failed⟩

theorem contains_merged_iff (built : ∀ module ∈ modules, module.Built) {globals : Globals}
    (entries : globals.entries = (modules.flatMap Module.exports).map
      (fun offered => (offered.key, offered.definition))) {key : Text} :
    globals.contains key = true ↔ ∃ definer ∈ modules, definer.DefinesKey key := by
  rw [← mem_exportKeys_iff built, Table.contains_iff, Table.keys, entries, List.map_map]
  rfl

/-- An export whose key is taken repeats a key. -/
theorem not_nodup_of_taken {before after : List Export} {offered : Export} {held : GlobalDefinition}
    (split : modules.flatMap Module.exports = before ++ offered :: after)
    (taken : (offered.key, held) ∈ before.map (fun other => (other.key, other.definition))) :
    ¬ ((modules.flatMap Module.exports).map Export.key).Nodup := by
  intro distinct
  obtain ⟨other, inBefore, sameEntry⟩ := List.mem_map.mp taken
  have sameKey : other.key = offered.key := congrArg Prod.fst sameEntry
  rw [split, List.map_append, List.nodup_append] at distinct
  exact distinct.2.2 _ (List.mem_map_of_mem inBefore) _ (by simp) sameKey

theorem not_definedOnce_of_taken (built : ∀ module ∈ modules, module.Built)
    {before after : List Export} {offered : Export} {held : GlobalDefinition}
    (split : modules.flatMap Module.exports = before ++ offered :: after)
    (taken : (offered.key, held) ∈ before.map (fun other => (other.key, other.definition))) :
    ¬ DefinedOnce modules := by
  rw [← nodup_exports_iff built]
  exact not_nodup_of_taken split taken

/-- A link of modules succeeds exactly if no key is defined at two places and every used key is
defined at some place.  Its table then lists what the modules define themselves, module by module
and each in the order of its table. -/
theorem link_succeeds_iff (modules : List Module) (built : ∀ module ∈ modules, module.Built) :
    ((∃ globals, link modules = .ok globals) ↔
        DefinedOnce modules ∧ ∀ module ∈ modules, ∀ key ∈ module.usages.keys,
          ∃ definer ∈ modules, definer.DefinesKey key) ∧
      ∀ globals, link modules = .ok globals →
        globals.entries = modules.flatMap fun module =>
          (module.definitions.values.filter fun definition => !definition.external).map
            fun definition => (Text.upper definition.symbol,
              ⟨module.name, definition.line, definition.offset⟩) := by
  constructor
  · rcases link_cases modules with ⟨before, offered, after, held, split, _, taken, failed⟩ |
      ⟨merged, entries, distinct, outcome⟩
    · simp [failed, not_definedOnce_of_taken built split taken]
    · have once : DefinedOnce modules := (nodup_exports_iff built).mp distinct
      have resolved : (∀ module ∈ modules, merged.missing? module = none) ↔
          ∀ module ∈ modules, ∀ key ∈ module.usages.keys,
            ∃ definer ∈ modules, definer.DefinesKey key := by
        refine forall₂_congr fun module inModules => ?_
        rw [Globals.missing?_eq_none_iff (built module inModules)]
        simp only [contains_merged_iff built entries]
      rw [and_iff_right once, ← resolved]
      rcases outcome with ⟨complete, linked⟩ | ⟨_, module, _, usage, rfl, _, missing, failed⟩
      · exact ⟨fun _ => complete, fun _ => ⟨merged, linked⟩⟩
      · constructor
        · rintro ⟨globals, linked⟩
          rw [failed] at linked
          cases linked
        · intro complete
          rw [complete module (by simp)] at missing
          cases missing
  · intro globals linked
    rw [(link_ok linked).1, List.map_flatMap]
    refine List.flatMap_congr fun module _ => ?_
    rw [Module.exports, List.map_map]
    rfl

/-- A module that only declares a symbol that it uses, the module that defines it, and a third one
whose label of the same name was not scanned yet. -/
theorem link_succeeds_of_one_definition :
    let modules := [(Module.ofText "a".toList "Y: EXTERN\nLOAD y".toList).scan .standard,
      (Module.ofText "b".toList "y: SPACE".toList).scan .standard,
      Module.ofText "c".toList "Y: STOP".toList]
    (∀ module ∈ modules, module.Built) ∧ link modules = .ok ⟨[("Y".toList, ⟨"b".toList, 0, 0⟩)]⟩ ∧
      DefinedOnce modules ∧ ∀ module ∈ modules, ∀ key ∈ module.usages.keys,
        ∃ definer ∈ modules, definer.DefinesKey key := by
  intro modules
  have built : ∀ module ∈ modules, module.Built := by
    simp only [modules, List.forall_mem_cons]
    exact ⟨Module.built_scan _ _, Module.built_scan _ _, Or.inl rfl, by simp⟩
  have linked : link modules = .ok ⟨[("Y".toList, ⟨"b".toList, 0, 0⟩)]⟩ := by decide +kernel
  exact ⟨built, linked, (link_succeeds_iff modules built).1.mp ⟨_, linked⟩⟩

end Outcome

section Problems

/-- The module at this place defines it, and so does a module in front of it. -/
def Clashes (modules : List Module) (place : Nat) (definition : Definition) : Prop :=
  (∃ module, modules[place]? = some module ∧ definition ∈ module.definitions.values) ∧
    definition.external = false ∧
    ∃ i < place, ∃ earlier, modules[i]? = some earlier ∧ earlier.DefinesKey definition.key

/-- The module at this place uses it, and no module defines it. -/
def Dangles (modules : List Module) (place : Nat) (usage : Usage) : Prop :=
  (∃ module, modules[place]? = some module ∧ ∃ held ∈ module.usages.values, usage ∈ held) ∧
    ∀ definer ∈ modules, ¬ definer.DefinesKey usage.key

/-- The clash between the modules `first` and `second` at the places `i` and `j`.  It is that of the
definition of `symbol` in the second one, and no definition in front of it clashes. -/
structure FirstClash (modules : List Module) (symbol first second : Text) (i j : Nat)
    (definition : Definition) : Prop where
  inFront : i < j
  definer : ∃ module, modules[i]? = some module ∧ module.name = first ∧
    module.DefinesKey (symbolKey symbol)
  clashing : ∃ module, modules[j]? = some module ∧ module.name = second ∧
    (symbolKey symbol, definition) ∈ module.definitions.entries
  own : definition.external = false
  spelled : definition.symbol = symbol
  least : ∀ place other, Clashes modules place other →
    toLex (j, definition.line) ≤ toLex (place, other.line)

/-- The usage dangles in the module `name` at place `k`, nothing dangles in the modules in front of
it, and nothing in this one dangles in front of the usage. -/
structure FirstDangling (modules : List Module) (usage : Usage) (name : Text) (k : Nat) :
    Prop where
  named : ∃ module, modules[k]? = some module ∧ module.name = name
  dangles : Dangles modules k usage
  lowest : ∀ place other, Dangles modules place other → k ≤ place
  least : ∀ other, Dangles modules k other →
    toLex (usage.line, usage.offset) ≤ toLex (other.line, other.offset)

variable {modules : List Module}

theorem exists_split_of_flatMap_eq {α β : Type} {f : α → List β} {l : List α}
    {before after : List β} {x : β} (split : l.flatMap f = before ++ x :: after) :
    ∃ earlier y later front back, l = earlier ++ y :: later ∧ f y = front ++ x :: back ∧
      before = earlier.flatMap f ++ front := by
  induction l generalizing before with
  | nil => simp at split
  | cons y l inductionHypothesis =>
    rw [List.flatMap_cons] at split
    rcases List.append_eq_append_iff.mp split with ⟨more, rfl, rest⟩ | ⟨more, inFirst, rest⟩
    · obtain ⟨earlier, z, later, front, back, rfl, atZ, rfl⟩ := inductionHypothesis rest
      exact ⟨y :: earlier, z, later, front, back, rfl, atZ, by simp⟩
    · cases more with
      | nil =>
        have rest : l.flatMap f = [] ++ x :: after := rest.symm
        obtain ⟨earlier, z, later, front, back, rfl, atZ, none⟩ := inductionHypothesis rest
        refine ⟨y :: earlier, z, later, front, back, rfl, atZ, ?_⟩
        rw [List.flatMap_cons, List.append_assoc, ← none, inFirst, List.append_nil]
        simp
      | cons first more =>
        cases rest
        exact ⟨[], y, l, before, more, rfl, inFirst, rfl⟩

/-- Before the export at which a merge stops, no export repeats a key.  So no definition in front of
it clashes with an earlier one. -/
theorem least_of_distinct {earlier later : List Module} {clashing : Module}
    (built : ∀ module ∈ earlier ++ clashing :: later, module.Built)
    {inFront behind : List Export} {offered : Export}
    (split : clashing.exports = inFront ++ offered :: behind)
    (distinct : ((earlier.flatMap Module.exports ++ inFront).map Export.key).Nodup) {place : Nat}
    {other : Definition} (clashes : Clashes (earlier ++ clashing :: later) place other) :
    toLex (earlier.length, offered.definition.line) ≤ toLex (place, other.line) := by
  have builtEarlier : ∀ module ∈ earlier, module.Built := fun module inEarlier =>
    built module (List.mem_append_left _ inEarlier)
  obtain ⟨⟨module, atPlace, inTable⟩, own, i, lower, definer, atDefiner, defines⟩ := clashes
  rw [List.map_append, List.nodup_append] at distinct
  rw [Prod.Lex.toLex_le_toLex]
  rcases Nat.lt_trichotomy place earlier.length with inEarlier | atClashing | behindClashing
  · -- both modules would stand in front of the clashing one
    have once := (nodup_exports_iff builtEarlier).mp distinct.1
    rw [List.getElem?_append_left (by omega)] at atPlace atDefiner
    have defined : module.DefinesKey other.key :=
      (builtEarlier module (List.mem_of_getElem? atPlace)).definesKey_iff.mpr
        ⟨_, mem_exports.mpr ⟨other, inTable, own, rfl⟩, rfl⟩
    have := once i place definer module other.key atDefiner atPlace defines defined
    omega
  · -- both definitions are in the clashing module, and the table is in line order
    subst atClashing
    refine Or.inr ⟨rfl, ?_⟩
    obtain rfl : clashing = module := by simpa using atPlace
    rw [List.getElem?_append_left lower] at atDefiner
    have inExports := mem_exports.mpr ⟨other, inTable, own, rfl⟩
    have ordered := (built clashing (by simp)).exports_pairwise
    rw [split] at inExports ordered
    rw [List.pairwise_append, List.pairwise_cons] at ordered
    rcases List.mem_append.mp inExports with isInFront | isNotInFront
    · have taken : other.key ∈ (earlier.flatMap Module.exports).map Export.key :=
        (mem_exportKeys_iff builtEarlier).mpr ⟨definer, List.mem_of_getElem? atDefiner, defines⟩
      exact absurd rfl (distinct.2.2 _ taken _ (List.mem_map_of_mem isInFront))
    · rcases List.mem_cons.mp isNotInFront with rfl | isBehind
      · exact Nat.le_refl _
      · exact Nat.le_of_lt (ordered.2.1.1 _ isBehind).1
  · exact Or.inl behindClashing

theorem firstClash_of_link (built : ∀ module ∈ modules, module.Built)
    {symbol first second : Text}
    (failed : link modules = .error (.multiplyDefined symbol first second)) :
    ∃ i j definition, FirstClash modules symbol first second i j definition := by
  rcases link_cases modules with ⟨before, offered, after, held, split, distinct, taken, met⟩ |
    ⟨_, _, _, ⟨_, linked⟩ | ⟨_, _, _, _, _, _, _, met⟩⟩
  · rw [met] at failed
    cases failed
    obtain ⟨earlier, clashing, later, inFront, behind, rfl, inClashing, rfl⟩ :=
      exists_split_of_flatMap_eq split
    have builtClashing : clashing.Built := built clashing (by simp)
    have offers : offered ∈ clashing.exports := by simp [inClashing]
    obtain ⟨definition, inEntries, own, rfl⟩ := builtClashing.entry_of_export offers
    obtain ⟨other, inBefore, sameEntry⟩ := List.mem_map.mp taken
    obtain ⟨sameKey, rfl⟩ := Prod.mk.inj sameEntry
    rcases List.mem_append.mp inBefore with inEarlier | inTheSame
    · obtain ⟨definer, isEarlier, inDefiner⟩ := List.mem_flatMap.mp inEarlier
      obtain ⟨i, bound, rfl⟩ := List.mem_iff_getElem.mp isEarlier
      have builtDefiner := built earlier[i] (List.mem_append_left _ isEarlier)
      obtain ⟨_, _, _, isOther⟩ := mem_exports.mp inDefiner
      refine ⟨i, earlier.length, definition, bound, ⟨earlier[i], ?_, by rw [isOther], ?_⟩,
        ⟨clashing, by simp, rfl, inEntries⟩, own, rfl, ?_⟩
      · rw [List.getElem?_append_left bound, List.getElem?_eq_getElem bound]
      · exact builtDefiner.definesKey_iff.mpr ⟨other, inDefiner, sameKey⟩
      · intro place clash clashes
        exact least_of_distinct built inClashing distinct clashes
    · -- a module does not define a key twice
      have ordered := builtClashing.exports_pairwise
      rw [inClashing, List.pairwise_append] at ordered
      exact absurd sameKey (ordered.2.2 other inTheSame _ List.mem_cons_self).2
  · rw [linked] at failed
    cases failed
  · rw [met] at failed
    cases failed

/-- In a module without a missing symbol nothing dangles. -/
theorem resolved_of_missing?_eq_none {globals : Globals} {module : Module} {usage : Usage}
    (built : module.Built) (complete : globals.missing? module = none)
    (uses : ∃ held ∈ module.usages.values, usage ∈ held) : globals.contains usage.key = true := by
  obtain ⟨labels, used, recorded, _⟩ := built.recorded
  rw [Globals.missing?_of_recorded recorded, Option.map_eq_none_iff, List.find?_eq_none] at complete
  simpa using complete usage ((Module.mem_usages_iff recorded).mp uses)

/-- The usage that is missing in a module is one of its own, and all that stand in front of it are
resolved. -/
theorem least_of_missing?_eq_some {globals : Globals} {module : Module} {usage : Usage}
    (built : module.Built)
    (missing : globals.missing? module = some (.undefined usage module.name)) :
    globals.contains usage.key = false ∧
      (∃ held ∈ module.usages.values, usage ∈ held) ∧
      ∀ other, (∃ held ∈ module.usages.values, other ∈ held) → globals.contains other.key = false →
        toLex (usage.line, usage.offset) ≤ toLex (other.line, other.offset) := by
  obtain ⟨labels, used, recorded, _, sorted⟩ := built.recorded
  simp only [Module.mem_usages_iff recorded]
  rw [Globals.missing?_of_recorded recorded] at missing
  obtain ⟨_, found, ⟨⟩⟩ := Option.map_eq_some_iff.mp missing
  obtain ⟨dangling, before, after, rfl, resolved⟩ := List.find?_eq_some_iff_append.mp found
  refine ⟨by simpa using dangling, by simp, ?_⟩
  intro other inUsed otherDangling
  rw [Prod.Lex.toLex_le_toLex]
  rcases List.mem_append.mp inUsed with inBefore | notBefore
  · have := resolved other inBefore
    simp [otherDangling] at this
  · rcases List.mem_cons.mp notBefore with rfl | inAfter
    · exact Or.inr ⟨rfl, Nat.le_refl _⟩
    · rw [List.pairwise_append, List.pairwise_cons] at sorted
      rcases sorted.2.1.1 other inAfter with earlierLine | ⟨sameLine, inFront, _⟩
      · exact Or.inl earlierLine
      · exact Or.inr ⟨sameLine, Nat.le_of_lt inFront⟩

theorem firstDangling_of_link (built : ∀ module ∈ modules, module.Built) {usage : Usage}
    {name : Text} (failed : link modules = .error (.undefined usage name)) :
    DefinedOnce modules ∧ ∃ k, FirstDangling modules usage name k := by
  rcases link_cases modules with ⟨_, _, _, _, _, _, _, met⟩ |
    ⟨globals, entries, distinct, ⟨_, linked⟩ |
      ⟨earlier, module, later, _, rfl, complete, missing, met⟩⟩
  · rw [met] at failed
    cases failed
  · rw [linked] at failed
    cases failed
  rw [met] at failed
  cases failed
  refine ⟨(nodup_exports_iff built).mp distinct, ?_⟩
  have undefined : ∀ key, globals.contains key = false ↔
      ∀ definer ∈ earlier ++ module :: later, ¬ definer.DefinesKey key := by
    intro key
    rw [← Bool.not_eq_true, contains_merged_iff built entries]
    simp only [not_exists, not_and]
  obtain ⟨dangling, uses, least⟩ := least_of_missing?_eq_some (built module (by simp)) missing
  refine ⟨earlier.length, ⟨module, by simp, rfl⟩,
    ⟨⟨module, by simp, uses⟩, (undefined _).mp dangling⟩, ?_, ?_⟩
  · rintro place other ⟨⟨otherModule, atPlace, otherUses⟩, otherDangling⟩
    by_contra inFront
    rw [List.getElem?_append_left (by omega)] at atPlace
    have inEarlier := List.mem_of_getElem? atPlace
    have resolved := resolved_of_missing?_eq_none (built _ (List.mem_append_left _ inEarlier))
      (complete _ inEarlier) otherUses
    rw [(undefined _).mpr otherDangling] at resolved
    cases resolved
  · rintro other ⟨⟨otherModule, atPlace, otherUses⟩, otherDangling⟩
    obtain rfl : module = otherModule := by simpa using atPlace
    exact least other otherUses ((undefined _).mpr otherDangling)

/-- A link that fails reports its first problem: of the definitions that clash with an earlier
module the first, and only if there are none, of the usages that dangle the first. -/
theorem link_reports_first_problem (modules : List Module)
    (built : ∀ module ∈ modules, module.Built) :
    (∀ symbol first second, link modules = .error (.multiplyDefined symbol first second) →
        ∃ i j definition, FirstClash modules symbol first second i j definition) ∧
      ∀ usage name, link modules = .error (.undefined usage name) →
        DefinedOnce modules ∧ ∃ k, FirstDangling modules usage name k :=
  ⟨fun _ _ _ => firstClash_of_link built, fun _ _ => firstDangling_of_link built⟩

/-- Two clashes, of which the one on the earlier line is reported; and two symbols that dangle, of
which the one that is used first is reported, in the spelling of that usage. -/
theorem link_reports_first_of_two :
    let clashing := [(Module.ofText "a".toList "x: STOP\nY: STOP".toList).scan .standard,
      (Module.ofText "b".toList "z: STOP\ny: STOP\nX: STOP".toList).scan .standard]
    let dangling := [(Module.ofText "a".toList "x: LOAD x".toList).scan .standard,
      (Module.ofText "b".toList "LOAD X\nCOPY q,P\nLOAD Q".toList).scan .standard]
    (link clashing = .error (.multiplyDefined "y".toList "a".toList "b".toList) ∧
      ∃ i j definition,
        FirstClash clashing "y".toList "a".toList "b".toList i j definition) ∧
    link dangling = .error (.undefined ⟨"q".toList, 1, 5⟩ "b".toList) ∧
      DefinedOnce dangling ∧ ∃ k, FirstDangling dangling ⟨"q".toList, 1, 5⟩ "b".toList k := by
  intro clashing dangling
  have builtClashing : ∀ module ∈ clashing, module.Built := by
    simp only [clashing, List.forall_mem_cons]
    exact ⟨Module.built_scan _ _, Module.built_scan _ _, by simp⟩
  have builtDangling : ∀ module ∈ dangling, module.Built := by
    simp only [dangling, List.forall_mem_cons]
    exact ⟨Module.built_scan _ _, Module.built_scan _ _, by simp⟩
  have clashed : link clashing = .error (.multiplyDefined "y".toList "a".toList "b".toList) := by
    decide +kernel
  have dangled : link dangling = .error (.undefined ⟨"q".toList, 1, 5⟩ "b".toList) := by
    decide +kernel
  exact ⟨⟨clashed, (link_reports_first_problem clashing builtClashing).1 _ _ _ clashed⟩,
    dangled, (link_reports_first_problem dangling builtDangling).2 _ _ dangled⟩

end Problems

end AsmSymbols
