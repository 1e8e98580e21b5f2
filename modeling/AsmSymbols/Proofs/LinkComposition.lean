import AsmSymbols.Proofs.LinkOutcome

/-!
# Links of reordered and of joined jobs

Whether modules link depends on the definitions that they offer together (`offeredBy`), not on the
order in which the linker meets them: the three ways in which a link can end are told apart by
conditions that no reordering changes (`link_ends`).  A job that is joined from two parts is merged
part by part (`Globals.merge_append`), so its link can be read off the links of the parts.
-/

set_option autoImplicit false

namespace AsmSymbols

/-- The definitions that modules offer, in order, as a table that nobody has checked yet. -/
def offeredBy (modules : List Module) : Globals :=
  ⟨(modules.flatMap Module.exports).map fun offered => (offered.key, offered.definition)⟩

section Offers

variable {modules others : List Module}

theorem keys_offeredBy (modules : List Module) :
    (offeredBy modules).keys = (modules.flatMap Module.exports).map Export.key := by
  rw [Table.keys, offeredBy, List.map_map]
  rfl

theorem entries_offeredBy_append (front back : List Module) :
    (offeredBy (front ++ back)).entries =
      (offeredBy front).entries ++ (offeredBy back).entries := by
  simp only [offeredBy, List.flatMap_append, List.map_append]

theorem keys_offeredBy_append (front back : List Module) :
    (offeredBy (front ++ back)).keys = (offeredBy front).keys ++ (offeredBy back).keys := by
  simp only [Table.keys, entries_offeredBy_append, List.map_append]

theorem entries_offeredBy_perm (reordered : modules.Perm others) :
    (offeredBy modules).entries.Perm (offeredBy others).entries :=
  (reordered.flatMap_right _).map _

theorem eq_offeredBy {globals : Globals}
    (entries : globals.entries = (modules.flatMap Module.exports).map
      (fun offered => (offered.key, offered.definition))) : globals = offeredBy modules := by
  cases globals
  exact congrArg Table.mk entries

/-- How a link ends: at a clash, if some key is offered twice; otherwise with all that is offered,
or at a symbol that is missing there. -/
theorem link_ends (modules : List Module) :
    (¬ (offeredBy modules).keys.Nodup ∧
        ∃ symbol first second, link modules = .error (.multiplyDefined symbol first second)) ∨
      ((offeredBy modules).keys.Nodup ∧
        (((∀ module ∈ modules, (offeredBy modules).missing? module = none) ∧
            link modules = .ok (offeredBy modules)) ∨
          ((∃ module ∈ modules, (offeredBy modules).missing? module ≠ none) ∧
            ∃ usage name, link modules = .error (.undefined usage name)))) := by
  rw [keys_offeredBy]
  rcases link_cases modules with ⟨before, offered, after, held, split, _, taken, failed⟩ |
    ⟨globals, entries, distinct, outcome⟩
  · exact Or.inl ⟨not_nodup_of_taken split taken, _, _, _, failed⟩
  · obtain rfl := eq_offeredBy entries
    refine Or.inr ⟨distinct, ?_⟩
    rcases outcome with linked | ⟨earlier, module, later, usage, split, _, missing, failed⟩
    · exact Or.inl linked
    · refine Or.inr ⟨⟨module, by simp [split], ?_⟩, usage, module.name, failed⟩
      rw [missing]
      exact Option.some_ne_none _

theorem link_of_repeated (repeated : ¬ (offeredBy modules).keys.Nodup) :
    ∃ symbol first second, link modules = .error (.multiplyDefined symbol first second) := by
  rcases link_ends modules with ⟨_, failed⟩ | ⟨distinct, _⟩
  · exact failed
  · exact absurd distinct repeated

theorem link_of_complete (distinct : (offeredBy modules).keys.Nodup)
    (complete : ∀ module ∈ modules, (offeredBy modules).missing? module = none) :
    link modules = .ok (offeredBy modules) := by
  rcases link_ends modules with ⟨repeated, _⟩ | ⟨_, ⟨_, linked⟩ | ⟨⟨module, inModules, missing⟩, _⟩⟩
  · exact absurd distinct repeated
  · exact linked
  · exact absurd (complete module inModules) missing

theorem link_of_missing (distinct : (offeredBy modules).keys.Nodup)
    (missing : ∃ module ∈ modules, (offeredBy modules).missing? module ≠ none) :
    ∃ usage name, link modules = .error (.undefined usage name) := by
  obtain ⟨module, inModules, missing⟩ := missing
  rcases link_ends modules with ⟨repeated, _⟩ | ⟨_, ⟨complete, _⟩ | ⟨_, failed⟩⟩
  · exact absurd distinct repeated
  · exact absurd (complete module inModules) missing
  · exact failed

/-- A larger table misses no symbol that a smaller one holds. -/
theorem Globals.missing?_eq_none_of_subset {globals larger : Globals} {module : Module}
    (held : ∀ key ∈ globals.keys, key ∈ larger.keys) (complete : globals.missing? module = none) :
    larger.missing? module = none := by
  unfold missing? missingOr? at complete ⊢
  rw [List.findSome?_eq_none_iff] at complete ⊢
  rintro ⟨key, usages⟩ used
  have looked := complete (key, usages) used
  by_cases found : globals.contains key = true
  · exact if_pos (Table.contains_iff.mpr (held key (Table.contains_iff.mp found)))
  · simp only [found, Bool.false_eq_true, ↓reduceIte] at looked
    simp only [looked, ite_self]

end Offers

section Reordering

variable {modules others : List Module}

/-- Two links that end alike: both with tables of the same entries, whose order alone may differ,
both at a clash, or both at a missing symbol. -/
inductive EndAlike : Except LinkError Globals → Except LinkError Globals → Prop where
  | linked {globals other : Globals} (sameEntries : globals.entries.Perm other.entries)
      (sameFound : ∀ key, globals.find? key = other.find? key) : EndAlike (.ok globals) (.ok other)
  | clashed (symbol first second otherSymbol otherFirst otherSecond : Text) :
      EndAlike (.error (.multiplyDefined symbol first second))
        (.error (.multiplyDefined otherSymbol otherFirst otherSecond))
  | dangled (usage otherUsage : Usage) (name otherName : Text) :
      EndAlike (.error (.undefined usage name)) (.error (.undefined otherUsage otherName))

theorem missing?_offeredBy_perm (reordered : modules.Perm others) (module : Module) :
    (offeredBy modules).missing? module = none ↔ (offeredBy others).missing? module = none := by
  have sameKeys : (offeredBy modules).keys.Perm (offeredBy others).keys :=
    (entries_offeredBy_perm reordered).map Prod.fst
  constructor
  · apply Globals.missing?_eq_none_of_subset
    exact fun key => sameKeys.mem_iff.mp
  · apply Globals.missing?_eq_none_of_subset
    exact fun key => sameKeys.mem_iff.mpr

/-- The order of the modules makes no difference to how their link ends, nor to what the linked
table finds. -/
theorem link_ignores_order (modules others : List Module) (reordered : modules.Perm others) :
    EndAlike (link modules) (link others) := by
  have sameEntries := entries_offeredBy_perm reordered
  have sameDistinct : (offeredBy modules).keys.Nodup ↔ (offeredBy others).keys.Nodup :=
    (sameEntries.map Prod.fst).nodup_iff
  rcases link_ends modules with ⟨repeated, symbol, first, second, failed⟩ |
    ⟨distinct, ⟨complete, linked⟩ | ⟨⟨module, inModules, missing⟩, usage, name, failed⟩⟩
  · obtain ⟨otherSymbol, otherFirst, otherSecond, otherFailed⟩ :=
      link_of_repeated (mt sameDistinct.mpr repeated)
    rw [failed, otherFailed]
    exact .clashed symbol first second otherSymbol otherFirst otherSecond
  · have otherLinked : link others = .ok (offeredBy others) := by
      apply link_of_complete (sameDistinct.mp distinct)
      intro module inOthers
      rw [← missing?_offeredBy_perm reordered]
      exact complete module (reordered.mem_iff.mpr inOthers)
    rw [linked, otherLinked]
    exact .linked sameEntries (Table.find?_of_perm sameEntries distinct)
  · have otherMissing : (offeredBy others).missing? module ≠ none :=
      mt (missing?_offeredBy_perm reordered module).mpr missing
    obtain ⟨otherUsage, otherName, otherFailed⟩ := link_of_missing (sameDistinct.mp distinct)
      ⟨module, reordered.mem_iff.mp inModules, otherMissing⟩
    rw [failed, otherFailed]
    exact .dangled usage otherUsage name otherName

/-- Two modules that use each other's symbols, in both orders. -/
theorem link_ignores_order_of_two :
    let a := (Module.ofText "a".toList "x: LOAD y\nz: STOP".toList).scan .standard
    let b := (Module.ofText "b".toList "X: EXTERN\ny: LOAD x".toList).scan .standard
    [a, b].Perm [b, a] ∧
      link [a, b] = .ok ⟨[("X".toList, ⟨"a".toList, 0, 0⟩), ("Z".toList, ⟨"a".toList, 1, 0⟩),
        ("Y".toList, ⟨"b".toList, 1, 0⟩)]⟩ ∧
      link [b, a] = .ok ⟨[("Y".toList, ⟨"b".toList, 1, 0⟩), ("X".toList, ⟨"a".toList, 0, 0⟩),
        ("Z".toList, ⟨"a".toList, 1, 0⟩)]⟩ ∧
      EndAlike (link [a, b]) (link [b, a]) := by
  intro a b
  have reordered : [a, b].Perm [b, a] := List.Perm.swap b a []
  exact ⟨reordered, by decide +kernel, by decide +kernel, link_ignores_order _ _ reordered⟩

end Reordering

section Joining

variable {front back : List Module} {first second : Globals}

/-- Exports are merged part by part. -/
theorem Globals.merge_append (globals : Globals) (offers more : List Export) :
    globals.merge (offers ++ more) =
      (globals.merge offers).bind fun merged => merged.merge more := by
  induction offers generalizing globals with
  | nil => rfl
  | cons offered offers inductionHypothesis =>
    rw [List.cons_append, merge, merge]
    cases globals.get? offered.symbol with
    | some held => rfl
    | none => exact inductionHypothesis _

/-- The first key of `other`, in the order of its entries, that `globals` holds too. -/
def Globals.firstShared? (globals other : Globals) : Option Text :=
  other.keys.find? globals.contains

theorem Globals.apart_of_firstShared?_eq_none (unshared : first.firstShared? second = none) :
    ∀ key ∈ second.keys, key ∉ first.keys := by
  intro key inSecond inFirst
  exact List.find?_eq_none.mp unshared key inSecond (Table.contains_iff.mpr inFirst)

/-- Two jobs that link, and whose tables share no key, link together. -/
theorem link_append_of_apart (linkedFront : link front = .ok first)
    (linkedBack : link back = .ok second) (apart : ∀ key ∈ second.keys, key ∉ first.keys) :
    link (front ++ back) = .ok ⟨first.entries ++ second.entries⟩ := by
  obtain ⟨entriesFront, distinctFront, completeFront⟩ := link_ok linkedFront
  obtain ⟨entriesBack, distinctBack, completeBack⟩ := link_ok linkedBack
  obtain rfl := eq_offeredBy entriesFront
  obtain rfl := eq_offeredBy entriesBack
  rw [← entries_offeredBy_append]
  apply link_of_complete
  · rw [keys_offeredBy_append, List.nodup_append]
    refine ⟨distinctFront, distinctBack, ?_⟩
    rintro key inFront _ inBack rfl
    exact apart key inBack inFront
  · intro module inModules
    rcases List.mem_append.mp inModules with inFront | inBack
    · apply Globals.missing?_eq_none_of_subset _ (completeFront module inFront)
      intro key held
      rw [keys_offeredBy_append]
      exact List.mem_append_left _ held
    · apply Globals.missing?_eq_none_of_subset _ (completeBack module inBack)
      intro key held
      rw [keys_offeredBy_append]
      exact List.mem_append_right _ held

/-- Two jobs that link, but whose tables share a key, clash at the first such key. -/
theorem link_append_of_shared (linkedFront : link front = .ok first)
    (linkedBack : link back = .ok second) {key : Text}
    (shared : first.firstShared? second = some key) :
    ∃ symbol held other, symbolKey symbol = key ∧ first.find? key = some held ∧
      second.find? key = some other ∧
      link (front ++ back) = .error (.multiplyDefined symbol held.module other.module) := by
  obtain ⟨entriesBack, distinctBack, _⟩ := link_ok linkedBack
  obtain ⟨_, distinctFront, _⟩ := link_ok linkedFront
  have keysBack : second.keys = (back.flatMap Module.exports).map Export.key := by
    rw [Table.keys, entriesBack, List.map_map]
    rfl
  have merged : Globals.merge {} ((front ++ back).flatMap Module.exports) =
      first.merge (back.flatMap Module.exports) := by
    rw [List.flatMap_append, Globals.merge_append, (merge_of_link linkedFront).1]
    rfl
  rcases Globals.merge_cases distinctFront (back.flatMap Module.exports) with
    ⟨whole, _, entries, distinct⟩ | ⟨before, offered, after, held, split, distinct, taken, failed⟩
  · -- then the merged table would hold the shared key twice
    have wholeKeys : whole.keys = first.keys ++ second.keys := by
      rw [Table.keys, entries, List.map_append, Table.keys, Table.keys, entriesBack]
    rw [wholeKeys, List.nodup_append] at distinct
    have inFirst := Table.contains_iff.mp (List.find?_some shared)
    exact absurd rfl (distinct.2.2 key inFirst key (List.mem_of_find?_eq_some shared))
  · rw [split, List.map_append, List.map_cons] at keysBack
    have distinctOffers := distinctBack
    rw [keysBack, List.nodup_append] at distinctOffers
    rw [List.nodup_append] at distinct
    have inFirst : (offered.key, held) ∈ first.entries := by
      rcases List.mem_append.mp taken with inFirst | inBefore
      · exact inFirst
      · obtain ⟨other, isBefore, sameEntry⟩ := List.mem_map.mp inBefore
        exact absurd (congrArg Prod.fst sameEntry)
          (distinctOffers.2.2 _ (List.mem_map_of_mem isBefore) _ List.mem_cons_self)
    have inSecond : (offered.key, offered.definition) ∈ second.entries := by
      rw [entriesBack, split]
      exact List.mem_map.mpr ⟨offered, by simp, rfl⟩
    -- no key in front of this one is shared, so it is the first
    have isFirst : first.firstShared? second = some offered.key := by
      rw [Globals.firstShared?, keysBack, List.find?_append, List.find?_eq_none.mpr,
        List.find?_cons_of_pos]
      · rfl
      · exact Table.contains_iff.mpr (List.mem_map_of_mem inFirst)
      · intro other inBefore isShared
        exact distinct.2.2 other (Table.contains_iff.mp isShared) other inBefore rfl
    obtain rfl : offered.key = key := Option.some.inj (isFirst.symm.trans shared)
    refine ⟨offered.symbol, held, offered.definition, rfl,
      (Table.find?_eq_some_iff distinctFront).mpr inFirst,
      (Table.find?_eq_some_iff distinctBack).mpr inSecond, ?_⟩
    exact link_of_unmerged (by rw [merged, failed])

/-- If a joined job links, its first part does too, or it misses a symbol that only the second part
defines. -/
theorem link_front_of_append (built : ∀ module ∈ front ++ back, module.Built) {whole : Globals}
    (linked : link (front ++ back) = .ok whole) :
    link front = .ok (offeredBy front) ∨
      ∃ usage name, link front = .error (.undefined usage name) ∧
        (∀ module ∈ front, ¬ module.Defines usage.symbol) ∧
        ∃ module ∈ back, module.Defines usage.symbol := by
  obtain ⟨entries, distinct, complete⟩ := link_ok linked
  have frontDistinct : (offeredBy front).keys.Nodup := by
    rw [eq_offeredBy entries, keys_offeredBy_append] at distinct
    exact (List.nodup_append.mp distinct).1
  rcases link_ends front with ⟨repeated, _⟩ | ⟨_, ⟨_, linkedFront⟩ | ⟨_, usage, name, failed⟩⟩
  · exact absurd frontDistinct repeated
  · exact Or.inl linkedFront
  · have builtFront : ∀ module ∈ front, module.Built := fun module inFront =>
      built module (List.mem_append_left _ inFront)
    obtain ⟨_, k, dangling⟩ := firstDangling_of_link builtFront failed
    obtain ⟨⟨module, atPlace, uses⟩, undefined⟩ := dangling.dangles
    have inModules : module ∈ front ++ back :=
      List.mem_append_left _ (List.mem_of_getElem? atPlace)
    -- the joined job defines what the first part does not
    have resolved := resolved_of_missing?_eq_none (built module inModules)
      (complete module inModules) uses
    obtain ⟨definer, inJob, defines⟩ := (contains_merged_iff built entries).mp resolved
    refine Or.inr ⟨usage, name, failed, undefined, definer, ?_, defines⟩
    rcases List.mem_append.mp inJob with inFront | inBack
    · exact absurd defines (undefined definer inFront)
    · exact inBack

/-- Linking composes.  Two jobs that link give together the entries of both tables, if these share
no key, and clash at the first shared key otherwise.  If the joined job links, the first part links
to its own share of the table, or it misses a symbol that only the second part defines. -/
theorem link_composes (front back : List Module) (built : ∀ module ∈ front ++ back, module.Built) :
    (∀ first second, link front = .ok first → link back = .ok second →
        (first.firstShared? second = none →
          link (front ++ back) = .ok ⟨first.entries ++ second.entries⟩) ∧
        ∀ key, first.firstShared? second = some key →
          ∃ symbol held other, symbolKey symbol = key ∧ first.find? key = some held ∧
            second.find? key = some other ∧
            link (front ++ back) = .error (.multiplyDefined symbol held.module other.module)) ∧
      ∀ whole, link (front ++ back) = .ok whole →
        (∃ first, link front = .ok first ∧ first = offeredBy front ∧
            whole.entries = first.entries ++ (offeredBy back).entries) ∨
          ∃ usage name, link front = .error (.undefined usage name) ∧
            (∀ module ∈ front, ¬ module.Defines usage.symbol) ∧
            ∃ module ∈ back, module.Defines usage.symbol := by
  constructor
  · intro first second linkedFront linkedBack
    constructor
    · intro unshared
      exact link_append_of_apart linkedFront linkedBack
        (Globals.apart_of_firstShared?_eq_none unshared)
    · intro key shared
      exact link_append_of_shared linkedFront linkedBack shared
  · intro whole linked
    obtain ⟨entries, _⟩ := link_ok linked
    have shares : whole.entries = (offeredBy front).entries ++ (offeredBy back).entries := by
      rw [← entries_offeredBy_append, eq_offeredBy entries]
    rcases link_front_of_append built linked with linkedFront | missing
    · exact Or.inl ⟨_, linkedFront, rfl, shares⟩
    · exact Or.inr missing

/-- Two modules that link alone and share two keys, of which the one that stands first in the second
table is reported; and a module that needs the one behind it. -/
theorem link_composes_of_shared_keys :
    let a := (Module.ofText "a".toList "x: LOAD x\nz: STOP".toList).scan .standard
    let b := (Module.ofText "b".toList "q: STOP\nZ: STOP\nX: JMP q".toList).scan .standard
    let c := (Module.ofText "c".toList "w: LOAD y".toList).scan .standard
    let d := (Module.ofText "d".toList "Y: STOP".toList).scan .standard
    let first : Globals :=
      ⟨[("X".toList, ⟨"a".toList, 0, 0⟩), ("Z".toList, ⟨"a".toList, 1, 0⟩)]⟩
    let second : Globals :=
      ⟨[("Q".toList, ⟨"b".toList, 0, 0⟩), ("Z".toList, ⟨"b".toList, 1, 0⟩),
        ("X".toList, ⟨"b".toList, 2, 0⟩)]⟩
    let whole : Globals :=
      ⟨[("W".toList, ⟨"c".toList, 0, 0⟩), ("Y".toList, ⟨"d".toList, 0, 0⟩)]⟩
    ((∀ module ∈ [a] ++ [b], module.Built) ∧ link [a] = .ok first ∧ link [b] = .ok second ∧
        first.firstShared? second = some "Z".toList ∧
        ∃ symbol held other, symbolKey symbol = "Z".toList ∧
          first.find? "Z".toList = some held ∧ second.find? "Z".toList = some other ∧
          link ([a] ++ [b]) = .error (.multiplyDefined symbol held.module other.module)) ∧
      (∀ module ∈ [c] ++ [d], module.Built) ∧ link ([c] ++ [d]) = .ok whole ∧
        ((∃ first, link [c] = .ok first ∧ first = offeredBy [c] ∧
            whole.entries = first.entries ++ (offeredBy [d]).entries) ∨
          ∃ usage name, link [c] = .error (.undefined usage name) ∧
            (∀ module ∈ [c], ¬ module.Defines usage.symbol) ∧
            ∃ module ∈ [d], module.Defines usage.symbol) := by
  intro a b c d first second whole
  have builtClashing : ∀ module ∈ [a] ++ [b], module.Built := by
    simp only [List.cons_append, List.nil_append, List.forall_mem_cons]
    exact ⟨Module.built_scan _ _, Module.built_scan _ _, by simp⟩
  have builtNeeding : ∀ module ∈ [c] ++ [d], module.Built := by
    simp only [List.cons_append, List.nil_append, List.forall_mem_cons]
    exact ⟨Module.built_scan _ _, Module.built_scan _ _, by simp⟩
  have linkedFront : link [a] = .ok first := by decide +kernel
  have linkedBack : link [b] = .ok second := by decide +kernel
  have shared : first.firstShared? second = some "Z".toList := by decide +kernel
  have linked : link ([c] ++ [d]) = .ok whole := by decide +kernel
  refine ⟨⟨builtClashing, linkedFront, linkedBack, shared, ?_⟩, builtNeeding, linked, ?_⟩
  · exact ((link_composes [a] [b] builtClashing).1 first second linkedFront linkedBack).2 _ shared
  · exact (link_composes [c] [d] builtNeeding).2 whole linked

end Joining

end AsmSymbols
