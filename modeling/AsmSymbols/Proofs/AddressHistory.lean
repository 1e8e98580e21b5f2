import Mathlib.Data.List.Induction
import AsmSymbols.Address
import AsmSymbols.Proofs.Recording

/-!
# Addresses over a whole history

A history adds symbols and makes room in front of them.  What a table should hold behind it can be
read off the steps alone: a symbol has the address that it was last added with, and all the room
that was made since (`LastAdded`, `roomMade`).  These sums are natural numbers, so they say as well
when a move leaves the address space (`Overflows`).

`Tells` says that a table holds what its history gives.  One step keeps it, unless the step is a
move without room (`perform_cases`), and so does every run up to the first such move
(`follow_of_hasRoom`).
-/

set_option autoImplicit false

namespace AsmSymbols.AddressTable

/-- A change of a table. -/
inductive Step where
  | add (symbol : Text) (address : UInt64)
  | makeRoom (offset : UInt64)
  deriving DecidableEq, Repr

namespace Step

/-- The symbol that a step adds, new or again. -/
def symbol? : Step → Option Text
  | .add symbol _ => some symbol
  | .makeRoom _ => none

def perform (table : AddressTable) : Step → Move
  | .add symbol address => ⟨table.add symbol address, true⟩
  | .makeRoom offset => table.makeRoom offset

end Step

/-- How a history ends. -/
inductive Outcome where
  | completed (table : AddressTable)
  /-- The first of the steps `undone` is a move that stays incomplete and leaves `left`. -/
  | stopped (undone : List Step) (left : AddressTable)
  deriving DecidableEq

/-- Take steps up to the first move that stays incomplete. -/
def follow (table : AddressTable) : List Step → Outcome
  | [] => .completed table
  | step :: rest =>
    let move := step.perform table
    if move.complete then follow move.table rest else .stopped (step :: rest) move.table

/-- The steps that make a table from a list of pairs. -/
def additions (pairs : List (Text × UInt64)) : List Step :=
  pairs.map fun (symbol, address) => .add symbol address

/-- All symbols that a history adds, as often as it adds them. -/
def added (history : List Step) : List Text := history.filterMap Step.symbol?

/-- All the room that a history makes. -/
def roomMade : List Step → Nat
  | [] => 0
  | .add _ _ :: rest => roomMade rest
  | .makeRoom offset :: rest => offset.toNat + roomMade rest

/-- The last time that a history adds `symbol`, it gives it `address` and goes on with `later`. -/
def LastAdded (history : List Step) (symbol : Text) (address : UInt64) (later : List Step) : Prop :=
  ∃ before, history = before ++ .add symbol address :: later ∧ symbol ∉ added later

/-- Behind a history, some address has no room to move up by `offset`. -/
def Overflows (history : List Step) (offset : UInt64) : Prop :=
  ∃ symbol address later, LastAdded history symbol address later ∧
    addressSpace ≤ address.toNat + roomMade later + offset.toNat

/-- Behind `past`, every move of `steps` has room for all addresses. -/
def HasRoom (past steps : List Step) : Prop :=
  ∀ done offset rest, steps = done ++ .makeRoom offset :: rest → ¬ Overflows (past ++ done) offset

/-- A table holds what its history gives. -/
structure Tells (history : List Step) (table : AddressTable) : Prop where
  /-- Symbols stand in the order in which they were first added. -/
  order : table.keys = (added history).eraseDups
  distinct : table.keys.Nodup
  address : ∀ symbol address later, LastAdded history symbol address later →
    ∃ held, table.find? symbol = some held ∧ held.toNat = address.toNat + roomMade later ∧
      address.toNat + roomMade later < addressSpace
  absent : ∀ symbol, symbol ∉ added history → table.find? symbol = none

/-- An entry that has moved up. -/
def raise (offset : UInt64) (entry : Text × UInt64) : Text × UInt64 :=
  (entry.1, entry.2 + offset)

/-- A move that comes to a symbol without room: the symbols in front of it have moved, it and all
others have not. -/
def StopsShort (offset : UInt64) (held left : AddressTable) : Prop :=
  ∃ front symbol address behind, held.entries = front ++ (symbol, address) :: behind ∧
    (∀ entry ∈ front, entry.2.toNat + offset.toNat < addressSpace) ∧
    addressSpace ≤ address.toNat + offset.toNat ∧
    left.entries = front.map (raise offset) ++ (symbol, address) :: behind

section Histories

variable {history : List Step} {step : Step} {symbol : Text} {address : UInt64}
  {later : List Step}

theorem roomMade_append (front back : List Step) :
    roomMade (front ++ back) = roomMade front + roomMade back := by
  fun_induction roomMade front with
  | case1 => simp
  | case2 symbol address rest inductionHypothesis => exact inductionHypothesis
  | case3 offset rest inductionHypothesis =>
    rw [List.cons_append, roomMade, inductionHypothesis, Nat.add_assoc]

theorem added_concat (history : List Step) (step : Step) :
    added (history ++ [step]) = added history ++ step.symbol?.toList := by
  cases step <;> simp [added, Step.symbol?]

/-- The last step adds the symbol, or the history did so before and the step comes later. -/
theorem lastAdded_concat :
    LastAdded (history ++ [step]) symbol address later ↔
      (step = .add symbol address ∧ later = []) ∨
        step.symbol? ≠ some symbol ∧
          ∃ since, later = since ++ [step] ∧ LastAdded history symbol address since := by
  constructor
  · rintro ⟨before, split, last⟩
    rcases List.eq_nil_or_concat' later with rfl | ⟨since, final, rfl⟩
    · have ends := (List.append_inj' split rfl).2
      exact Or.inl ⟨(List.cons.inj ends).1, rfl⟩
    · rw [← List.cons_append, ← List.append_assoc] at split
      obtain ⟨rfl, ends⟩ := List.append_inj' split rfl
      cases ends
      rw [added_concat, List.mem_append, not_or] at last
      refine Or.inr ⟨by simpa using last.2, since, rfl, before, rfl, last.1⟩
  · rintro (⟨rfl, rfl⟩ | ⟨other, since, rfl, before, rfl, last⟩)
    · exact ⟨history, rfl, List.not_mem_nil⟩
    · refine ⟨before, by simp, ?_⟩
      rw [added_concat, List.mem_append, not_or]
      exact ⟨last, by simpa using other⟩

theorem exists_lastAdded (inHistory : symbol ∈ added history) :
    ∃ address later, LastAdded history symbol address later := by
  induction history using List.reverseRecOn with
  | nil => cases inHistory
  | append_singleton history step inductionHypothesis =>
    by_cases last : step.symbol? = some symbol
    · cases step with
      | makeRoom offset => cases last
      | add other address =>
        cases last
        exact ⟨address, [], lastAdded_concat.mpr (Or.inl ⟨rfl, rfl⟩)⟩
    · have earlier : symbol ∈ added history := by
        rw [added_concat, List.mem_append] at inHistory
        exact inHistory.resolve_right (by simpa using last)
      obtain ⟨address, since, found⟩ := inductionHypothesis earlier
      exact ⟨address, since ++ [step], lastAdded_concat.mpr (Or.inr ⟨last, since, rfl, found⟩)⟩

end Histories

section Moves

variable {table : AddressTable} {offset : UInt64}

theorem toNat_add_of_room {address : UInt64} (room : address.toNat + offset.toNat < addressSpace) :
    (address + offset).toNat = address.toNat + offset.toNat := by
  rw [UInt64.toNat_add]
  exact Nat.mod_eq_of_lt room

theorem keys_raised : (⟨table.entries.map (raise offset)⟩ : AddressTable).keys = table.keys := by
  simp [Table.keys, raise, Function.comp_def]

theorem find?_raised (symbol : Text) :
    (⟨table.entries.map (raise offset)⟩ : AddressTable).find? symbol =
      (table.find? symbol).map (· + offset) := by
  obtain ⟨entries⟩ := table
  induction entries with
  | nil => rfl
  | cons entry rest inductionHypothesis =>
    obtain ⟨other, address⟩ := entry
    simp only [Table.find?, List.map_cons, raise, Table.findIn?] at inductionHypothesis ⊢
    split
    · rfl
    · exact inductionHypothesis

/-- A move goes through all entries, or up to the first that has no room. -/
theorem moveEntries_cases (offset : UInt64) (entries : List (Text × UInt64)) :
    ((∀ entry ∈ entries, entry.2.toNat + offset.toNat < addressSpace) ∧
      moveEntries offset entries = (entries.map (raise offset), true)) ∨
    ∃ front symbol address behind, entries = front ++ (symbol, address) :: behind ∧
      (∀ entry ∈ front, entry.2.toNat + offset.toNat < addressSpace) ∧
      addressSpace ≤ address.toNat + offset.toNat ∧
      moveEntries offset entries =
        (front.map (raise offset) ++ (symbol, address) :: behind, false) := by
  induction entries with
  | nil => exact Or.inl ⟨by simp, rfl⟩
  | cons entry rest inductionHypothesis =>
    obtain ⟨symbol, address⟩ := entry
    rw [moveEntries]
    by_cases room : address.toNat + offset.toNat < addressSpace
    · rw [if_pos room]
      rcases inductionHypothesis with
        ⟨all, moved⟩ | ⟨front, stuck, high, behind, rfl, inFront, noRoom, moved⟩
      · refine Or.inl ⟨List.forall_mem_cons.mpr ⟨room, all⟩, ?_⟩
        rw [moved]
        rfl
      · refine Or.inr ⟨(symbol, address) :: front, stuck, high, behind, rfl,
          List.forall_mem_cons.mpr ⟨room, inFront⟩, noRoom, ?_⟩
        rw [moved]
        rfl
    · rw [if_neg room]
      exact Or.inr ⟨[], symbol, address, rest, rfl, by simp, Nat.le_of_not_lt room, rfl⟩

theorem makeRoom_cases (table : AddressTable) (offset : UInt64) :
    ((∀ entry ∈ table.entries, entry.2.toNat + offset.toNat < addressSpace) ∧
      table.makeRoom offset = ⟨⟨table.entries.map (raise offset)⟩, true⟩) ∨
    ∃ left, table.makeRoom offset = ⟨left, false⟩ ∧ StopsShort offset table left := by
  rcases moveEntries_cases offset table.entries with
    ⟨all, moved⟩ | ⟨front, symbol, address, behind, split, inFront, noRoom, moved⟩
  · refine Or.inl ⟨all, ?_⟩
    rw [makeRoom, moved]
  · refine Or.inr ⟨⟨_⟩, ?_, front, symbol, address, behind, split, inFront, noRoom, rfl⟩
    rw [makeRoom, moved]

theorem StopsShort.exists_high {left : AddressTable} (stops : StopsShort offset table left) :
    ∃ entry ∈ table.entries, addressSpace ≤ entry.2.toNat + offset.toNat := by
  obtain ⟨front, symbol, address, behind, split, _, noRoom, _⟩ := stops
  exact ⟨(symbol, address), by simp [split], noRoom⟩

end Moves

namespace Tells

variable {past : List Step} {table : AddressTable} {offset : UInt64}

theorem mem_keys_iff (told : Tells past table) (symbol : Text) :
    symbol ∈ table.keys ↔ symbol ∈ added past := by
  rw [told.order, List.mem_eraseDups]

/-- In terms of what is held: a history overflows if some entry of its table has no room. -/
theorem overflows_iff (told : Tells past table) :
    Overflows past offset ↔
      ∃ entry ∈ table.entries, addressSpace ≤ entry.2.toNat + offset.toNat := by
  constructor
  · rintro ⟨symbol, address, later, last, noRoom⟩
    obtain ⟨held, found, sum, _⟩ := told.address symbol address later last
    exact ⟨(symbol, held), Table.mem_entries_of_find? found, by rwa [sum]⟩
  · rintro ⟨⟨symbol, held⟩, inTable, noRoom⟩
    have isKey : symbol ∈ table.keys := List.mem_map.mpr ⟨_, inTable, rfl⟩
    obtain ⟨address, later, last⟩ := exists_lastAdded ((told.mem_keys_iff symbol).mp isKey)
    obtain ⟨other, found, sum, _⟩ := told.address symbol address later last
    rw [(Table.find?_eq_some_iff told.distinct).mpr inTable] at found
    cases found
    exact ⟨symbol, address, later, last, by rwa [← sum]⟩

/-- Adding a symbol gives it the new address and leaves all others. -/
theorem insert (told : Tells past table) (symbol : Text) (address : UInt64) :
    Tells (past ++ [.add symbol address]) (table.add symbol address) := by
  have found (wanted : Text) : (table.add symbol address).find? wanted =
      if wanted = symbol then some address else table.find? wanted := Table.find?_upsert ..
  have order : (table.add symbol address).keys =
      (added (past ++ [.add symbol address])).eraseDups := by
    rw [added_concat]
    change (table.upsert symbol fun _ => address).keys = (added past ++ [symbol]).eraseDups
    rw [Table.keys_upsert, eraseDups_concat, told.order]
    simp only [List.mem_eraseDups]
  refine ⟨order, by rw [order]; exact nodup_eraseDups _, ?_, ?_⟩
  · intro wanted start later last
    rcases lastAdded_concat.mp last with ⟨same, rfl⟩ | ⟨other, since, rfl, lastBefore⟩
    · cases same
      exact ⟨address, by rw [found, if_pos rfl], rfl, address.toNat_lt⟩
    · have differs : wanted ≠ symbol := fun same => other (congrArg some same.symm)
      rw [found, if_neg differs, roomMade_append]
      exact told.address wanted start since lastBefore
  · intro wanted fresh
    rw [added_concat, List.mem_append, not_or] at fresh
    have differs : wanted ≠ symbol := fun same => fresh.2 (by simp [same, Step.symbol?])
    rw [found, if_neg differs]
    exact told.absent wanted fresh.1

/-- A move with room for all entries adds to every address. -/
theorem raise (told : Tells past table)
    (room : ∀ entry ∈ table.entries, entry.2.toNat + offset.toNat < addressSpace) :
    Tells (past ++ [.makeRoom offset]) ⟨table.entries.map (raise offset)⟩ := by
  have sameSymbols : added (past ++ [.makeRoom offset]) = added past := by
    rw [added_concat]
    exact List.append_nil _
  refine ⟨by rw [keys_raised, sameSymbols, told.order], by rw [keys_raised]; exact told.distinct,
    ?_, ?_⟩
  · intro symbol address later last
    rcases lastAdded_concat.mp last with ⟨isMove, _⟩ | ⟨_, since, rfl, lastBefore⟩
    · cases isMove
    · obtain ⟨held, found, sum, _⟩ := told.address symbol address since lastBefore
      have moved := toNat_add_of_room (room _ (Table.mem_entries_of_find? found))
      have total : (held + offset).toNat =
          address.toNat + roomMade (since ++ [.makeRoom offset]) := by
        rw [moved, sum, roomMade_append, ← Nat.add_assoc]
        rfl
      refine ⟨held + offset, by rw [find?_raised, found]; rfl, total, ?_⟩
      rw [← total]
      exact (held + offset).toNat_lt
  · intro symbol fresh
    rw [find?_raised, told.absent symbol (sameSymbols ▸ fresh)]
    rfl

end Tells

section Runs

variable {past : List Step} {table : AddressTable}

theorem tells_empty : Tells [] {} := by
  refine ⟨rfl, List.nodup_nil, ?_, fun _ _ => rfl⟩
  rintro symbol address later ⟨before, split, _⟩
  simp at split

theorem tells_foldl_insert (told : Tells past table) (pairs : List (Text × UInt64)) :
    Tells (past ++ additions pairs)
      (pairs.foldl (fun table pair => table.insert pair.1 pair.2) table) := by
  induction pairs generalizing past table with
  | nil => simpa [additions] using told
  | cons pair pairs inductionHypothesis =>
    have next := inductionHypothesis (told.insert pair.1 pair.2)
    rwa [List.append_assoc] at next

theorem tells_ofList (pairs : List (Text × UInt64)) : Tells (additions pairs) (.ofList pairs) :=
  tells_foldl_insert tells_empty pairs

/-- What one step can do. -/
theorem perform_cases (told : Tells past table) (step : Step) :
    ((∀ offset, step = .makeRoom offset → ¬ Overflows past offset) ∧
      ∃ next, step.perform table = ⟨next, true⟩ ∧ Tells (past ++ [step]) next) ∨
    ∃ offset left, step = .makeRoom offset ∧ Overflows past offset ∧
      step.perform table = ⟨left, false⟩ ∧ StopsShort offset table left := by
  cases step with
  | add symbol address =>
    exact Or.inl ⟨nofun, _, rfl, told.insert symbol address⟩
  | makeRoom offset =>
    rcases makeRoom_cases table offset with ⟨room, moved⟩ | ⟨left, moved, stops⟩
    · refine Or.inl ⟨?_, _, moved, told.raise room⟩
      rintro _ ⟨⟩ overflows
      obtain ⟨entry, inTable, noRoom⟩ := told.overflows_iff.mp overflows
      exact absurd (room entry inTable) (Nat.not_lt_of_le noRoom)
    · exact Or.inr ⟨offset, left, rfl, told.overflows_iff.mpr stops.exists_high, moved, stops⟩

theorem hasRoom_nil (past : List Step) : HasRoom past [] := by
  intro done offset rest split
  simp at split

theorem hasRoom_cons {step : Step} {rest : List Step} :
    HasRoom past (step :: rest) ↔
      (∀ offset, step = .makeRoom offset → ¬ Overflows past offset) ∧
        HasRoom (past ++ [step]) rest := by
  constructor
  · intro room
    refine ⟨?_, ?_⟩
    · rintro offset rfl
      simpa using room [] offset rest rfl
    · rintro done offset undone rfl
      simpa using room (step :: done) offset undone rfl
  · rintro ⟨here, later⟩ done offset undone split
    cases done with
    | nil =>
      rw [List.append_nil]
      exact here offset (List.cons.inj split).1
    | cons first done =>
      obtain ⟨rfl, splitRest⟩ := List.cons.inj split
      simpa using later done offset undone splitRest

/-- A history has room throughout, or there is a first move that overflows. -/
theorem hasRoom_or_first_overflow (past steps : List Step) :
    HasRoom past steps ∨
      ∃ done offset rest, steps = done ++ .makeRoom offset :: rest ∧ HasRoom past done ∧
        Overflows (past ++ done) offset := by
  induction steps generalizing past with
  | nil => exact Or.inl (hasRoom_nil past)
  | cons step rest inductionHypothesis =>
    by_cases here : ∃ offset, step = .makeRoom offset ∧ Overflows past offset
    · obtain ⟨offset, rfl, overflows⟩ := here
      exact Or.inr ⟨[], offset, rest, rfl, hasRoom_nil past, by rwa [List.append_nil]⟩
    · have fits : ∀ offset, step = .makeRoom offset → ¬ Overflows past offset :=
        fun offset same overflows => here ⟨offset, same, overflows⟩
      rcases inductionHypothesis (past ++ [step]) with
        room | ⟨done, offset, undone, rfl, room, overflows⟩
      · exact Or.inl (hasRoom_cons.mpr ⟨fits, room⟩)
      · refine Or.inr ⟨step :: done, offset, undone, rfl, hasRoom_cons.mpr ⟨fits, room⟩, ?_⟩
        simpa using overflows

/-- With room throughout, a run makes all its steps and its table goes on telling the history. -/
theorem follow_of_hasRoom (told : Tells past table) {steps : List Step}
    (room : HasRoom past steps) :
    ∃ final, follow table steps = .completed final ∧ Tells (past ++ steps) final := by
  induction steps generalizing past table with
  | nil => exact ⟨table, rfl, by rwa [List.append_nil]⟩
  | cons step rest inductionHypothesis =>
    obtain ⟨here, later⟩ := hasRoom_cons.mp room
    rcases perform_cases told step with
      ⟨_, next, performed, toldNext⟩ | ⟨offset, _, same, overflows, _⟩
    · obtain ⟨final, completed, toldFinal⟩ := inductionHypothesis toldNext later
      refine ⟨final, ?_, by simpa using toldFinal⟩
      rw [follow, performed, if_pos rfl, completed]
    · exact absurd overflows (here offset same)

theorem follow_append {done : List Step} {held : AddressTable}
    (completed : follow table done = .completed held) (rest : List Step) :
    follow table (done ++ rest) = follow held rest := by
  induction done generalizing table with
  | nil =>
    cases completed
    rfl
  | cons step done inductionHypothesis =>
    rw [follow] at completed
    rw [List.cons_append, follow]
    split at completed
    next complete => rw [if_pos complete, inductionHypothesis completed]
    next => cases completed

end Runs

/-- A run ends with the first move that some held address has no room for.  Up to there the table
holds each symbol once, in the order of first addition, with the address of its last addition and
all room made since.  The move itself reaches exactly the symbols in front of the first that has no
room. -/
theorem follow_stops_at_first_overflow (initial : List (Text × UInt64)) (steps : List Step) :
    (HasRoom (additions initial) steps ∧
      ∃ final, follow (.ofList initial) steps = .completed final ∧
        Tells (additions initial ++ steps) final) ∨
    ∃ done offset rest, steps = done ++ .makeRoom offset :: rest ∧
      HasRoom (additions initial) done ∧ Overflows (additions initial ++ done) offset ∧
      ∃ held left, follow (.ofList initial) done = .completed held ∧
        Tells (additions initial ++ done) held ∧
        follow (.ofList initial) steps = .stopped (.makeRoom offset :: rest) left ∧
        StopsShort offset held left := by
  have start := tells_ofList initial
  rcases hasRoom_or_first_overflow (additions initial) steps with
    room | ⟨done, offset, rest, rfl, room, overflows⟩
  · exact Or.inl ⟨room, follow_of_hasRoom start room⟩
  · obtain ⟨held, completed, told⟩ := follow_of_hasRoom start room
    refine Or.inr ⟨done, offset, rest, rfl, room, overflows, held, ?_⟩
    rcases perform_cases told (.makeRoom offset) with
      ⟨fits, _⟩ | ⟨_, left, ⟨⟩, _, performed, stops⟩
    · exact absurd overflows (fits offset rfl)
    · refine ⟨left, completed, told, ?_, stops⟩
      rw [follow_append completed, follow, performed]
      rfl

-- `A` comes back to its place with a new address, and `B` stops the last move behind it
example :
    follow (.ofList [(['A'], 1), (['B'], 2)])
        [.makeRoom 5, .add ['A'] 3, .makeRoom 0xFFFFFFFFFFFFFFF9] =
      .stopped [.makeRoom 0xFFFFFFFFFFFFFFF9] ⟨[(['A'], 0xFFFFFFFFFFFFFFFC), (['B'], 7)]⟩ := by
  decide

end AsmSymbols.AddressTable
