import Mathlib.Data.List.Basic
import AsmSymbols.Pattern

/-!
# What patterns match

`Pattern.Matches` says which pieces of a text a pattern matches, given what stands in front of the
piece and behind it, and knows nothing of a search.  The search goes from spot to spot: `LeadsTo`
are the steps that matches make between the spots of a text, and `mem_reach_iff` says that a search
reaches exactly the spots to which a match leads.

Two things make a repetition more than a loop.  It is followed only from new spots, which finds
everything that some number of rounds leads to (`mem_roundsUpTo`).  And it is cut short where more
rounds are asked for than there are characters: then some round takes nothing, and can be left out
or made once more (`After.of_many`).
-/

set_option autoImplicit false

namespace AsmSymbols

namespace Spot

/-- The spot behind `front` and in front of `back`. -/
def between (front back : Text) : Spot := ⟨front.length, front.getLast?, back⟩

/-- A spot of a text. -/
def Of (text : Text) (spot : Spot) : Prop :=
  ∃ front back, text = front ++ back ∧ spot = between front back

variable {text front back : Text} {spot other : Spot}

/-- The spots of a text are told apart by their index. -/
theorem Of.eq_of_index (inText : spot.Of text) (otherInText : other.Of text)
    (same : spot.index = other.index) : spot = other := by
  obtain ⟨front, back, split, rfl⟩ := inText
  obtain ⟨otherFront, otherBack, otherSplit, rfl⟩ := otherInText
  obtain ⟨rfl, rfl⟩ := List.append_inj (split.symm.trans otherSplit) same
  rfl

theorem Of.index_le (inText : spot.Of text) : spot.index ≤ text.length := by
  obtain ⟨front, back, rfl, rfl⟩ := inText
  simp [between]

theorem mem_allFrom :
    spot ∈ allFrom front.length front.getLast? back ↔
      ∃ taken left, back = taken ++ left ∧ spot = between (front ++ taken) left := by
  induction back generalizing front with
  | nil =>
    constructor
    · intro isHere
      rw [allFrom, List.mem_singleton] at isHere
      exact ⟨[], [], rfl, by rw [isHere, List.append_nil, between]⟩
    · rintro ⟨taken, left, split, rfl⟩
      obtain ⟨rfl, rfl⟩ := List.append_eq_nil_iff.mp split.symm
      simp [allFrom, between]
  | cons c back inductionHypothesis =>
    have further := @inductionHypothesis (front ++ [c])
    rw [List.length_append, List.getLast?_concat] at further
    rw [allFrom, List.mem_cons, ← List.length_singleton (a := c), further]
    constructor
    · rintro (rfl | ⟨taken, left, rfl, rfl⟩)
      · exact ⟨[], c :: back, rfl, by rw [List.append_nil, between]⟩
      · exact ⟨c :: taken, left, rfl, by simp⟩
    · rintro ⟨taken, left, split, rfl⟩
      cases taken with
      | nil =>
        cases split
        exact Or.inl (by rw [List.append_nil, between])
      | cons d taken =>
        cases split
        exact Or.inr ⟨taken, left, rfl, by simp⟩

theorem mem_allFrom_start : spot ∈ allFrom 0 none text ↔ spot.Of text := by
  exact @mem_allFrom [] text spot

end Spot

namespace Pattern

/-- What a pattern can say of a piece of text: its front, the piece and its back. -/
abbrev Meaning := Text → Text → Text → Prop

/-- One match directly behind another. -/
def Behind (first second : Meaning) : Meaning := fun front piece back =>
  ∃ taken left, piece = taken ++ left ∧ first front taken (left ++ back) ∧
    second (front ++ taken) left back

/-- A number of matches in a row. -/
def Repeated (item : Meaning) : Nat → Meaning
  | 0 => fun _ piece _ => piece = []
  | count + 1 => Behind item (Repeated item count)

/-- A pattern matches the piece of a text that stands between `front` and `back`. -/
def Matches : Pattern → Meaning
  | .empty => fun _ piece _ => piece = []
  | .single set => fun _ piece _ => ∃ c, piece = [c] ∧ set.holds c.toNat = true
  | .anchored anchor => fun front piece back =>
    piece = [] ∧ anchor.holds (Spot.between front back) = true
  | .sequence first second => Behind first.Matches second.Matches
  | .choice left right => fun front piece back =>
    left.Matches front piece back ∨ right.Matches front piece back
  | .repetition item least most => fun front piece back =>
    ∃ count, least ≤ count ∧ (∀ bound ∈ most, count ≤ bound) ∧
      Repeated item.Matches count front piece back
  | .group item => item.Matches

/-- No repetition asks for more rounds than it allows. -/
def CountsInOrder : Pattern → Prop
  | .empty | .single _ | .anchored _ => True
  | .sequence first second => first.CountsInOrder ∧ second.CountsInOrder
  | .choice left right => left.CountsInOrder ∧ right.CountsInOrder
  | .repetition item least most => (∀ bound ∈ most, least ≤ bound) ∧ item.CountsInOrder
  | .group item => item.CountsInOrder

/-- A match takes the reading of a text from one spot to another. -/
def LeadsTo (text : Text) (meaning : Meaning) (start stop : Spot) : Prop :=
  ∃ front piece back, text = front ++ piece ++ back ∧
    start = .between front (piece ++ back) ∧ stop = .between (front ++ piece) back ∧
    meaning front piece back

/-- So many steps lead from one spot to another. -/
def After (step : Spot → Spot → Prop) : Nat → Spot → Spot → Prop
  | 0 => Eq
  | count + 1 => fun start stop => ∃ next, step start next ∧ After step count next stop

section Steps

variable {text : Text} {first second item : Meaning} {start stop : Spot}

theorem LeadsTo.start_of (leads : LeadsTo text item start stop) : start.Of text := by
  obtain ⟨front, piece, back, split, rfl, rfl, _⟩ := leads
  exact ⟨front, piece ++ back, by rw [split, List.append_assoc], rfl⟩

theorem LeadsTo.stop_of (leads : LeadsTo text item start stop) : stop.Of text := by
  obtain ⟨front, piece, back, split, rfl, rfl, _⟩ := leads
  exact ⟨front ++ piece, back, split, rfl⟩

theorem LeadsTo.index_le (leads : LeadsTo text item start stop) : start.index ≤ stop.index := by
  obtain ⟨front, piece, back, split, rfl, rfl, _⟩ := leads
  simp [Spot.between]

theorem leadsTo_nil (inText : start.Of text) :
    LeadsTo text (fun _ piece _ => piece = []) start stop ↔ start = stop := by
  constructor
  · rintro ⟨front, piece, back, _, rfl, rfl, rfl⟩
    simp
  · rintro rfl
    obtain ⟨front, back, split, rfl⟩ := inText
    exact ⟨front, [], back, by simpa using split, rfl, by simp, rfl⟩

theorem leadsTo_behind :
    LeadsTo text (Behind first second) start stop ↔
      ∃ middle, LeadsTo text first start middle ∧ LeadsTo text second middle stop := by
  constructor
  · rintro ⟨front, _, back, split, rfl, rfl, taken, left, rfl, inFirst, inSecond⟩
    refine ⟨.between (front ++ taken) (left ++ back),
      ⟨front, taken, left ++ back, by simp [split], by simp, rfl, inFirst⟩,
      ⟨front ++ taken, left, back, by simp [split], rfl, by simp, inSecond⟩⟩
  · rintro ⟨_, ⟨front, taken, rest, split, rfl, rfl, inFirst⟩,
      ⟨otherFront, left, back, otherSplit, sameSpot, rfl, inSecond⟩⟩
    have sameLength := congrArg Spot.index sameSpot
    rw [otherSplit, List.append_assoc] at split
    obtain ⟨rfl, rfl⟩ := List.append_inj split sameLength.symm
    exact ⟨front, taken ++ left, back, by simp [otherSplit], by simp, by simp,
      taken, left, rfl, inFirst, inSecond⟩

theorem leadsTo_repeated (inText : start.Of text) (count : Nat) :
    LeadsTo text (Repeated item count) start stop ↔
      After (LeadsTo text item) count start stop := by
  induction count generalizing start with
  | zero => exact leadsTo_nil inText
  | succ count inductionHypothesis =>
    rw [Repeated, leadsTo_behind]
    apply exists_congr
    intro middle
    apply and_congr_right
    intro leads
    exact inductionHypothesis leads.stop_of

end Steps

section Rounds

variable {text : Text} {item : Meaning} {start stop : Spot} {round : List Spot → List Spot}
  {count more size : Nat}

theorem after_add {step : Spot → Spot → Prop} :
    After step (count + more) start stop ↔
      ∃ middle, After step count start middle ∧ After step more middle stop := by
  induction count generalizing start with
  | zero =>
    rw [Nat.zero_add]
    exact ⟨fun after => ⟨start, rfl, after⟩, fun ⟨_, same, after⟩ => same ▸ after⟩
  | succ count inductionHypothesis =>
    rw [Nat.succ_add]
    constructor
    · rintro ⟨next, leads, after⟩
      obtain ⟨middle, before, behind⟩ := inductionHypothesis.mp after
      exact ⟨middle, ⟨next, leads, before⟩, behind⟩
    · rintro ⟨middle, ⟨next, leads, before⟩, behind⟩
      exact ⟨next, leads, inductionHypothesis.mpr ⟨middle, before, behind⟩⟩

/-- Each of some rounds takes a character, or one of them leads from a spot to itself. -/
theorem After.advances_or_stays (after : After (LeadsTo text item) count start stop) :
    start.index + count ≤ stop.index ∨
      ∃ before behind spot, count = before + (1 + behind) ∧
        After (LeadsTo text item) before start spot ∧ LeadsTo text item spot spot ∧
        After (LeadsTo text item) behind spot stop := by
  induction count generalizing start with
  | zero =>
    cases after
    exact Or.inl (Nat.le_refl _)
  | succ count inductionHypothesis =>
    obtain ⟨next, leads, after⟩ := after
    by_cases stays : start.index = next.index
    · have same := leads.start_of.eq_of_index leads.stop_of stays
      subst same
      exact Or.inr ⟨0, count, start, by omega, rfl, leads, after⟩
    · have further := leads.index_le
      rcases inductionHypothesis after with
        advances | ⟨before, behind, spot, sum, inFront, stays, inBack⟩
      · exact Or.inl (by omega)
      · exact Or.inr ⟨before + 1, behind, spot, by omega, ⟨next, leads, inFront⟩, stays, inBack⟩

/-- More rounds than there are characters can be made one less or one more, since one of them stays
where it is. -/
theorem After.less_and_more (after : After (LeadsTo text item) count start stop)
    (inText : stop.Of text) (many : text.length < count) :
    After (LeadsTo text item) (count - 1) start stop ∧
      After (LeadsTo text item) (count + 1) start stop := by
  have bounded := inText.index_le
  rcases after.advances_or_stays with
    advances | ⟨before, behind, spot, sum, inFront, stays, inBack⟩
  · omega
  · have less : count - 1 = before + behind := by omega
    have further : count + 1 = before + (behind + 1 + 1) := by omega
    rw [less, further]
    exact ⟨after_add.mpr ⟨spot, inFront, inBack⟩,
      after_add.mpr ⟨spot, inFront, spot, stays, spot, stays, inBack⟩⟩

/-- All numbers of rounds beyond the number of characters lead to the same spots. -/
theorem After.of_many (after : After (LeadsTo text item) count start stop)
    (inText : stop.Of text) (many : text.length < count) (moreMany : text.length < more) :
    After (LeadsTo text item) more start stop := by
  rcases Nat.le_total count more with fewer | fewer
  · obtain ⟨extra, rfl⟩ := Nat.exists_eq_add_of_le fewer
    induction extra with
    | zero => exact after
    | succ extra inductionHypothesis =>
      have made := inductionHypothesis (by omega) (Nat.le_add_right count extra)
      exact (made.less_and_more inText (by omega)).2
  · obtain ⟨extra, rfl⟩ := Nat.exists_eq_add_of_le fewer
    induction extra with
    | zero => exact after
    | succ extra inductionHypothesis =>
      have made := (after.less_and_more inText many).1
      exact inductionHypothesis made (by omega) (Nat.le_add_right more extra)

/-- `round` takes spots of a text to those that `item` leads to. -/
def Rounds (text : Text) (item : Meaning) (round : List Spot → List Spot) : Prop :=
  ∀ spots, (∀ spot ∈ spots, spot.Of text) →
    ∀ stop, stop ∈ round spots ↔ ∃ start ∈ spots, LeadsTo text item start stop

theorem Rounds.of (leads : Rounds text item round) {spots : List Spot}
    (inText : ∀ spot ∈ spots, spot.Of text) : ∀ spot ∈ round spots, spot.Of text := by
  intro spot reached
  obtain ⟨start, _, leads⟩ := (leads spots inText spot).mp reached
  exact leads.stop_of

theorem mem_rounds (leads : Rounds text item round) {spots : List Spot}
    (inText : ∀ spot ∈ spots, spot.Of text) :
    stop ∈ rounds round count spots ↔
      ∃ start ∈ spots, After (LeadsTo text item) count start stop := by
  induction count generalizing spots with
  | zero => simp [rounds, After]
  | succ count inductionHypothesis =>
    rw [rounds, inductionHypothesis (leads.of inText)]
    constructor
    · rintro ⟨next, reached, after⟩
      obtain ⟨start, inSpots, first⟩ := (leads spots inText next).mp reached
      exact ⟨start, inSpots, next, first, after⟩
    · rintro ⟨start, inSpots, next, first, after⟩
      exact ⟨next, (leads spots inText next).mpr ⟨start, inSpots, first⟩, after⟩

/-- The spots that a round finds and nobody holds yet. -/
theorem mem_found (leads : Rounds text item round) {held fresh : List Spot}
    (inText : ∀ spot ∈ held, spot.Of text) (freshHeld : ∀ spot ∈ fresh, spot ∈ held) :
    stop ∈ (round fresh).filter (fun spot => !held.any (·.index == spot.index)) ↔
      (∃ start ∈ fresh, LeadsTo text item start stop) ∧ stop ∉ held := by
  have freshInText : ∀ spot ∈ fresh, spot.Of text := fun spot inFresh =>
    inText spot (freshHeld spot inFresh)
  rw [List.mem_filter, leads fresh freshInText]
  apply and_congr_right
  rintro ⟨start, _, leads⟩
  rw [Bool.not_eq_true', ← Bool.not_eq_true, List.any_eq_true]
  apply not_congr
  constructor
  · rintro ⟨spot, inHeld, same⟩
    rwa [← (inText spot inHeld).eq_of_index leads.stop_of (beq_iff_eq.mp same)]
  · intro inHeld
    exact ⟨stop, inHeld, beq_self_eq_true _⟩

theorem After.mem_of_closed {step : Spot → Spot → Prop} {held : List Spot}
    (closed : ∀ spot ∈ held, ∀ next, step spot next → next ∈ held) (inHeld : start ∈ held)
    (after : After step count start stop) : stop ∈ held := by
  induction count generalizing start with
  | zero =>
    cases after
    exact inHeld
  | succ count inductionHypothesis =>
    obtain ⟨next, leads, after⟩ := after
    exact inductionHypothesis (closed start inHeld next leads) after

/-- Following only new spots loses nothing, as long as what the others lead to is held. -/
theorem mem_roundsUpTo (leads : Rounds text item round) {held fresh : List Spot}
    (inText : ∀ spot ∈ held, spot.Of text) (freshHeld : ∀ spot ∈ fresh, spot ∈ held)
    (followed : ∀ spot ∈ held, spot ∉ fresh → ∀ next, LeadsTo text item spot next → next ∈ held) :
    stop ∈ roundsUpTo round count held fresh ↔
      ∃ start ∈ held, ∃ made ≤ count, After (LeadsTo text item) made start stop := by
  induction count generalizing held fresh with
  | zero =>
    constructor
    · intro inHeld
      exact ⟨stop, inHeld, 0, Nat.le_refl 0, rfl⟩
    · rintro ⟨start, inHeld, made, none, after⟩
      cases Nat.le_zero.mp none
      cases after
      exact inHeld
  | succ count inductionHypothesis =>
    have isFound (spot : Spot) := @mem_found text item spot round leads held fresh inText freshHeld
    rw [roundsUpTo]
    generalize (round fresh).filter (fun spot => !held.any (·.index == spot.index)) = found
      at isFound ⊢
    have goesOn : ∀ spot ∈ held, ∀ next, LeadsTo text item spot next → next ∈ held ++ found := by
      intro spot inHeld next leads
      by_cases known : next ∈ held
      · exact List.mem_append_left _ known
      · by_cases new : spot ∈ fresh
        · exact List.mem_append_right _ ((isFound next).mpr ⟨⟨spot, new, leads⟩, known⟩)
        · exact absurd (followed spot inHeld new next leads) known
    split
    next ended =>
      rw [List.isEmpty_iff.mp ended, List.append_nil] at goesOn
      constructor
      · intro inHeld
        exact ⟨stop, inHeld, 0, Nat.zero_le _, rfl⟩
      · rintro ⟨start, inHeld, made, _, after⟩
        exact after.mem_of_closed goesOn inHeld
    next =>
      have allInText : ∀ spot ∈ held ++ found, spot.Of text := by
        intro spot isHeld
        rcases List.mem_append.mp isHeld with inHeld | inFound
        · exact inText spot inHeld
        · obtain ⟨⟨start, _, leads⟩, _⟩ := (isFound spot).mp inFound
          exact leads.stop_of
      rw [inductionHypothesis allInText fun spot => List.mem_append_right held]
      · constructor
        · rintro ⟨start, isHeld, made, few, after⟩
          rcases List.mem_append.mp isHeld with inHeld | inFound
          · exact ⟨start, inHeld, made, Nat.le_succ_of_le few, after⟩
          · obtain ⟨⟨first, inFresh, leads⟩, _⟩ := (isFound start).mp inFound
            exact ⟨first, freshHeld first inFresh, made + 1, Nat.succ_le_succ few, start, leads,
              after⟩
        · rintro ⟨start, inHeld, made, few, after⟩
          cases made with
          | zero => exact ⟨start, List.mem_append_left _ inHeld, 0, Nat.zero_le _, after⟩
          | succ made =>
            obtain ⟨next, leads, after⟩ := after
            exact ⟨next, goesOn start inHeld next leads, made, Nat.le_of_succ_le_succ few, after⟩
      · intro spot isHeld old
        exact goesOn spot ((List.mem_append.mp isHeld).resolve_right old)

theorem After.stop_of (inText : start.Of text)
    (after : After (LeadsTo text item) count start stop) : stop.Of text := by
  induction count generalizing start with
  | zero =>
    cases after
    exact inText
  | succ count inductionHypothesis =>
    obtain ⟨next, leads, after⟩ := after
    exact inductionHypothesis leads.stop_of after

theorem After.atMost (inText : start.Of text) (after : After (LeadsTo text item) count start stop) :
    After (LeadsTo text item) (min count (text.length + 1)) start stop := by
  by_cases few : count ≤ text.length + 1
  · rwa [Nat.min_eq_left few]
  · rw [Nat.min_eq_right (by omega)]
    exact after.of_many (after.stop_of inText) (by omega) (Nat.lt_succ_self _)

/-- The rounds that a search makes lead to the same spots as those that a repetition allows. -/
theorem after_within {least : Nat} {most : Option Nat} (inText : start.Of text)
    (ordered : ∀ bound ∈ most, least ≤ bound) :
    (∃ middle, After (LeadsTo text item) (min least (text.length + 1)) start middle ∧
      ∃ made ≤ most.elim (text.length + 1) (fun most => min (most - least) (text.length + 1)),
        After (LeadsTo text item) made middle stop) ↔
    ∃ count, least ≤ count ∧ (∀ bound ∈ most, count ≤ bound) ∧
      After (LeadsTo text item) count start stop := by
  constructor
  · rintro ⟨middle, first, made, few, further⟩
    have after := after_add.mpr ⟨middle, first, further⟩
    by_cases askedFew : least ≤ text.length + 1
    · rw [Nat.min_eq_left askedFew] at after
      refine ⟨least + made, Nat.le_add_right least made, ?_, after⟩
      rintro bound ⟨⟩
      have := ordered bound rfl
      simp only [Option.elim_some] at few
      omega
    · rw [Nat.min_eq_right (by omega)] at after
      exact ⟨least, Nat.le_refl least, ordered,
        after.of_many (after.stop_of inText) (by omega) (by omega)⟩
  · rintro ⟨count, enough, allowed, after⟩
    by_cases askedFew : least ≤ text.length + 1
    · obtain ⟨extra, rfl⟩ := Nat.exists_eq_add_of_le enough
      obtain ⟨middle, first, further⟩ := after_add.mp after
      rw [Nat.min_eq_left askedFew]
      refine ⟨middle, first, _, ?_, further.atMost (first.stop_of inText)⟩
      cases most with
      | none => exact Nat.min_le_right _ _
      | some bound =>
        have := allowed bound rfl
        simp only [Option.elim_some]
        omega
    · have first := after.atMost inText
      rw [Nat.min_eq_right (by omega)] at first ⊢
      exact ⟨stop, first, 0, Nat.zero_le _, rfl⟩

end Rounds

section Search

variable {text : Text} {start spot : Spot}

/-- Dropping spots of an index that was seen before drops no spot of a text. -/
theorem mem_distinct {spots : List Spot} (inText : ∀ spot ∈ spots, spot.Of text) :
    spot ∈ distinct spots ↔ spot ∈ spots := by
  match spots with
  | [] => rfl
  | first :: rest =>
    let others := rest.filter fun other => (other.index == first.index) = false
    have shorter : others.length ≤ rest.length := List.length_filter_le _ _
    have inOthers : ∀ spot ∈ others, spot.Of text := fun other kept =>
      inText other (List.mem_cons_of_mem _ (List.mem_of_mem_filter kept))
    have step : distinct (first :: rest) = first :: distinct others := List.eraseDupsBy_cons
    rw [step, List.mem_cons, List.mem_cons, mem_distinct inOthers, List.mem_filter]
    constructor
    · rintro (same | ⟨inRest, _⟩)
      · exact Or.inl same
      · exact Or.inr inRest
    · rintro (same | inRest)
      · exact Or.inl same
      · have spotInText := inText spot (List.mem_cons_of_mem _ inRest)
        by_cases same : spot.index = first.index
        · exact Or.inl (spotInText.eq_of_index (inText first List.mem_cons_self) same)
        · exact Or.inr ⟨inRest, by simpa using same⟩
termination_by spots.length
decreasing_by exact Nat.lt_succ_of_le shorter

theorem leadsTo_single (inText : start.Of text) (set : CharSet) :
    LeadsTo text (Matches (.single set)) start spot ↔ start.behind? set = some spot := by
  constructor
  · rintro ⟨front, piece, back, _, rfl, rfl, c, rfl, holds⟩
    simp [Spot.behind?, Spot.between, holds]
  · intro found
    obtain ⟨front, back, split, rfl⟩ := inText
    cases back with
    | nil => cases found
    | cons c back =>
      simp only [Spot.behind?, Spot.between, Option.ite_none_right_eq_some] at found
      obtain ⟨holds, ⟨⟩⟩ := found
      exact ⟨front, [c], back, by simp [split], rfl, by simp [Spot.between], c, rfl, holds⟩

theorem leadsTo_anchored (inText : start.Of text) (anchor : Anchor) :
    LeadsTo text (Matches (.anchored anchor)) start spot ↔
      start = spot ∧ anchor.holds start = true := by
  constructor
  · rintro ⟨front, piece, back, _, rfl, rfl, rfl, holds⟩
    simpa using holds
  · rintro ⟨rfl, holds⟩
    obtain ⟨front, back, split, rfl⟩ := inText
    exact ⟨front, [], back, by simp [split], rfl, by simp, rfl, holds⟩

theorem leadsTo_choice (left right : Pattern) :
    LeadsTo text (Matches (.choice left right)) start spot ↔
      LeadsTo text left.Matches start spot ∨ LeadsTo text right.Matches start spot := by
  constructor
  · rintro ⟨front, piece, back, split, starts, stops, inLeft | inRight⟩
    · exact Or.inl ⟨front, piece, back, split, starts, stops, inLeft⟩
    · exact Or.inr ⟨front, piece, back, split, starts, stops, inRight⟩
  · rintro (⟨front, piece, back, split, starts, stops, inLeft⟩ |
      ⟨front, piece, back, split, starts, stops, inRight⟩)
    · exact ⟨front, piece, back, split, starts, stops, Or.inl inLeft⟩
    · exact ⟨front, piece, back, split, starts, stops, Or.inr inRight⟩

theorem leadsTo_repetition (inText : start.Of text) (item : Pattern) (least : Nat)
    (most : Option Nat) :
    LeadsTo text (Matches (.repetition item least most)) start spot ↔
      ∃ count, least ≤ count ∧ (∀ bound ∈ most, count ≤ bound) ∧
        After (LeadsTo text item.Matches) count start spot := by
  constructor
  · rintro ⟨front, piece, back, split, starts, stops, count, enough, allowed, row⟩
    exact ⟨count, enough, allowed,
      (leadsTo_repeated inText count).mp ⟨front, piece, back, split, starts, stops, row⟩⟩
  · rintro ⟨count, enough, allowed, after⟩
    obtain ⟨front, piece, back, split, starts, stops, row⟩ :=
      (leadsTo_repeated inText count).mpr after
    exact ⟨front, piece, back, split, starts, stops, count, enough, allowed, row⟩

/-- A search from spots of a text reaches exactly the spots to which a match leads. -/
theorem mem_reach_iff {pattern : Pattern} (ordered : pattern.CountsInOrder) {spots : List Spot}
    (inText : ∀ spot ∈ spots, spot.Of text) :
    spot ∈ pattern.reach text.length spots ↔
      ∃ start ∈ spots, LeadsTo text pattern.Matches start spot := by
  induction pattern generalizing spots spot with
  | empty =>
    constructor
    · intro inSpots
      exact ⟨spot, inSpots, (leadsTo_nil (inText spot inSpots)).mpr rfl⟩
    · rintro ⟨start, inSpots, leads⟩
      rwa [← (leadsTo_nil (inText start inSpots)).mp leads]
  | single set =>
    rw [reach, List.mem_filterMap]
    apply exists_congr
    intro start
    apply and_congr_right
    intro inSpots
    exact (leadsTo_single (inText start inSpots) set).symm
  | anchored anchor =>
    rw [reach, List.mem_filter]
    constructor
    · rintro ⟨inSpots, holds⟩
      exact ⟨spot, inSpots, (leadsTo_anchored (inText spot inSpots) anchor).mpr ⟨rfl, holds⟩⟩
    · rintro ⟨start, inSpots, leads⟩
      obtain ⟨rfl, holds⟩ := (leadsTo_anchored (inText start inSpots) anchor).mp leads
      exact ⟨inSpots, holds⟩
  | sequence first second firstHypothesis secondHypothesis =>
    have leads : Rounds text first.Matches (first.reach text.length) :=
      fun spots inText stop => firstHypothesis ordered.1 inText
    rw [reach, secondHypothesis ordered.2 (leads.of inText)]
    constructor
    · rintro ⟨middle, reached, inSecond⟩
      obtain ⟨start, inSpots, inFirst⟩ := (leads spots inText middle).mp reached
      exact ⟨start, inSpots, leadsTo_behind.mpr ⟨middle, inFirst, inSecond⟩⟩
    · rintro ⟨start, inSpots, both⟩
      obtain ⟨middle, inFirst, inSecond⟩ := leadsTo_behind.mp both
      exact ⟨middle, (leads spots inText middle).mpr ⟨start, inSpots, inFirst⟩, inSecond⟩
  | choice left right leftHypothesis rightHypothesis =>
    have leadsLeft : Rounds text left.Matches (left.reach text.length) :=
      fun spots inText stop => leftHypothesis ordered.1 inText
    have leadsRight : Rounds text right.Matches (right.reach text.length) :=
      fun spots inText stop => rightHypothesis ordered.2 inText
    have inTextBoth : ∀ spot ∈ left.reach text.length spots ++ right.reach text.length spots,
        spot.Of text :=
      List.forall_mem_append.mpr ⟨leadsLeft.of inText, leadsRight.of inText⟩
    rw [reach, mem_distinct inTextBoth, List.mem_append, leadsLeft spots inText,
      leadsRight spots inText]
    simp only [leadsTo_choice, and_or_left, exists_or]
  | repetition item least most inductionHypothesis =>
    have leads : Rounds text item.Matches (item.reach text.length) :=
      fun spots inText stop => inductionHypothesis ordered.2 inText
    have first (stop : Spot) := @mem_rounds text item.Matches stop _
      (min least (text.length + 1)) leads spots inText
    have firstInText : ∀ spot ∈ rounds (item.reach text.length) (min least (text.length + 1)) spots,
        spot.Of text := by
      intro stop reached
      obtain ⟨start, inSpots, after⟩ := (first stop).mp reached
      exact after.stop_of (inText start inSpots)
    rw [reach, mem_roundsUpTo leads firstInText (fun _ inFirst => inFirst)
      (fun _ inFirst new => absurd inFirst new)]
    constructor
    · rintro ⟨middle, reached, further⟩
      obtain ⟨start, inSpots, after⟩ := (first middle).mp reached
      have spotInText := inText start inSpots
      exact ⟨start, inSpots, (leadsTo_repetition spotInText item least most).mpr
        ((after_within spotInText ordered.1).mp ⟨middle, after, further⟩)⟩
    · rintro ⟨start, inSpots, leadsAll⟩
      have spotInText := inText start inSpots
      obtain ⟨middle, after, further⟩ := (after_within spotInText ordered.1).mpr
        ((leadsTo_repetition spotInText item least most).mp leadsAll)
      exact ⟨middle, (first middle).mpr ⟨start, inSpots, after⟩, further⟩
  | group item inductionHypothesis => exact inductionHypothesis ordered inText

/-- A pattern occurs in a text if it matches some piece of it. -/
theorem occursIn_iff {pattern : Pattern} (ordered : pattern.CountsInOrder) (text : Text) :
    pattern.occursIn text = true ↔
      ∃ front piece back, text = front ++ piece ++ back ∧ pattern.Matches front piece back := by
  have inText : ∀ spot ∈ Spot.allFrom 0 none text, spot.Of text :=
    fun spot => Spot.mem_allFrom_start.mp
  rw [occursIn, Bool.not_eq_true', List.isEmpty_eq_false_iff_exists_mem]
  constructor
  · rintro ⟨stop, reached⟩
    obtain ⟨_, _, front, piece, back, split, _, _, inPiece⟩ :=
      (mem_reach_iff ordered inText).mp reached
    exact ⟨front, piece, back, split, inPiece⟩
  · rintro ⟨front, piece, back, split, inPiece⟩
    refine ⟨.between (front ++ piece) back, (mem_reach_iff ordered inText).mpr
      ⟨.between front (piece ++ back), ?_, front, piece, back, split, rfl, rfl, inPiece⟩⟩
    exact Spot.mem_allFrom_start.mpr ⟨front, piece ++ back, by rw [split, List.append_assoc], rfl⟩

end Search

end Pattern

end AsmSymbols
