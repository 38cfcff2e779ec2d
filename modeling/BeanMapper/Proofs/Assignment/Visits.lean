import BeanMapper.Assignment.Requirement
import Mathlib.Data.List.Perm.Subperm

/-!
# Visited calls

A call has a place in its assignment: the turns that lead to it from the root. The list of calls
goes through the tree from the outside in and names the call of a presence check, but it does not
look into what the check is applied to (`IsHidden`). All other calls are visited once each, a call
before those that it is applied to; so every call of a tree is visited exactly if none is hidden
(`Assignment.visits_every_iff`).
-/

namespace BeanMapper

/-! ## Places -/

/-- A turn on the way from a part of an assignment to one within it: to what a wrapper is around,
to what a conversion or a call is applied to, to the default of a setter, or to the presence check
of a source value. -/
inductive Turn where
  | inner
  | argument
  | fallback
  | check
  deriving DecidableEq

/-- The place of a call in a tree: the turns that lead to it from the root. -/
abbrev Place := List Turn

namespace Place

/-- Within what a presence check is applied to. -/
def IsHidden (place : Place) : Prop :=
  ∃ before after, place = before ++ .check :: .argument :: after

/-- A call and nothing within it. -/
def here (reference : Reference) : Place → Option Reference
  | [] => some reference
  | _ :: _ => none

/-- What stands behind one more turn. -/
def behind (turn : Turn) (at? : Place → Option Reference) : Place → Option Reference
  | [] => none
  | next :: place => if next = turn then at? place else none

end Place

open Place (here behind)

mutual

def Assignment.at? : Assignment → Place → Option Reference
  | .direct _ presence => behind .check presence.at?
  | .convert _ argument => behind .argument argument.at?
  | .call reference => reference.at?
  | .nullCheck _ inner => behind .inner inner.at?
  | .merge _ _ _ inner => behind .inner inner.at?
  | .setter _ inner none => behind .inner inner.at?
  | .setter _ inner (some fallback) =>
    fun place => (behind .inner inner.at? place).or (behind .fallback fallback.at? place)

/-- The call itself, or one that its argument holds. -/
def Reference.at? : Reference → Place → Option Reference
  | .mk call none => here (.mk call none)
  | .mk call (some argument) =>
    fun place => (here (.mk call (some argument)) place).or (behind .argument argument.at? place)

def Presence.at? : Presence → Place → Option Reference
  | .unchecked => fun _ => none
  | .accessor _ => fun _ => none
  | .method reference => reference.at?

end

variable {at? other : Place → Option Reference} {place : Place} {turn : Turn}
  {reference : Reference}

namespace Place

theorem here_isSome_iff : (here reference place).isSome = true ↔ place = [] := by
  cases place with
  | nil => exact iff_of_true rfl rfl
  | cons next rest => exact iff_of_false (by simp [here]) (by simp)

theorem behind_isSome_iff :
    (behind turn at? place).isSome = true ↔ ∃ rest, place = turn :: rest ∧ (at? rest).isSome := by
  cases place with
  | nil => simp [behind]
  | cons next rest =>
    rw [behind]
    split
    · rename_i h
      simp [h]
    · rename_i h
      simp [h]

/-- Within a call there is nothing but what it is applied to. -/
theorem cases_of_reference (h : (reference.at? place).isSome = true) :
    place = [] ∨ ∃ rest, place = .argument :: rest := by
  obtain ⟨call, _ | argument⟩ := reference
  · rw [Reference.at?] at h
    exact Or.inl (here_isSome_iff.1 h)
  · rw [Reference.at?, Option.isSome_or, Bool.or_eq_true] at h
    rcases h with h | h
    · exact Or.inl (here_isSome_iff.1 h)
    · obtain ⟨rest, rfl, -⟩ := behind_isSome_iff.1 h
      exact Or.inr ⟨rest, rfl⟩

/-! ### Hidden places -/

theorem not_isHidden_nil : ¬IsHidden [] := by
  rintro ⟨before, after, h⟩
  simp at h

theorem isHidden_check_argument (rest : Place) : IsHidden (.check :: .argument :: rest) :=
  ⟨[], rest, rfl⟩

theorem not_isHidden_check : ¬IsHidden [.check] := by
  rintro ⟨_ | ⟨_, _⟩, after, h⟩ <;> simp at h

/-- Only a presence check hides calls. -/
theorem isHidden_cons_iff (h : turn ≠ .check) : IsHidden (turn :: place) ↔ IsHidden place := by
  constructor
  · rintro ⟨_ | ⟨first, before⟩, after, heq⟩
    · exact absurd (List.cons.inj heq).1 h
    · exact ⟨before, after, (List.cons.inj heq).2⟩
  · rintro ⟨before, after, rfl⟩
    exact ⟨turn :: before, after, rfl⟩

end Place

open Place (here_isSome_iff behind_isSome_iff)

/-! ## Visits -/

/-- A list of calls visits those at certain places of a tree: the calls of the list are those at
these places, in this order. No place comes twice, and none comes after one within it. -/
structure Visits (at? : Place → Option Reference) (seen : Place → Prop) (calls : List Call)
    (places : List Place) : Prop where
  calls_eq : calls.map some = places.map fun place => (at? place).map Reference.call
  mem_iff : ∀ place, place ∈ places ↔ (at? place).isSome = true ∧ seen place
  outermost : places.Pairwise fun earlier later => ¬later <+: earlier

namespace Visits

variable {seen : Place → Prop} {calls others : List Call} {places behindOthers : List Place}

theorem nodup (h : Visits at? seen calls places) : places.Nodup := by
  refine h.outermost.imp ?_
  rintro place _ hnot rfl
  exact hnot List.prefix_rfl

theorem length_eq (h : Visits at? seen calls places) : calls.length = places.length := by
  simpa using congrArg List.length h.calls_eq

/-- A call is visited where it stands. -/
theorem here (reference : Reference) :
    Visits (Place.here reference) (fun place => ¬place.IsHidden) [reference.call] [[]] where
  calls_eq := rfl
  mem_iff place := by
    rw [List.mem_singleton, here_isSome_iff]
    exact ⟨fun h => ⟨h, h ▸ Place.not_isHidden_nil⟩, And.left⟩
  outermost := List.pairwise_singleton _ _

/-- Behind a turn to anything but a presence check, the same is visited. -/
theorem behind (hturn : turn ≠ .check)
    (h : Visits at? (fun place => ¬place.IsHidden) calls places) :
    Visits (Place.behind turn at?) (fun place => ¬place.IsHidden) calls
      (places.map (turn :: ·)) where
  calls_eq := by
    rw [h.calls_eq, List.map_map]
    refine List.map_congr_left fun place _ => ?_
    simp [Place.behind]
  mem_iff place := by
    rw [behind_isSome_iff, List.mem_map]
    constructor
    · rintro ⟨rest, hrest, rfl⟩
      obtain ⟨hsome, hseen⟩ := (h.mem_iff rest).1 hrest
      exact ⟨⟨rest, rfl, hsome⟩, mt (Place.isHidden_cons_iff hturn).1 hseen⟩
    · rintro ⟨⟨rest, rfl, hsome⟩, hseen⟩
      exact ⟨rest, (h.mem_iff rest).2 ⟨hsome, mt (Place.isHidden_cons_iff hturn).2 hseen⟩, rfl⟩
  outermost := by
    refine List.pairwise_map.2 (h.outermost.imp fun hnot hprefix => hnot ?_)
    exact (List.prefix_cons_inj turn).1 hprefix

/-- Two parts are visited one after the other, if nothing of the second is around the first. -/
theorem append (hfirst : Visits at? seen calls places)
    (hsecond : Visits other seen others behindOthers)
    (hapart : ∀ earlier later, (at? earlier).isSome = true → (other later).isSome = true →
      ¬later <+: earlier) :
    Visits (fun place => (at? place).or (other place)) seen (calls ++ others)
      (places ++ behindOthers) where
  calls_eq := by
    rw [List.map_append, List.map_append, hfirst.calls_eq, hsecond.calls_eq]
    congr 1
    · refine List.map_congr_left fun place hplace => ?_
      rw [Option.or_of_isSome ((hfirst.mem_iff place).1 hplace).1]
    · refine List.map_congr_left fun place hplace => ?_
      -- a place of both would be around itself
      have hnone : ¬(at? place).isSome = true := fun hsome =>
        hapart place place hsome ((hsecond.mem_iff place).1 hplace).1 List.prefix_rfl
      rw [Option.not_isSome_iff_eq_none.1 hnone, Option.none_or]
  mem_iff place := by
    rw [List.mem_append, hfirst.mem_iff, hsecond.mem_iff, Option.isSome_or, Bool.or_eq_true,
      or_and_right]
  outermost := by
    refine List.pairwise_append.2 ⟨hfirst.outermost, hsecond.outermost, ?_⟩
    intro earlier hearlier later hlater
    exact hapart earlier later ((hfirst.mem_iff earlier).1 hearlier).1
      ((hsecond.mem_iff later).1 hlater).1

end Visits

/-- Of a presence check, the call itself is visited, and all else is hidden. -/
theorem Presence.exists_visits (presence : Presence) :
    ∃ places, Visits (behind .check presence.at?) (fun place => ¬place.IsHidden) presence.calls
      places := by
  cases presence with
  | unchecked => exact ⟨[], rfl, fun place => by simp [Presence.at?, behind_isSome_iff], .nil⟩
  | accessor expression =>
    exact ⟨[], rfl, fun place => by simp [Presence.at?, behind_isSome_iff], .nil⟩
  | method reference =>
    refine ⟨[[.check]], ?_, fun place => ?_, List.pairwise_singleton _ _⟩
    · obtain ⟨call, _ | argument⟩ := reference <;> rfl
    · rw [List.mem_singleton, behind_isSome_iff, Presence.at?]
      constructor
      · rintro rfl
        refine ⟨⟨[], rfl, ?_⟩, Place.not_isHidden_check⟩
        obtain ⟨call, _ | argument⟩ := reference <;> rfl
      · rintro ⟨⟨rest, rfl, hsome⟩, hseen⟩
        rcases Place.cases_of_reference hsome with rfl | ⟨rest, rfl⟩
        · rfl
        · exact absurd (Place.isHidden_check_argument rest) hseen

mutual

/-- Every call of an assignment that is not hidden is visited, by induction on the tree. -/
theorem Assignment.exists_visits : ∀ a : Assignment,
    ∃ places, Visits a.at? (fun place => ¬place.IsHidden) a.calls places
  | .direct value presence => by
    rw [Assignment.at?, Assignment.calls]
    exact presence.exists_visits
  | .convert conversion argument => by
    rw [Assignment.at?, Assignment.calls]
    obtain ⟨places, h⟩ := argument.exists_visits
    exact ⟨_, h.behind (by decide)⟩
  | .call reference => by
    rw [Assignment.at?, Assignment.calls]
    exact reference.exists_visits
  | .nullCheck guard inner => by
    rw [Assignment.at?, Assignment.calls]
    obtain ⟨places, h⟩ := inner.exists_visits
    exact ⟨_, h.behind (by decide)⟩
  | .merge guard check property inner => by
    rw [Assignment.at?, Assignment.calls]
    obtain ⟨places, h⟩ := inner.exists_visits
    exact ⟨_, h.behind (by decide)⟩
  | .setter setting inner none => by
    rw [Assignment.at?, Assignment.calls]
    obtain ⟨places, h⟩ := inner.exists_visits
    exact ⟨_, h.behind (by decide)⟩
  | .setter setting inner (some fallback) => by
    rw [Assignment.at?, Assignment.calls]
    obtain ⟨places, h⟩ := inner.exists_visits
    obtain ⟨others, hothers⟩ := fallback.exists_visits
    refine ⟨_, (h.behind (by decide)).append (hothers.behind (by decide)) ?_⟩
    -- what a wrapper is around and its default are behind different turns
    intro earlier later hearlier hlater hprefix
    obtain ⟨rest, rfl, -⟩ := behind_isSome_iff.1 hearlier
    obtain ⟨rest, rfl, -⟩ := behind_isSome_iff.1 hlater
    cases (List.cons_prefix_cons.1 hprefix).1

theorem Reference.exists_visits : ∀ reference : Reference,
    ∃ places, Visits reference.at? (fun place => ¬place.IsHidden) reference.calls places
  | .mk call none => by
    rw [Reference.at?, Reference.calls]
    exact ⟨_, .here _⟩
  | .mk call (some argument) => by
    rw [Reference.at?, Reference.calls]
    obtain ⟨places, h⟩ := argument.exists_visits
    refine ⟨_, (Visits.here _).append (h.behind (by decide)) ?_⟩
    intro earlier later hearlier hlater hprefix
    cases here_isSome_iff.1 hearlier
    obtain ⟨rest, rfl, -⟩ := behind_isSome_iff.1 hlater
    cases List.prefix_nil.1 hprefix

end

namespace Assignment

/-- If every call is visited, then none is hidden: otherwise there would be more calls in the tree
than there are visits. -/
theorem not_isHidden_of_visits {a : Assignment} {all : List Place}
    (hall : Visits a.at? (fun _ => True) a.calls all) {place : Place}
    (hsome : (a.at? place).isSome = true) : ¬place.IsHidden := by
  obtain ⟨places, h⟩ := a.exists_visits
  have hsubset : places ⊆ all := fun place hplace =>
    (hall.mem_iff place).2 ⟨((h.mem_iff place).1 hplace).1, trivial⟩
  have hlength : all.length ≤ places.length :=
    Nat.le_of_eq (hall.length_eq.symm.trans h.length_eq)
  have hperm : places.Perm all :=
    (List.subperm_of_subset h.nodup hsubset).perm_of_length_le hlength
  have hplace : place ∈ places := hperm.mem_iff.2 ((hall.mem_iff place).2 ⟨hsome, trivial⟩)
  exact ((h.mem_iff place).1 hplace).2

/-- **Only presence checks hide calls.** The calls outside of what presence checks are applied to
are visited once each, a call before those within its argument; so each call of a tree is visited in
this way exactly if no presence check is applied to the value of another call. -/
theorem visits_every_iff (a : Assignment) :
    (∃ places, Visits a.at? (fun place => ¬place.IsHidden) a.calls places) ∧
      ((∃ places, Visits a.at? (fun _ => True) a.calls places) ↔
        ∀ place, (a.at? place).isSome = true → ¬place.IsHidden) := by
  obtain ⟨places, h⟩ := a.exists_visits
  refine ⟨⟨places, h⟩, ?_, fun hnone => ⟨places, h.calls_eq, fun place => ?_, h.outermost⟩⟩
  · rintro ⟨all, hall⟩ place hsome
    exact not_isHidden_of_visits hall hsome
  · rw [h.mem_iff]
    exact and_congr_right fun hsome => iff_of_true (hnone place hsome) trivial

end Assignment

/-! ## A check on the value of a call -/

namespace Parcels

/-- A call that makes a type, without bindings. -/
def callOf (name : String) (result : Ty) : Call where
  name := name
  provider := .mapper
  bindings := []
  typeBindings := []
  returnType := result
  thrownTypes := []
  imports := []

/-- Reads an order after a method has told whether its item is packed; another method finds it. -/
def order : Assignment :=
  .direct (.ofParameter "order" (.named "shop.Order"))
    (.method (.apply (callOf "isPacked" (.primitive .boolean))
      (.call (.apply (callOf "itemOf" (.named "shop.Item"))
        (.direct (.ofParameter "order" (.named "shop.Order")) .unchecked)))))

/-- The method that finds the item is not visited. -/
theorem not_always_visited :
    ¬∀ a : Assignment, ∃ places, Visits a.at? (fun _ => True) a.calls places := by
  intro h
  obtain ⟨places, hplaces⟩ := h order
  have hsome : (order.at? [.check, .argument]).isSome = true := by decide
  exact Assignment.not_isHidden_of_visits hplaces hsome (Place.isHidden_check_argument [])

end Parcels

end BeanMapper
