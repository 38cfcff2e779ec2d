import BeanMapper.Log.Filter
import BeanMapper.Proofs.Text.Segments
import Mathlib.Data.Prod.Lex
import Mathlib.Data.String.Basic
import Mathlib.Order.WithBot

/-!
# The level of a target

A filter gives a target the level of its first directive that names a beginning of the target, or no
target at all. The filter is kept in order, so that is the directive that names the longest beginning
(`decider?_eq_some_iff`), and of two that name the same it holds the one written last
(`decider?_filterOf_iff`). One more directive decides for all the targets that it is about and that
no other reaches further into (`levelOf_addDirective`).
-/

namespace BeanMapper.Log

/-! ## Levels -/

/-- How many levels let less through. -/
def Level.rank : Level → Nat
  | .off => 0
  | .error => 1
  | .warn => 2
  | .info => 3
  | .debug => 4
  | .trace => 5

instance : LE Level := ⟨fun a b => a.rank ≤ b.rank⟩

instance (a b : Level) : Decidable (a ≤ b) := inferInstanceAs (Decidable (a.rank ≤ b.rank))

theorem Level.le_iff {a b : Level} : a ≤ b ↔ a.rank ≤ b.rank := Iff.rfl

/-! ## Directives about a target -/

namespace Directive

/-- The directive is about the target: it names a beginning of it, or no target at all. -/
def Covers (directive : Directive) (target : String) : Prop :=
  ∀ start ∈ directive.target, start.toList <+: target.toList

instance (directive : Directive) (target : String) : Decidable (directive.Covers target) :=
  inferInstanceAs (Decidable (∀ start ∈ directive.target, start.toList <+: target.toList))

/-- How far a directive reaches into the targets that it is about. -/
def reach (directive : Directive) : Nat :=
  match directive.target with
  | none => 0
  | some start => start.utf8ByteSize + 1

/-- Where a directive stands among others, from behind. -/
def key (directive : Directive) : WithBot (ℕ ×ₗ String) :=
  directive.target.map fun start => toLex (start.utf8ByteSize, start)

variable {a b : Directive} {target : String}

theorem covers_congr (h : a.target = b.target) : a.Covers target ↔ b.Covers target := by
  rw [Covers, Covers, h]

theorem reach_congr (h : a.target = b.target) : a.reach = b.reach := by
  rw [reach, reach, h]

theorem key_eq_iff : a.key = b.key ↔ a.target = b.target := by
  have hinj : Function.Injective fun start : String => toLex (start.utf8ByteSize, start) :=
    fun s t h => congrArg (fun k => (ofLex k).2) h
  exact (Option.map_injective hinj).eq_iff

theorem precedes_iff : a.precedes b = true ↔ b.key < a.key := by
  unfold precedes key
  cases a.target with
  | none => exact iff_of_false (by simp) (not_lt_bot (a := b.key))
  | some s =>
    cases b.target with
    | none => exact iff_of_true rfl (WithBot.bot_lt_coe _)
    | some t =>
      change _ ↔ ((toLex (t.utf8ByteSize, t) : ℕ ×ₗ String) : WithBot (ℕ ×ₗ String)) <
        ((toLex (s.utf8ByteSize, s) : ℕ ×ₗ String) : WithBot (ℕ ×ₗ String))
      rw [WithBot.coe_lt_coe, Prod.Lex.toLex_lt_toLex]
      simp only [Bool.or_eq_true, Bool.and_eq_true, decide_eq_true_eq, @eq_comm _ s.utf8ByteSize]

theorem reach_le_of_key_lt (h : b.key < a.key) : b.reach ≤ a.reach := by
  rw [← precedes_iff] at h
  unfold precedes at h
  unfold reach
  cases ha : a.target <;> cases hb : b.target <;> simp_all
  omega

theorem exists_append_of_start {s t : String} (h : s.toList <+: t.toList) :
    ∃ rest, t = s ++ rest := by
  obtain ⟨rest, hrest⟩ := h
  refine ⟨String.ofList rest, ?_⟩
  rw [← String.toList_inj, String.toList_append, String.toList_ofList, hrest]

theorem size_le_of_start {s t : String} (h : s.toList <+: t.toList) :
    s.utf8ByteSize ≤ t.utf8ByteSize := by
  obtain ⟨rest, rfl⟩ := exists_append_of_start h
  rw [String.utf8ByteSize_append]
  omega

/-- A beginning of a text of the same size is the whole text. -/
theorem eq_of_start {s t : String} (h : s.toList <+: t.toList)
    (hsize : s.utf8ByteSize = t.utf8ByteSize) : s = t := by
  obtain ⟨rest, rfl⟩ := exists_append_of_start h
  have hnone : rest.utf8ByteSize = 0 := by
    rw [String.utf8ByteSize_append] at hsize
    omega
  rw [String.utf8ByteSize_eq_zero_iff.1 hnone, String.append_empty]

/-- Directives about one target that reach equally far name the same. -/
theorem target_eq_of_reach_eq (ha : a.Covers target) (hb : b.Covers target)
    (h : a.reach = b.reach) : a.target = b.target := by
  unfold reach at h
  cases hs : a.target with
  | none =>
    cases ht : b.target with
    | none => rfl
    | some t => simp [hs, ht] at h
  | some s =>
    cases ht : b.target with
    | none => simp [hs, ht] at h
    | some t =>
      have hsize : s.utf8ByteSize = t.utf8ByteSize := by simpa [hs, ht] using h
      rcases List.prefix_or_prefix_of_prefix (ha s hs) (hb t ht) with hprefix | hprefix
      · rw [eq_of_start hprefix hsize]
      · rw [eq_of_start hprefix hsize.symm]

end Directive

/-! ## Filters -/

/-- The filter that a list of directives makes, in the order in which they are written. -/
def filterOf (written : List Directive) : List Directive :=
  written.foldl (fun filter directive => addDirective directive filter) []

def Sorted (filter : List Directive) : Prop := filter.Pairwise fun a b => b.key < a.key

variable {directive d e : Directive} {filter written : List Directive} {target : String}

theorem filterOf_append (written : List Directive) (directive : Directive) :
    filterOf (written ++ [directive]) = addDirective directive (filterOf written) := by
  rw [filterOf, List.foldl_append]
  rfl

/-- One more directive takes the place of that of the same target. -/
theorem mem_addDirective_iff (h : Sorted filter) :
    d ∈ addDirective directive filter ↔
      d = directive ∨ (d ∈ filter ∧ d.target ≠ directive.target) := by
  induction filter with
  | nil => simp [addDirective]
  | cons other rest ih =>
    obtain ⟨hother, hrest⟩ := List.pairwise_cons.1 h
    -- what stands behind the new directive names another target
    have hbehind : ∀ e ∈ rest, ¬directive.key < other.key → e.target ≠ directive.target := by
      intro e he hkey htarget
      rw [← Directive.key_eq_iff.2 htarget] at hkey
      exact hkey (hother e he)
    rw [addDirective]
    split
    · rename_i htarget
      have hkey : ¬directive.key < other.key := (Directive.key_eq_iff.2 htarget).le.not_gt
      grind
    · rename_i htarget
      split
      · rename_i hprecedes
        have hkey : ¬directive.key < other.key := (Directive.precedes_iff.1 hprecedes).not_gt
        grind
      · rw [List.mem_cons, ih hrest, List.mem_cons]
        grind

theorem sorted_addDirective (h : Sorted filter) : Sorted (addDirective directive filter) := by
  induction filter with
  | nil => exact List.pairwise_singleton _ _
  | cons other rest ih =>
    obtain ⟨hother, hrest⟩ := List.pairwise_cons.1 h
    rw [addDirective]
    split
    · rename_i htarget
      refine List.pairwise_cons.2 ⟨?_, hrest⟩
      -- it takes the place of the directive for its target
      rw [← Directive.key_eq_iff.2 htarget]
      exact hother
    · rename_i htarget
      split
      · rename_i hprecedes
        have hkey := Directive.precedes_iff.1 hprecedes
        refine List.pairwise_cons.2 ⟨List.forall_mem_cons.2 ⟨hkey, fun e he => ?_⟩, h⟩
        exact lt_trans (hother e he) hkey
      · rename_i hprecedes
        -- it goes behind this one, and what it goes behind in the rest is smaller still
        have hkey : directive.key < other.key := by
          rw [Directive.precedes_iff, not_lt] at hprecedes
          exact lt_of_le_of_ne hprecedes fun heq => htarget (Directive.key_eq_iff.1 heq).symm
        refine List.pairwise_cons.2 ⟨fun e he => ?_, ih hrest⟩
        rcases (mem_addDirective_iff hrest).1 he with rfl | ⟨he, -⟩
        · exact hkey
        · exact hother e he

theorem sorted_filterOf (written : List Directive) : Sorted (filterOf written) := by
  induction written using List.reverseRecOn with
  | nil => exact List.Pairwise.nil
  | append_singleton front last ih =>
    rw [filterOf_append]
    exact sorted_addDirective ih

/-- The directive is written, and none of its target is written behind it. -/
def IsLast (written : List Directive) (d : Directive) : Prop :=
  ∃ before after, written = before ++ d :: after ∧ ∀ e ∈ after, e.target ≠ d.target

theorem IsLast.mem (h : IsLast written d) : d ∈ written := by
  obtain ⟨before, after, rfl, -⟩ := h
  simp

theorem isLast_append_iff : IsLast (written ++ [directive]) d ↔
    d = directive ∨ (IsLast written d ∧ d.target ≠ directive.target) := by
  constructor
  · rintro ⟨before, after, hwritten, hafter⟩
    rcases List.eq_nil_or_concat' after with rfl | ⟨rest, final, rfl⟩
    · exact Or.inl (List.singleton_inj.1 (List.append_inj' hwritten rfl).2).symm
    · rw [← List.cons_append, ← List.append_assoc] at hwritten
      obtain ⟨rfl, hfinal⟩ := List.append_inj' hwritten rfl
      obtain rfl := List.singleton_inj.1 hfinal
      have hrest : ∀ e ∈ rest, e.target ≠ d.target := fun e he => hafter e (by simp [he])
      exact Or.inr ⟨⟨before, rest, rfl, hrest⟩, (hafter directive (by simp)).symm⟩
  · rintro (rfl | ⟨⟨before, after, rfl, hafter⟩, hne⟩)
    · exact ⟨written, [], rfl, by simp⟩
    · refine ⟨before, after ++ [directive], by simp, fun e he => ?_⟩
      rcases List.mem_append.1 he with he | he
      · exact hafter e he
      · rw [List.mem_singleton.1 he]
        exact hne.symm

/-- Each target that is written has a directive that is written last. -/
theorem exists_isLast (h : e ∈ written) : ∃ d, IsLast written d ∧ d.target = e.target := by
  induction written using List.reverseRecOn with
  | nil => cases h
  | append_singleton front last ih =>
    by_cases hlast : e.target = last.target
    · exact ⟨last, isLast_append_iff.2 (Or.inl rfl), hlast.symm⟩
    · have hfront : e ∈ front := by
        rcases List.mem_append.1 h with h | h
        · exact h
        · exact absurd (congrArg Directive.target (List.mem_singleton.1 h)) hlast
      obtain ⟨d, hd, htarget⟩ := ih hfront
      exact ⟨d, isLast_append_iff.2 (Or.inr ⟨hd, htarget ▸ hlast⟩), htarget⟩

/-- Of the directives of one target the one written last is in the filter. -/
theorem mem_filterOf_iff : d ∈ filterOf written ↔ IsLast written d := by
  induction written using List.reverseRecOn with
  | nil => simp [filterOf, IsLast]
  | append_singleton front last ih =>
    rw [filterOf_append, mem_addDirective_iff (sorted_filterOf front), ih, isLast_append_iff]

/-! ## Deciding -/

/-- The first directive of a filter about a target. -/
def decider? (filter : List Directive) (target : String) : Option Directive :=
  filter.find? fun directive => directive.Covers target

/-- The level that a filter gives a target: nothing is logged under one that it is not about, and a
filter without directives lets errors through. -/
def levelOf (filter : List Directive) (target : String) : Level :=
  if filter.isEmpty then .error else (decider? filter target).elim .off Directive.level

theorem levelOf_of_decider? (h : decider? filter target = some d) :
    levelOf filter target = d.level := by
  cases filter with
  | nil => cases h
  | cons first rest => rw [levelOf, h]; rfl

/-- The directive that decides is the one about the target that reaches furthest. -/
theorem decider?_eq_some_iff (h : Sorted filter) : decider? filter target = some d ↔
    d ∈ filter ∧ d.Covers target ∧ ∀ e ∈ filter, e.Covers target → e.reach ≤ d.reach := by
  induction filter with
  | nil => simp [decider?]
  | cons other rest ih =>
    obtain ⟨hother, hrest⟩ := List.pairwise_cons.1 h
    by_cases hcovers : other.Covers target
    · have hfirst : decider? (other :: rest) target = some other := by
        simp [decider?, hcovers]
      rw [hfirst, Option.some.injEq]
      constructor
      · rintro rfl
        refine ⟨List.mem_cons_self, hcovers, List.forall_mem_cons.2 ⟨fun _ => le_rfl, ?_⟩⟩
        exact fun e he _ => Directive.reach_le_of_key_lt (hother e he)
      · rintro ⟨hd, hd', hmax⟩
        rcases List.mem_cons.1 hd with rfl | hd
        · rfl
        -- a later directive of the same reach would name the same target
        · have hreach := Directive.reach_le_of_key_lt (hother d hd)
          have heq := le_antisymm (hmax other List.mem_cons_self hcovers) hreach
          have htarget := Directive.target_eq_of_reach_eq hcovers hd' heq
          exact absurd (hother d hd) (Directive.key_eq_iff.2 htarget).le.not_gt
    · have hfirst : decider? (other :: rest) target = decider? rest target := by
        simp [decider?, hcovers]
      rw [hfirst, ih hrest]
      grind

theorem decider?_eq_none_iff :
    decider? filter target = none ↔ ∀ e ∈ filter, ¬e.Covers target := by
  simp [decider?, List.find?_eq_none]

/-- **How a list of directives is read.** For a target that directive decides which names the longest
beginning of it, and of those that name the same the one written last. -/
theorem decider?_filterOf_iff : decider? (filterOf written) target = some d ↔
    IsLast written d ∧ d.Covers target ∧
      ∀ e ∈ written, e.Covers target → e.reach ≤ d.reach := by
  rw [decider?_eq_some_iff (sorted_filterOf written), mem_filterOf_iff]
  refine and_congr_right fun _ => and_congr_right fun _ => ?_
  constructor
  · intro hmax e he hcovers
    obtain ⟨last, hlast, htarget⟩ := exists_isLast he
    have hreach := hmax last (mem_filterOf_iff.2 hlast)
      ((Directive.covers_congr htarget).2 hcovers)
    rwa [Directive.reach_congr htarget] at hreach
  · intro hmax e he hcovers
    exact hmax e (mem_filterOf_iff.1 he).mem hcovers

/-- One more directive decides for a target that it is about unless another reaches further. -/
theorem levelOf_addDirective (h : Sorted filter) (hd : d.Covers target) :
    levelOf (addDirective d filter) target =
      if ∃ e ∈ filter, e.Covers target ∧ d.reach < e.reach then levelOf filter target
      else d.level := by
  have hsorted : Sorted (addDirective d filter) := sorted_addDirective h
  split
  · rename_i hfurther
    obtain ⟨e, he, hcovers, hreach⟩ := hfurther
    cases hm : decider? filter target with
    | none => exact absurd hcovers (decider?_eq_none_iff.1 hm e he)
    | some m =>
      obtain ⟨hmem, hm', hmax⟩ := (decider?_eq_some_iff h).1 hm
      have hlt : d.reach < m.reach := lt_of_lt_of_le hreach (hmax e he hcovers)
      have hne : m.target ≠ d.target := fun htarget =>
        hlt.ne (Directive.reach_congr htarget).symm
      have hdecides : decider? (addDirective d filter) target = some m := by
        refine (decider?_eq_some_iff hsorted).2
          ⟨(mem_addDirective_iff h).2 (Or.inr ⟨hmem, hne⟩), hm', fun e he hcovers => ?_⟩
        rcases (mem_addDirective_iff h).1 he with rfl | ⟨he, -⟩
        · exact hlt.le
        · exact hmax e he hcovers
      rw [levelOf_of_decider? hdecides, levelOf_of_decider? hm]
  · rename_i hnone
    have hdecides : decider? (addDirective d filter) target = some d := by
      refine (decider?_eq_some_iff hsorted).2
        ⟨(mem_addDirective_iff h).2 (Or.inl rfl), hd, fun e he hcovers => ?_⟩
      rcases (mem_addDirective_iff h).1 he with rfl | ⟨he, -⟩
      · exact le_rfl
      · exact not_lt.1 fun hreach => hnone ⟨e, he, hcovers, hreach⟩
    exact levelOf_of_decider? hdecides

/-! ## Written lists -/

/-- The directives of a comma-separated list as they are written, or nothing if an item is
malformed. -/
def written? (text : String) : Option (List Directive) :=
  ((Text.parts ',' text).filter fun item => !item.isEmpty).mapM Directive.parse?

theorem parseDirectives?_eq (text : String) :
    parseDirectives? text = (written? text).map filterOf := by
  rw [parseDirectives?, written?]
  cases ((Text.parts ',' text).filter fun item => !item.isEmpty).mapM Directive.parse? <;> rfl

/-- What is written behind a comma comes behind what is written before it. -/
theorem written?_append (front back : String) : written? (front ++ "," ++ back) = do
    let before ← written? front
    let after ← written? back
    return before ++ after := by
  have hparts : Text.parts ',' (front ++ "," ++ back) =
      Text.parts ',' front ++ Text.parts ',' back := by
    have hjoin : (front ++ "," ++ back).toList = Text.join ',' [front.toList, back.toList] := by
      simp [Text.join_cons, Text.join_singleton]
    simp [Text.parts, hjoin, Text.splitAll_join_flatMap]
  rw [written?, hparts, List.filter_append, List.mapM_append]
  rfl

end BeanMapper.Log
