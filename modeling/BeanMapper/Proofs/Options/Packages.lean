import BeanMapper.Options.Layer
import BeanMapper.Proofs.Text.Segments

/-!
# Packages of implementations

The package of an implementation is written after a pattern, in which a placeholder stands for the
package of the mapper. Where the mapper has none, the placeholder leaves an empty part behind; the
empty parts at both ends are left out (`implementationPackageFor_eq`), and one between two other
parts stays. So the package is well formed unless the mapper has no package and the pattern has its
placeholder between two other parts (`implementationPackage_dotted_iff`).
-/

namespace BeanMapper.Options

open Text (splitAll trimmed)

/-- A dotted name: parts between dots, none of which is empty. -/
def IsDotted (name : String) : Prop := ∀ part ∈ splitAll '.' name.toList, part ≠ []

/-- The placeholder as a part of a pattern. -/
def placeholder : List Char := packageNamePlaceholder.toList

/-- A well-formed pattern: each part between dots is the placeholder, or is not empty and does not
hold it. -/
def IsPattern (pattern : String) : Prop :=
  ∀ part ∈ splitAll '.' pattern.toList,
    part = placeholder ∨ (part ≠ [] ∧ Text.occursIn placeholder part = false)

/-- The placeholder stands between two other parts of a pattern. -/
def Encloses (pattern : String) : Prop :=
  ∃ before after, splitAll '.' pattern.toList = before ++ placeholder :: after ∧
    (∃ part ∈ before, part ≠ placeholder) ∧ ∃ part ∈ after, part ≠ placeholder

instance (name : String) : Decidable (IsDotted name) :=
  inferInstanceAs (Decidable (∀ part ∈ splitAll '.' name.toList, part ≠ []))

instance (pattern : String) : Decidable (IsPattern pattern) :=
  inferInstanceAs (Decidable (∀ part ∈ splitAll '.' pattern.toList,
    part = placeholder ∨ (part ≠ [] ∧ Text.occursIn placeholder part = false)))

/-! ## Filled patterns -/

/-- The parts of a pattern with those of a package, or an empty one, for each placeholder. -/
def filledParts (pattern : String) (package : Option String) : List (List Char) :=
  (splitAll '.' pattern.toList).flatMap fun part =>
    if part = placeholder then splitAll '.' (package.getD "").toList else [part]

variable {options : Options} {pattern : String} {package : Option String}

theorem splitAll_filled (h : IsPattern pattern) :
    splitAll '.' (Text.replaceFrom placeholder (package.getD "").toList 0 pattern.toList) =
      filledParts pattern package := by
  have hdot : '.' ∉ placeholder := by decide
  have hne : placeholder ≠ [] := by decide
  rw [Text.splitAll_replaceFrom hdot hne, filledParts]
  refine List.flatMap_congr fun part hpart => ?_
  by_cases hplace : part = placeholder
  · rw [if_pos hplace, hplace, Text.replaceFrom_self hne]
  · have hwithout := ((h part hpart).resolve_left hplace).2
    rw [if_neg hplace, Text.replaceFrom_of_not_occursIn hwithout,
      Text.splitAll_of_not_mem (Text.not_mem_of_mem_splitAll hpart)]

theorem dot_not_mem_of_mem_filledParts {part : List Char} (h : part ∈ filledParts pattern package) :
    '.' ∉ part := by
  obtain ⟨original, horiginal, hpart⟩ := List.mem_flatMap.1 h
  split at hpart
  · exact Text.not_mem_of_mem_splitAll hpart
  · cases List.mem_singleton.1 hpart
    exact Text.not_mem_of_mem_splitAll horiginal

/-- The package of an implementation is joined of the filled parts, without the empty ones at either
end. -/
theorem implementationPackageFor_eq (h : IsPattern options.implementationPackage) :
    options.implementationPackageFor package =
      let parts := trimmed (filledParts options.implementationPackage package)
      if parts = [] then none else some (String.ofList (Text.join '.' parts)) := by
  have hdots : ∀ part ∈ filledParts options.implementationPackage package, '.' ∉ part :=
    fun _ => dot_not_mem_of_mem_filledParts
  have hfilled :
      Text.replaceFrom placeholder (package.getD "").toList 0 options.implementationPackage.toList =
        Text.join '.' (filledParts options.implementationPackage package) := by
    rw [← splitAll_filled h, Text.join_splitAll]
  simp only [implementationPackageFor, Text.replace, String.toList_ofList]
  rw [← placeholder, hfilled, Text.trimBoth_join hdots]
  split
  · rename_i hnone
    rw [if_pos ((Text.join_trimmed_eq_nil_iff hdots).1 hnone)]
  · rename_i hsome
    rw [if_neg (mt (Text.join_trimmed_eq_nil_iff hdots).2 hsome)]

theorem isDotted_implementationPackage_iff (h : IsPattern options.implementationPackage) :
    (∀ name ∈ options.implementationPackageFor package, IsDotted name) ↔
      [] ∉ trimmed (filledParts options.implementationPackage package) := by
  rw [implementationPackageFor_eq h]
  dsimp only
  split
  · rename_i hnone
    simp [hnone]
  · rename_i hsome
    have hdots : ∀ part ∈ trimmed (filledParts options.implementationPackage package),
        '.' ∉ part := fun _ hmem => dot_not_mem_of_mem_filledParts (Text.mem_of_mem_trimmed hmem)
    simp only [Option.mem_def, Option.some.injEq, forall_eq', IsDotted, String.toList_ofList,
      Text.splitAll_join hdots hsome]
    exact ⟨fun hall hnil => hall [] hnil rfl, fun hnil part hmem hpart => hnil (hpart ▸ hmem)⟩

/-! ## Empty parts -/

theorem ne_nil_of_mem_filledParts {name : String} (hpattern : IsPattern pattern)
    (hname : IsDotted name) {part : List Char} (h : part ∈ filledParts pattern (some name)) :
    part ≠ [] := by
  obtain ⟨original, horiginal, hpart⟩ := List.mem_flatMap.1 h
  split at hpart
  · exact hname part hpart
  · rename_i hplace
    cases List.mem_singleton.1 hpart
    exact ((hpattern part horiginal).resolve_left hplace).1

theorem filledParts_ne_nil (pattern : String) (package : Option String) :
    filledParts pattern package ≠ [] := by
  obtain ⟨first, rest, hparts⟩ :=
    List.exists_cons_of_ne_nil (Text.splitAll_ne_nil '.' pattern.toList)
  rw [filledParts, hparts, List.flatMap_cons]
  refine List.append_ne_nil_of_left_ne_nil ?_ _
  split
  · exact Text.splitAll_ne_nil _ _
  · exact List.cons_ne_nil _ _

/-- A part of a pattern for a mapper without a package: nothing is left of the placeholder. -/
def withoutPlaceholder (part : List Char) : List Char := if part = placeholder then [] else part

theorem filledParts_none (pattern : String) :
    filledParts pattern none = (splitAll '.' pattern.toList).map withoutPlaceholder := by
  rw [filledParts, List.map_eq_flatMap]
  refine List.flatMap_congr fun part _ => ?_
  rw [withoutPlaceholder]
  split <;> rfl

theorem withoutPlaceholder_eq_nil_iff (h : IsPattern pattern) {part : List Char}
    (hpart : part ∈ splitAll '.' pattern.toList) :
    withoutPlaceholder part = [] ↔ part = placeholder := by
  rw [withoutPlaceholder]
  split
  · rename_i hplace
    exact iff_of_true rfl hplace
  · rename_i hplace
    exact iff_of_false ((h part hpart).resolve_left hplace).1 hplace

theorem exists_ne_nil_iff (h : IsPattern pattern) {parts : List (List Char)}
    (hparts : parts ⊆ splitAll '.' pattern.toList) :
    (∃ part ∈ parts.map withoutPlaceholder, part ≠ []) ↔ ∃ part ∈ parts, part ≠ placeholder := by
  simp only [List.mem_map, exists_exists_and_eq_and]
  exact exists_congr fun part => and_congr_right fun hpart =>
    not_congr (withoutPlaceholder_eq_nil_iff h (hparts hpart))

/-- Without a package, an empty part stays where the placeholder stands between two other parts. -/
theorem nil_mem_trimmed_none_iff (h : IsPattern pattern) :
    [] ∈ trimmed (filledParts pattern none) ↔ Encloses pattern := by
  rw [filledParts_none, Text.nil_mem_trimmed_iff]
  constructor
  · rintro ⟨_, _, heq, hbefore, hafter⟩
    obtain ⟨before, rest, hparts, rfl, hrest⟩ := List.map_eq_append_iff.1 heq
    obtain ⟨part, after, rfl, hpart, rfl⟩ := List.map_eq_cons_iff.1 hrest
    have hplace : part = placeholder :=
      (withoutPlaceholder_eq_nil_iff h (hparts ▸ by simp)).1 hpart
    refine ⟨before, after, hplace ▸ hparts, ?_, ?_⟩
    · exact (exists_ne_nil_iff h (hparts ▸ List.subset_append_left _ _)).1 hbefore
    · exact (exists_ne_nil_iff h (hparts ▸ by simp)).1 hafter
  · rintro ⟨before, after, hparts, hbefore, hafter⟩
    refine ⟨before.map withoutPlaceholder, after.map withoutPlaceholder, ?_, ?_, ?_⟩
    · rw [hparts, List.map_append, List.map_cons, withoutPlaceholder, if_pos rfl]
    · exact (exists_ne_nil_iff h (hparts ▸ List.subset_append_left _ _)).2 hbefore
    · exact (exists_ne_nil_iff h (hparts ▸ by simp)).2 hafter

/-! ## Well-formed packages -/

/-- **Only an enclosed placeholder leaves an empty part.** After a well-formed pattern, for a mapper
with a well-formed package or none, the package of an implementation is a dotted name unless the
mapper has no package and the pattern has its placeholder between two other parts. There is no
package exactly if the mapper has none and the pattern is made of placeholders alone. -/
theorem implementationPackage_dotted_iff (hpattern : IsPattern options.implementationPackage)
    (hpackage : ∀ name ∈ package, IsDotted name) :
    ((∀ name ∈ options.implementationPackageFor package, IsDotted name) ↔
        ¬(package = none ∧ Encloses options.implementationPackage)) ∧
      (options.implementationPackageFor package = none ↔ package = none ∧
        ∀ part ∈ splitAll '.' options.implementationPackage.toList, part = placeholder) := by
  have hnone : options.implementationPackageFor package = none ↔
      ∀ part ∈ filledParts options.implementationPackage package, part = [] := by
    rw [implementationPackageFor_eq hpattern, ← Text.trimmed_eq_nil_iff]
    simp
  rw [isDotted_implementationPackage_iff hpattern, hnone]
  cases package with
  | none =>
    rw [nil_mem_trimmed_none_iff hpattern, filledParts_none, List.forall_mem_map]
    refine ⟨not_congr (and_iff_right rfl).symm, ?_⟩
    rw [and_iff_right rfl]
    exact forall₂_congr fun part hpart => withoutPlaceholder_eq_nil_iff hpattern hpart
  | some name =>
    -- with a package every placeholder is filled, so no part is empty
    have hfilled : ∀ part ∈ filledParts options.implementationPackage (some name), part ≠ [] :=
      fun _ => ne_nil_of_mem_filledParts hpattern (hpackage name rfl)
    refine ⟨iff_of_true (fun hnil => ?_) (by simp), iff_of_false (fun hall => ?_) (by simp)⟩
    · exact hfilled [] (Text.mem_of_mem_trimmed hnil) rfl
    · obtain ⟨part, hpart⟩ :=
        List.exists_mem_of_ne_nil _ (filledParts_ne_nil options.implementationPackage (some name))
      exact hfilled part hpart (hall part hpart)

/-- Options that put the implementation into a package of its own, around that of the mapper. -/
def enclosing : Options := .ofLayer { implementationPackage := some "app.<PACKAGE_NAME>.impl" }

/-- Around a package of two parts. -/
theorem implementationPackage_dotted_iff_shop :
    enclosing.implementationPackageFor (some "shop.order") = some "app.shop.order.impl" ∧
      ∀ name ∈ enclosing.implementationPackageFor (some "shop.order"), IsDotted name := by
  have hpattern : IsPattern enclosing.implementationPackage := by decide +kernel
  have hpackage : ∀ name ∈ some "shop.order", IsDotted name := by decide +kernel
  refine ⟨by decide +kernel, ?_⟩
  exact (implementationPackage_dotted_iff hpattern hpackage).1.2 (by simp)

/-- Without a package, there are two dots in the place of the placeholder. -/
theorem not_always_dotted : ¬∀ (options : Options) (package : Option String),
    IsPattern options.implementationPackage → (∀ name ∈ package, IsDotted name) →
      ∀ name ∈ options.implementationPackageFor package, IsDotted name := by
  intro h
  have hpattern : IsPattern enclosing.implementationPackage := by decide +kernel
  have hpackage : enclosing.implementationPackageFor none = some "app..impl" := by decide +kernel
  have hdotted : IsDotted "app..impl" := h enclosing none hpattern (by simp) _ hpackage
  exact absurd hdotted (by decide +kernel)

end BeanMapper.Options
