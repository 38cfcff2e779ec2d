import BeanMapper.Proofs.Selection.Inference
import BeanMapper.Proofs.Selection.Meaning

/-!
# Methods that the type selector keeps

The type selector hands a method on with what its parameters receive and with the values of its type
parameters. With these values put in, everything fits: what each parameter receives, and what the
method gives (`Selector.kept_fits`).
-/

namespace BeanMapper

/-- **Inferred types fit.** In a request about well-formed types, a method that the type selector
keeps has one binding for each parameter, in order, with its name, type and role. With the inferred
types put in, each parameter accepts what it receives: the source, the target, or a context
parameter at hand; and if the method gives a result, that fits the target. -/
theorem Selector.kept_fits {request : Request} {selected : List Selected} {s : Selected}
    (hr : request.WellFormed) (hc : s.candidate.toSignature.WellFormed request.table)
    (hs : s ∈ Selector.type.apply request selected) :
    List.Forall₂ (Binding.Binds request s.typeBindings) s.candidate.parameters s.bindings ∧
      (s.candidate.GivesResult → request.table.isAssignable
        (s.candidate.returnType.substitute s.typeBindings) request.target = true) :=
  Matching.bind?_sound hr hc (mem_apply_type_iff.1 hs).2

/-! ## A book from a shelf -/

namespace Library

/-- A rack is a shelf, whatever stands in it, and a keeper is a clerk. -/
def classes : ClassTable := .declareAll {} [
  { ClassDecl.interface "lib.Shelf" with typeParams := ["E"] },
  (ClassDecl.plain "lib.Rack").generic ["S"] ["lib.Shelf<S>"],
  .plain "lib.Book", .plain "lib.Visitor", .plain "lib.Clerk",
  (ClassDecl.plain "lib.Keeper").generic [] ["lib.Clerk"]]

/-- Takes a thing of a given class from a shelf, with the help of a clerk. -/
def take : Candidate where
  name := "take"
  parameters := [
    { name := "shelf", ty := .declared "lib.Shelf" [.typeVar "T"] },
    { name := "kind", ty := .declared "java.lang.Class" [.typeVar "T"], role := .targetType },
    { name := "clerk", ty := .named "lib.Clerk", role := .context }]
  returnType := .typeVar "T"
  typeParameters := ["T"]
  owner := some (.named "lib.Desk")

/-- A book is asked for, and there are a rack of books, a visitor and a keeper. -/
def request : Request where
  table := classes
  criteria := .mapping
  source := some (.declared "lib.Rack" [.named "lib.Book"])
  target := .named "lib.Book"
  context := [{ name := "visitor", ty := .named "lib.Visitor", role := .context },
    { name := "keeper", ty := .named "lib.Keeper", role := .context }]

/-- The method as it is kept: it takes the rack as a shelf of books, and the keeper as a clerk. -/
def kept : Selected where
  index := 0
  candidate := take
  bindings := [⟨"shelf", .declared "lib.Shelf" [.typeVar "T"], .sourceValue⟩,
    ⟨"kind", .declared "java.lang.Class" [.typeVar "T"], .targetType (.named "lib.Book")⟩,
    ⟨"clerk", .named "lib.Clerk", .context "keeper"⟩]
  typeBindings := [("T", .named "lib.Book")]

theorem request_wellFormed : request.WellFormed where
  supertypes := by decide +kernel
  source := by
    rintro source ⟨⟩
    decide +kernel
  target := by decide +kernel
  context := by decide +kernel

/-- The book fits, and the keeper does. -/
theorem kept_fits_take : request.WellFormed ∧ take.toSignature.WellFormed classes ∧
    kept ∈ Selector.type.apply request (Selected.ofCandidates [take]) ∧
    List.Forall₂ (Binding.Binds request kept.typeBindings) take.parameters kept.bindings ∧
    classes.isAssignable ((Ty.typeVar "T").substitute kept.typeBindings) (.named "lib.Book") =
      true := by
  have hsignature : take.toSignature.WellFormed classes := ⟨by decide +kernel, by decide +kernel⟩
  have hkept : kept ∈ Selector.type.apply request (Selected.ofCandidates [take]) := by
    decide +kernel
  obtain ⟨hbinds, hfits⟩ := Selector.kept_fits (s := kept) request_wellFormed hsignature hkept
  exact ⟨request_wellFormed, hsignature, hkept, hbinds, hfits (Or.inr ⟨rfl, rfl⟩)⟩

end Library

end BeanMapper
